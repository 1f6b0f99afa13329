import CellRunner.Document
import CellRunner.Files.Access
import CellRunner.Request.Failure

/-!
What a user may ask for: sending a part of a source file into a session, opening a session, and
listing the sessions. A dismissed menu and an empty range are answers, not failures.
-/

namespace CellRunner

structure SendRequest where
  path : String
  range : Option LineRange
  selection : Option Selection
  /-- The command for a session that has to be started. -/
  command : Option String
deriving DecidableEq, Repr

/-- Where requests are carried out. -/
structure Workplace (m : Type → Type) where
  files : FileAccess m
  setup : SessionSetup
  host : TerminalHost m
  chooser : CommandChooser m

namespace Failure

def opening (error : SessionError) : Failure where
  subject := "Failed to open session"
  causes := error.causes

def sending (error : SessionError) : Failure where
  subject := "Failed to send source"
  causes := error.causes

def listing (error : HostError) : Failure where
  subject := "Failed to list sessions"
  causes := error.causes

def reading (path : String) (error : FileError) : Failure where
  subject := "Failed to read source file " ++ path
  causes := [error.message]

end Failure

variable {m : Type → Type} [Monad m]

/-- A source file as a document that is named by its path. -/
def Document.load (files : FileAccess m) (path : String) : ExceptT Failure m Document := do
  let text ← (files.readText path).adapt (Failure.reading path)
  return ⟨path, text⟩

namespace Workplace

/-- The new session, unless the menu is dismissed. -/
def openSession (workplace : Workplace m) (command : Option String)
    : ExceptT Failure m (Option Terminal) :=
  (workplace.setup.openSession workplace.host workplace.chooser command).adapt Failure.opening

def send (workplace : Workplace m) (request : SendRequest) : ExceptT Failure m Delivery := do
  let doc ← Document.load workplace.files request.path
  let excerpt := doc.excerpt request.range request.selection
  (workplace.setup.deliver workplace.host workplace.chooser doc.name doc.lineCount excerpt
    request.command).adapt Failure.sending

def sessions (workplace : Workplace m) : ExceptT Failure m (List Terminal) :=
  (workplace.setup.sessions workplace.host).adapt Failure.listing

end Workplace

end CellRunner
