import CellRunner.Files.Error
import CellRunner.Files.Path

/-!
What a program may ask about files. All paths are seen from the working directory.
-/

namespace CellRunner

inductive FileKind where
  | file
  | directory
deriving DecidableEq, Repr

structure FileAccess (m : Type → Type) where
  read (path : String) : ExceptT FileError m ByteArray
  /-- Nothing for a path at which there is nothing. -/
  kind (path : String) : m (Option FileKind)
  /-- The names in a directory, in any order. -/
  names (directory : String) : m (List String)
  /-- The absolute path without dots, of a path at which there is something. -/
  realPath (path : String) : m (Option String)

namespace FileAccess

variable {m : Type → Type} [Monad m]

def readText (files : FileAccess m) (path : String) : ExceptT FileError m String := do
  match String.fromUTF8? (← files.read path) with
  | some text => return text
  | none => throw .notText

end FileAccess

end CellRunner
