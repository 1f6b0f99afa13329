import CellRunner.Files.Access
import CellRunner.Session.Setup
import CellRunner.Toml.Reader

/-!
The user's configuration. Every key of the document may be left out and unknown keys do not
count, but one mistake anywhere makes the whole document count as absent.
-/

namespace CellRunner

structure Config where
  policy : SessionPolicy := {}
  templates : List Candidate :=
    [ ⟨"stack run ", some "Build & Run with Stack"⟩,
      ⟨"cabal run hski", some "Build & Run with Cabal"⟩ ]
  /-- The tmux program. -/
  tmux : String := "tmux"
deriving DecidableEq, Repr

namespace Config

open Toml (Value)

/-- The value of a key, or the standard one when the key is left out. A value that `read`
refuses is a mistake. -/
def setting {α : Type} (entries : List (String × Value)) (key : String)
    (read : Value → Option α) (standard : α) : Option α :=
  match Value.valueAt entries key with
  | none => some standard
  | some value => read value

def readStrings : Value → Option (List String)
  | .array items => items.mapM Value.string?
  | _ => none

/-- A template is a table, or an array of its command and its description. -/
def readTemplate : Value → Option Candidate
  | .table entries => do
      let command ← (← Value.valueAt entries "command").string?
      let description ← setting entries "description" (Option.map some ∘ Value.string?) none
      return ⟨command, description⟩
  | .array [command] => do
      return ⟨← command.string?, none⟩
  | .array (command :: description :: _) => do
      return ⟨← command.string?, some (← description.string?)⟩
  | _ => none

def readTemplates : Value → Option (List Candidate)
  | .array items => items.mapM readTemplate
  | _ => none

def ofEntries? (entries : List (String × Value)) : Option Config := do
  let standard : Config := {}
  let mark ← setting entries "session_prefix" Value.string? standard.policy.mark
  let launcher ← setting entries "launcher" Value.string? standard.policy.launcher
  let launcherArgs ← setting entries "launcher_args" readStrings standard.policy.launcherArgs
  let defaultCommand ←
    setting entries "default_command" Value.string? standard.policy.defaultCommand
  let templates ← setting entries "templates" readTemplates standard.templates
  let tmux ← setting entries "tmux" Value.string? standard.tmux
  return ⟨⟨mark, launcher, launcherArgs, defaultCommand⟩, templates, tmux⟩

def ofText (text : String) : Config :=
  ((Toml.parse? text).bind ofEntries?).getD {}

/-- A document that is not text counts as absent, too. -/
def ofBytes (content : ByteArray) : Config :=
  ((String.fromUTF8? content).map ofText).getD {}

variable {m : Type → Type} [Monad m]

/-- The configuration in a file; the standard one if the file cannot be read. -/
def load (files : FileAccess m) (path : String) : m Config := do
  match ← (files.read path).run with
  | .ok content => return ofBytes content
  | .error _ => return {}

/-- What sessions may be started with in a workspace that offers `projectCommands`. -/
def setup (config : Config) (projectCommands : List String) : SessionSetup :=
  ⟨config.policy, projectCommands, config.templates⟩

end Config

end CellRunner
