import CellRunner.Files.Path
import CellRunner.Json.Reader
import CellRunner.Text.Blank

/-!
A project file offers session commands: it is a JSON object whose member `cmd` is one command
or a list of them. The commands of a workspace are those of its project files, the ones nearest
to the root first, without blank and repeated commands.
-/

namespace CellRunner.Project

/-- The name of a project file. -/
def fileName : String :=
  "haskit.json"

inductive ContentError where
  | invalidJson
  | notAnObject
  /-- The object's `cmd` is neither a command nor a list of commands. -/
  | unexpectedShape
deriving DecidableEq, Repr

def ContentError.message : ContentError → String
  | .invalidJson => "Invalid JSON"
  | .notAnObject => "Expected a JSON object"
  | .unexpectedShape => "Unexpected haskit.json shape"

/-- A missing `cmd` and one that is null give no command. -/
def commandsOf? : Option Json.Value → Option (List String)
  | none | some .null => some []
  | some (.string command) => some [command]
  | some (.array items) => items.mapM Json.Value.string?
  | _ => none

def readCommands (content : String) : Except ContentError (List String) :=
  match Json.Value.parse? content with
  | none => .error .invalidJson
  | some (.object members) =>
      match commandsOf? (Json.Value.member? members "cmd") with
      | none => .error .unexpectedShape
      | some commands => .ok commands
  | some _ => .error .notAnObject

/-- What a file contributes; nothing if it cannot be read or is malformed. -/
def contribution (content : Option String) : List String :=
  (content.bind (fun content => (readCommands content).toOption)).getD []

/-- The commands of project files given by path and content, whatever order they are in. -/
def collect (files : List (String × Option String)) : List String :=
  let ordered := files.mergeSort (fun a b => (Path.depthOrder a.1 b.1).isLE)
  ((ordered.flatMap (fun file => contribution file.2)).filter
    (fun command => !Text.allBlank command)).eraseDups

end CellRunner.Project
