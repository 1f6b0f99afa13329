import CellRunner.CommandLine.Program
import CellRunner.Files.Tree
import CellRunner.Terminal.Input
import CellRunner.Tmux.Script

/-!
A machine held in memory to run the program on: a tree of files, variables, a scripted tmux as
its only program, and a terminal with all of its input waiting.
-/

namespace CellRunner.CommandLine

structure Machine where
  files : FileTree
  /-- The names that lead to the working directory. -/
  workingDirectory : List String
  variableValues : List (String × String) := []
  tmux : Tmux.Script
  /-- Columns and rows, if there is a terminal. -/
  screen : Option (Nat × Nat) := none
  /-- What the terminal's user has typed and the program has not read. -/
  events : List (Option KeyPress) := []
  printed : String := ""
  errors : String := ""

namespace Machine

abbrev Run := StateM Machine

def print (text : String) (machine : Machine) : Machine :=
  { machine with printed := machine.printed ++ text }

def printError (text : String) (machine : Machine) : Machine :=
  { machine with errors := machine.errors ++ text }

def access (workingDirectory : List String) : FileAccess Run :=
  FileTree.access (return (← get).files) workingDirectory

/-- Puts a leaf at a path at which there is nothing, in a directory. -/
def create (leaf : FileTree) (path : String) (machine : Machine) : Machine :=
  match machine.files.locate machine.workingDirectory path with
  | .error _ => machine
  | .ok place =>
      if (machine.files.find? place).isSome then machine
      else { machine with files := FileTree.insert leaf place machine.files }

/-- Why a program cannot be started. The directory that programs are looked for in holds tmux
alone, and a name with a slash leads to a file or a directory, neither of which can be run. -/
def refusal (machine : Machine) (program : String) : Option FileError :=
  if program.toList.contains '/' then
    match machine.files.lookup machine.workingDirectory program with
    | .ok _ => some .permissionDenied
    | .error error => some error
  else if program = "tmux" then none
  else if program = "." || program = ".." then some .permissionDenied
  else if 255 < program.utf8ByteSize then some .nameTooLong
  else some .notFound

def runProcess (program : String) (args : List String) (input : Option String)
    : ExceptT String Run ProcessResult := do
  if (program :: args).any (fun text => text.toList.contains (Char.ofNat 0)) then
    throw "nul byte found in provided data"
  let machine ← get
  match machine.refusal program with
  | some error => throw error.message
  | none =>
      let (result, tmux) := (Tmux.Script.serve ⟨program, args, input.getD ""⟩).run machine.tmux
      set { machine with tmux := tmux }
      return result

def requireScreen : ExceptT String Run (Nat × Nat) := do
  match (← get).screen with
  | some size => return size
  | none => throw "No such device or address (os error 6)"

def terminal : DialogTerminal Run where
  enableRawMode := do
    let _ ← requireScreen
  disableRawMode := do
    let _ ← requireScreen
  size := requireScreen
  write outputs := modify (print (Output.encodeAll outputs))
  readEvent := do
    let machine ← get
    match machine.events with
    | [] => throw "The terminal was closed."
    | event :: rest =>
        set { machine with events := rest }
        match event with
        | some press => return .key press
        | none => return .other

def environment (machine : Machine) : Environment Run where
  variableValue name := return (machine.variableValues.find? (·.1 == name)).map (·.2)
  workingDirectory := return "/" ++ "/".intercalate machine.workingDirectory
  files := access machine.workingDirectory
  makeDirectory path :=
    ((Path.ancestors path).reverse ++ [path]).forM (fun path => modify (create .empty path))
  touch path := modify (create (.file .empty) path)
  processes := { run := runProcess }
  terminal := terminal
  patience := machine.events.length + 1
  print text := modify (print text)
  printError text := modify (printError text)

/-- The exit status, and the machine as the program leaves it. -/
def run (machine : Machine) (arguments : List String) : Nat × Machine :=
  (machine.environment.run arguments).run machine

end Machine

end CellRunner.CommandLine
