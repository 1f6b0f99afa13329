import CellRunner.CommandLine.Program

/-!
The program on a real machine: its arguments, variables, files and standard streams. No other
program is started and no terminal is taken over here, so a request that needs tmux or the
picker fails with the reason.
-/

namespace CellRunner.CommandLine.Real

def fileError : IO.Error → FileError
  | .noFileOrDirectory .. => .notFound
  | .permissionDenied .. => .permissionDenied
  | .inappropriateType _ code _ => if code = 21 then .isDirectory else .notDirectory
  | error => .other (toString error)

def read (path : String) : ExceptT FileError IO ByteArray :=
  ExceptT.mk
    (try
      return .ok (← IO.FS.readBinFile path)
    catch error => return .error (fileError error))

def realPath (path : String) : IO (Option String) :=
  try
    return some (← IO.FS.realPath path).toString
  catch _ => return none

def kind (path : String) : IO (Option FileKind) :=
  try
    let isDirectory ← (← IO.FS.realPath path).isDir
    return some (if isDirectory then .directory else .file)
  catch _ => return none

def names (directory : String) : IO (List String) :=
  try
    let found ← (← IO.FS.realPath directory).readDir
    return found.toList.map (·.fileName)
  catch _ => return []

def attempt (action : IO Unit) : IO Unit :=
  try action catch _ => return ()

def noTerminal {α : Type} : ExceptT String IO α :=
  throw "There is no terminal to ask on."

def environment : Environment IO where
  variableValue name := IO.getEnv name
  workingDirectory := return (← IO.currentDir).toString
  files := ⟨read, kind, names, realPath⟩
  makeDirectory path := attempt (IO.FS.createDirAll path)
  touch path := attempt (do let _ ← IO.FS.Handle.mk path .append)
  processes := { run := fun _ _ _ => throw "Programs cannot be started here." }
  terminal := ⟨noTerminal, noTerminal, noTerminal, fun _ => noTerminal, noTerminal⟩
  patience := 0
  print text := IO.print text
  printError text := IO.eprint text

end CellRunner.CommandLine.Real

def main (arguments : List String) : IO UInt32 := do
  return (← CellRunner.CommandLine.Real.environment.run arguments).toUInt32
