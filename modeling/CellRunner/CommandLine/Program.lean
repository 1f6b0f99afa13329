import CellRunner.Cell.Lens
import CellRunner.CommandLine.Arguments
import CellRunner.CommandLine.Usage
import CellRunner.Config
import CellRunner.LogFilter
import CellRunner.Project.Discovery
import CellRunner.Terminal.Dialog
import CellRunner.Tmux.Host

/-!
The whole program, over the environment that it runs in. It ends with an exit status: 0 for a
request that was carried out or dismissed, 1 for one that failed, 2 for wrong arguments.
-/

namespace CellRunner.CommandLine

structure Environment (m : Type → Type) where
  variableValue (name : String) : m (Option String)
  /-- An absolute path. -/
  workingDirectory : m String
  files : FileAccess m
  /-- Makes a directory, and those above it. Nothing is done where that is impossible. -/
  makeDirectory (path : String) : m Unit
  /-- Makes an empty file unless there is one. Nothing is done where that is impossible. -/
  touch (path : String) : m Unit
  processes : ProcessRunner m
  terminal : DialogTerminal m
  /-- The most terminal events that one dialog reads. -/
  patience : Nat
  print (text : String) : m Unit
  printError (text : String) : m Unit

namespace Environment

variable {m : Type → Type} [Monad m]

def homeDirectory (env : Environment m) : m (Option String) := do
  match ← env.variableValue "HOME" with
  | some home => return some home
  | none => env.variableValue "USERPROFILE"

/-- The directory of the program's own files, which is made if it is missing. -/
def ownDirectory (env : Environment m) : m (Option String) := do
  match ← env.homeDirectory with
  | none => return none
  | some home =>
      let directory := Path.join home ".haskit"
      if (← env.files.kind directory).isNone then env.makeDirectory directory
      return some directory

/-- The log is in the working directory if there is no home directory. -/
def openLog (env : Environment m) : m Unit := do
  match ← env.ownDirectory with
  | some directory => env.touch (Path.join directory "haskit.log")
  | none => env.touch "haskit.log"

/-- Directives of the log filter that are wrong do not stop the program. -/
def reportRefusals (env : Environment m) (logLevel : Option String) : m Unit :=
  (LogFilter.refusals (logLevel.getD "")).forM (fun line => env.printError (line ++ "\n"))

def loadConfig (env : Environment m) : m Config := do
  match ← env.ownDirectory with
  | some directory => Config.load env.files (Path.join directory "config.toml")
  | none => return {}

/-- Settings are in the home directory that `HOME` names, and in a directory below it unless
another is given. -/
def userPlaces (env : Environment m) : m Ignore.UserPlaces := do
  let home ← env.variableValue "HOME"
  let given := (← env.variableValue "XDG_CONFIG_HOME").filter (fun path => !path.isEmpty)
  return ⟨home, given <|> home.map (Path.join · ".config")⟩

/-- tmux is the host, and the terminal of the environment asks for commands. -/
def workplace (env : Environment m) (workspace : Option String) : m (Workplace m) := do
  let config ← env.loadConfig
  let root ←
    match workspace with
    | some directory => pure directory
    | none => env.workingDirectory
  let userRules ← Ignore.UserRules.read env.files (← env.userPlaces) (← env.workingDirectory)
  return {
    files := env.files
    setup := config.setup (← Project.discover env.files root userRules)
    host := Tmux.host env.processes config.tmux
    chooser := Dialog.chooser env.terminal env.patience }

def printSession (env : Environment m) (session : Terminal) : m Unit :=
  env.print (session.id ++ "\t" ++ session.name ++ "\n")

def reportDelivery (env : Environment m) : Delivery → m Unit
  | .sent session frame =>
      env.printError
        ("Sent " ++ Text.Decimal.write frame.lineCount ++ " line(s) to " ++ session.name ++ "\n")
  | .empty => env.printError "No Edh source to send.\n"
  | .cancelled => return ()

def perform (env : Environment m) (workplace : Workplace m)
    : Request → ExceptT Failure m Unit
  | .lenses path json => do
      let offers := Offer.ofLines (← Document.load workplace.files path).lines
      env.print (if json then Offer.listAllJson offers else Offer.listAll offers)
  | .openSession command => do
      match ← workplace.openSession command with
      | some session => env.printSession session
      | none => return ()
  | .send request => do
      env.reportDelivery (← workplace.send request)
  | .sessions => do
      (← workplace.sessions).forM (fun session => ExceptT.lift (env.printSession session))

/-- Help and version touch no file. -/
def invoke (env : Environment m) (invocation : Invocation) : m Nat := do
  match invocation.action with
  | .help =>
      env.printError usageText
      return 0
  | .version =>
      env.printError versionText
      return 0
  | .request request =>
      env.reportRefusals invocation.logLevel
      env.openLog
      match ← (env.perform (← env.workplace invocation.workspace) request).run with
      | .ok () => return 0
      | .error failure =>
          env.printError ("Error: " ++ failure.report ++ "\n")
          return 1

def run (env : Environment m) (arguments : List String) : m Nat := do
  match Invocation.ofArguments arguments with
  | .ok invocation => env.invoke invocation
  | .error error =>
      env.printError ("Error: " ++ error.message ++ "\nUse --help for usage information\n")
      return 2

end Environment

end CellRunner.CommandLine
