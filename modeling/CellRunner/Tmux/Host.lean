import CellRunner.Text.Utf8
import CellRunner.Tmux.Process
import CellRunner.Tmux.Window

/-!
tmux as a host: every terminal is a window, and every operation is a run of the tmux program.
Windows stay after their process has exited, so that a session that ended reads as dead.
-/

namespace CellRunner.Tmux

/-- The tmux session for windows that are created while no server runs. -/
def sessionName : String :=
  "haskit"

/-- The paste buffer that sent text goes through. -/
def bufferName : String :=
  "haskit"

/-- Whether the error text says that there is no server, or nothing in it to ask about. -/
def saysNoServer (stderr : String) : Bool :=
  ["no server running", "error connecting to", "no current"].any
    (fun phrase => Text.contains phrase.toList stderr.toList)

variable {m : Type → Type} [Monad m]

/-- Runs tmux and gives what it printed; a status other than zero is a failure. -/
def run (runner : ProcessRunner m) (program : String) (args : List String)
    (input : Option String) : ExceptT HostError m String := do
  let result ← (runner.run program args input).adapt (HostError.spawn program)
  if result.status = 0 then return Text.Utf8.decodeLossy result.stdout
  else
    throw
      (.commandFailed (program ++ " " ++ args.head?.getD "")
        ("exit status: " ++ Text.Decimal.write result.status)
        (String.ofList (Text.trim (Text.Utf8.decodeLossy result.stderr).toList)))

/-- As `run`, but a missing server gives nothing instead of a failure. -/
def runIfServer (runner : ProcessRunner m) (program : String) (args : List String)
    : ExceptT HostError m (Option String) :=
  tryCatch (some <$> run runner program args none) fun error =>
    match error with
    | .commandFailed _ _ stderr => if saysNoServer stderr then return none else throw error
    | _ => throw error

/-- The windows that a query lists; none without a server. -/
def query (runner : ProcessRunner m) (program : String) (args : List String)
    : ExceptT HostError m (List Window) := do
  match ← runIfServer runner program args with
  | none => return []
  | some output => Window.parseList output

def createWindow (runner : ProcessRunner m) (program : String) (spec : LaunchSpec)
    : ExceptT HostError m Terminal := do
  let server ← runIfServer runner program ["list-sessions"]
  let opening :=
    if server.isSome then ["new-window", "-d"] else ["new-session", "-d", "-s", sessionName]
  let output ←
    run runner program
      (opening ++ ["-P", "-F", Window.format, "-n", spec.name, "--", spec.program] ++ spec.args)
      none
  match ← Window.parseList output with
  | [] => throw (.unexpectedOutput output)
  | window :: _ =>
      let option (name value : String) :=
        run runner program ["set-option", "-w", "-t", window.terminal.id, name, value] none
      let _ ← option "remain-on-exit" "on"
      -- A shell would otherwise give the window a title of its own.
      let _ ← option "automatic-rename" "off"
      return window.terminal

def pasteText (runner : ProcessRunner m) (program : String) (terminal : Terminal)
    (text : String) (submit : Bool) : ExceptT HostError m Unit := do
  let _ ← run runner program ["load-buffer", "-b", bufferName, "-"] (some text)
  let _ ← run runner program ["paste-buffer", "-d", "-b", bufferName, "-t", terminal.id] none
  if submit then
    let _ ← run runner program ["send-keys", "-t", terminal.id, "Enter"] none

def host (runner : ProcessRunner m) (program : String) : TerminalHost m where
  terminals := do
    return (← query runner program ["list-windows", "-a", "-F", Window.format]).map (·.terminal)
  activeTerminal := do
    let windows ← query runner program ["display-message", "-p", Window.format]
    return (windows.find? (·.active)).map (·.terminal)
  createTerminal := createWindow runner program
  showTerminal terminal := do
    let _ ← run runner program ["select-window", "-t", terminal.id] none
  sendText := pasteText runner program

end CellRunner.Tmux
