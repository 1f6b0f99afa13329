import CellRunner.Frame
import CellRunner.Session.Menu
import CellRunner.Session.Policy

/-!
Sessions are found among the host's terminals, or started, and frames are delivered into them.
Nothing is remembered between requests: a terminal may be closed at any time, so the host is
asked again every time.
-/

namespace CellRunner

inductive SessionError where
  | host (error : HostError)
  | chooser (cause : String)
deriving DecidableEq, Repr

def SessionError.message : SessionError → String
  | .host error => error.message
  | .chooser cause => "Command picker failed: " ++ cause

/-- What a new session may be started with. -/
structure SessionSetup where
  policy : SessionPolicy
  /-- Commands of the workspace; the first one is its default. -/
  projectCommands : List String
  templates : List Candidate
deriving DecidableEq, Repr

inductive Delivery where
  | sent (session : Terminal) (frame : Frame)
  /-- The range covers no line. -/
  | empty
  | cancelled
deriving DecidableEq, Repr

namespace SessionSetup

def defaultCommand (setup : SessionSetup) : String :=
  setup.projectCommands.head?.getD setup.policy.defaultCommand

def menu (setup : SessionSetup) : CommandMenu where
  title := "New Đ Terminal running command:"
  defaultCommand := setup.defaultCommand
  launcherHint := " ".intercalate setup.policy.launcherArgs
  candidates :=
    setup.projectCommands.map (fun command => ⟨command, some "From haskit.json"⟩)
      ++ setup.templates

/-- The words of a command line, or those of the default command when it has none. -/
def commandWords (setup : SessionSetup) (commandLine : String) : List String :=
  let command := Text.words commandLine
  if command.isEmpty then Text.words setup.defaultCommand else command

variable {m : Type → Type} [Monad m]

/-- The live sessions in the host's order. -/
def sessions (setup : SessionSetup) (host : TerminalHost m)
    : ExceptT HostError m (List Terminal) := do
  return (← host.terminals).filter setup.policy.recognizes

/-- The focused terminal if it is a session, else the first session. -/
def findSession (setup : SessionSetup) (host : TerminalHost m)
    : ExceptT HostError m (Option Terminal) := do
  let focused := (← host.activeTerminal).filter setup.policy.recognizes
  if focused.isSome then return focused
  return (← host.terminals).find? setup.policy.recognizes

def createSession (setup : SessionSetup) (host : TerminalHost m) (command : List String)
    : ExceptT HostError m Terminal := do
  let terminal ← host.createTerminal (setup.policy.launchSpec command)
  host.showTerminal terminal
  return terminal

/-- The command to run: the desired one, or else what the chooser answers; nothing when the
menu is dismissed. -/
def obtainCommand (setup : SessionSetup) (chooser : CommandChooser m)
    (desired : Option String) : ExceptT SessionError m (Option (List String)) := do
  match desired with
  | some commandLine => return some (setup.commandWords commandLine)
  | none =>
      match ← (chooser.choose setup.menu).adapt SessionError.chooser with
      | .accepted commandLine => return some (setup.commandWords commandLine)
      | .cancelled => return none

/-- Starts a session in any case, unless the menu is dismissed. -/
def openSession (setup : SessionSetup) (host : TerminalHost m) (chooser : CommandChooser m)
    (desired : Option String) : ExceptT SessionError m (Option Terminal) := do
  match ← setup.obtainCommand chooser desired with
  | some command => return some (← (setup.createSession host command).adapt SessionError.host)
  | none => return none

/-- Reuses a session, or starts one. -/
def resolveSession (setup : SessionSetup) (host : TerminalHost m)
    (chooser : CommandChooser m) (desired : Option String)
    : ExceptT SessionError m (Option Terminal) := do
  match ← (setup.findSession host).adapt SessionError.host with
  | some session => return some session
  | none => setup.openSession host chooser desired

/-- Frames an excerpt and pastes it into a session. Nothing is asked of the host or the
chooser when there is nothing to send. -/
def deliver (setup : SessionSetup) (host : TerminalHost m) (chooser : CommandChooser m)
    (sourceName : String) (totalLines : Nat) (excerpt : Excerpt) (desired : Option String)
    : ExceptT SessionError m Delivery := do
  match Frame.ofExcerpt? excerpt totalLines sourceName with
  | none => return .empty
  | some frame =>
      match ← setup.resolveSession host chooser desired with
      | none => return .cancelled
      | some session =>
          (host.sendText session frame.render true).adapt SessionError.host
          return .sent session frame

end SessionSetup

end CellRunner
