/-!
A host owns terminals. It lists them, starts new ones, brings one to the foreground and types
text into one; every operation may fail with the reason of the failure.
-/

namespace CellRunner

structure Terminal where
  /-- The host's handle. -/
  id : String
  name : String
  /-- The status of an exited process; a live terminal has none. -/
  exitStatus : Option Int
deriving DecidableEq, Repr

def Terminal.isAlive (terminal : Terminal) : Bool :=
  terminal.exitStatus.isNone

structure LaunchSpec where
  name : String
  program : String
  args : List String
deriving DecidableEq, Repr

inductive HostError where
  /-- The host's program could not be started or talked to. -/
  | spawn (program cause : String)
  | commandFailed (command status stderr : String)
  | unexpectedOutput (output : String)
deriving DecidableEq, Repr

def HostError.message : HostError → String
  | .spawn program cause => "Failed to run " ++ program ++ ": " ++ cause
  | .commandFailed command status stderr =>
      "\x60" ++ command ++ "\x60 exited with " ++ status ++ ": " ++ stderr
  | .unexpectedOutput output => "Unexpected host output: " ++ output

/-- The operations of a host whose effects are those of `m`. -/
structure TerminalHost (m : Type → Type) where
  /-- Every terminal the host knows about, live or exited. -/
  terminals : ExceptT HostError m (List Terminal)
  /-- The terminal that has the focus. -/
  activeTerminal : ExceptT HostError m (Option Terminal)
  createTerminal (spec : LaunchSpec) : ExceptT HostError m Terminal
  showTerminal (terminal : Terminal) : ExceptT HostError m Unit
  /-- Types a text, and Enter after it if it is to be submitted. -/
  sendText (terminal : Terminal) (text : String) (submit : Bool) : ExceptT HostError m Unit

end CellRunner
