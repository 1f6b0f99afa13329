import CellRunner.Picker.Keys
import CellRunner.Session.Setup

/-!
A host and a chooser held in memory, to rehearse requests. The host keeps a list of terminals
and a focus, any operation can be set to fail once, the chooser answers from a script, and the
calls with an effect are recorded in order.
-/

namespace CellRunner

inductive HostOperation where
  | terminals
  | activeTerminal
  | createTerminal
  | showTerminal
  | sendText
deriving DecidableEq, Repr

/-- A prepared answer to a menu. -/
inductive ScriptedChoice where
  | accept (command : String)
  | cancel
  | fail (cause : String)
  /-- Keys for a picker that is opened on the menu; it is dismissed if they do not settle. -/
  | keys (presses : List KeyPress)
deriving DecidableEq, Repr

inductive Call where
  | create (spec : LaunchSpec)
  | showTerminal (id : String)
  | sendText (id text : String) (submit : Bool)
  | choose (menu : CommandMenu)
deriving DecidableEq, Repr

structure Rehearsal where
  terminals : List Terminal
  /-- The index of the focused terminal. -/
  active : Option Nat
  /-- How many terminals there have ever been. -/
  known : Nat
  /-- Failures to come, each for the next call of its operation. -/
  failures : List (HostOperation × HostError)
  choices : List ScriptedChoice
  /-- The recorded calls, the first one first. -/
  calls : List Call
deriving DecidableEq, Repr

namespace Rehearsal

abbrev Run := StateM Rehearsal

def record (call : Call) (rehearsal : Rehearsal) : Rehearsal :=
  { rehearsal with calls := rehearsal.calls ++ [call] }

/-- Uses up a failure that is pending for an operation. -/
def failIfPending (operation : HostOperation) : ExceptT HostError Run Unit := do
  let rehearsal ← get
  match rehearsal.failures.find? (·.1 = operation) with
  | none => return ()
  | some failure =>
      set { rehearsal with failures := rehearsal.failures.eraseP (·.1 = operation) }
      throw failure.2

/-- The terminal that starting a session adds. -/
def fresh (rehearsal : Rehearsal) (spec : LaunchSpec) : Terminal where
  id := "@" ++ Text.Decimal.write (rehearsal.known + 1)
  name := spec.name
  exitStatus := none

def add (terminal : Terminal) (rehearsal : Rehearsal) : Rehearsal :=
  { rehearsal with
    terminals := rehearsal.terminals ++ [terminal],
    known := rehearsal.known + 1 }

def host : TerminalHost Run where
  terminals := do
    failIfPending .terminals
    return (← get).terminals
  activeTerminal := do
    failIfPending .activeTerminal
    let rehearsal ← get
    return rehearsal.active.bind (rehearsal.terminals[·]?)
  createTerminal spec := do
    modify (record (.create spec))
    failIfPending .createTerminal
    let terminal := (← get).fresh spec
    modify (add terminal)
    return terminal
  showTerminal terminal := do
    modify (record (.showTerminal terminal.id))
    failIfPending .showTerminal
  sendText terminal text submit := do
    modify (record (.sendText terminal.id text submit))
    failIfPending .sendText

/-- Without a prepared answer the menu is dismissed. -/
def answer (menu : CommandMenu) : Option ScriptedChoice → Except String Choice
  | none | some .cancel => .ok .cancelled
  | some (.accept command) => .ok (.accepted command)
  | some (.fail cause) => .error cause
  | some (.keys presses) =>
      .ok (((Picker.ofMenu menu).pressAll presses).2.getD .cancelled)

def chooser : CommandChooser Run where
  choose menu := do
    modify (record (.choose menu))
    let rehearsal ← get
    set { rehearsal with choices := rehearsal.choices.tail }
    liftExcept (answer menu rehearsal.choices.head?)

/-- What may happen to the terminals from outside. An index out of range changes nothing. -/
inductive Event where
  | exit (index : Nat) (status : Int)
  | rename (index : Nat) (name : String)
  /-- Removes a terminal; the focus keeps its index. -/
  | close (index : Nat)
  | focus (index : Option Nat)
  | appear (terminal : Terminal)
deriving DecidableEq, Repr

def apply (rehearsal : Rehearsal) : Event → Rehearsal
  | .exit index status =>
      { rehearsal with
        terminals :=
          rehearsal.terminals.modify index (fun t => { t with exitStatus := some status }) }
  | .rename index name =>
      { rehearsal with
        terminals := rehearsal.terminals.modify index (fun t => { t with name := name }) }
  | .close index => { rehearsal with terminals := rehearsal.terminals.eraseIdx index }
  | .focus index => { rehearsal with active := index }
  | .appear terminal => rehearsal.add terminal

end Rehearsal

end CellRunner
