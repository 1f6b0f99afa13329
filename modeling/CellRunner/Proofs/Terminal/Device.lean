import CellRunner.Proofs.Session.Exchange
import CellRunner.Terminal.Dialog

/-!
A terminal any of whose operations may fail at any time. It has two modes, which an operation
changes only if it succeeds, and every attempt is noted down with its outcome. A program that does
not switch the modes leaves them, and the outcomes of the operations that do, as they are.
-/

namespace CellRunner

/-- What can be asked of a terminal. -/
inductive TerminalOperation where
  | enableRawMode
  | disableRawMode
  | size
  | write (outputs : List Output)
  | readEvent
deriving DecidableEq

/-- Operations in their order, each with whether it succeeded. -/
abbrev Attempts := List (TerminalOperation × Bool)

/-- How a terminal behaves, by the attempts that there were before. -/
structure Conduct where
  /-- Why an operation fails, if it does. -/
  refusal (before : Attempts) (operation : TerminalOperation) : Option String
  size (before : Attempts) : Nat × Nat
  event (before : Attempts) : TerminalEvent

/-- Whether the alternate screen is shown after an output. -/
def Output.alternateAfter (alternate : Bool) : Output → Bool
  | .enterAlternateScreen => true
  | .leaveAlternateScreen => false
  | _ => alternate

structure Device where
  raw : Bool := false
  alternate : Bool := false
  attempts : Attempts := []
deriving DecidableEq

namespace Device

/-- The modes after an operation that succeeds. -/
def perform (device : Device) : TerminalOperation → Device
  | .enableRawMode => { device with raw := true }
  | .disableRawMode => { device with raw := false }
  | .write outputs =>
      { device with alternate := outputs.foldl Output.alternateAfter device.alternate }
  | .size | .readEvent => device

def note (device : Device) (operation : TerminalOperation) (succeeded : Bool) : Device :=
  { device with attempts := device.attempts ++ [(operation, succeeded)] }

/-- The device after an operation that succeeds. -/
def after (device : Device) (operation : TerminalOperation) : Device :=
  (device.perform operation).note operation true

/-- The outcomes of the attempts at an operation, in their order. -/
def outcomes (device : Device) (operation : TerminalOperation) : List Bool :=
  (device.attempts.filter (fun attempt => attempt.1 = operation)).map (·.2)

end Device

namespace Conduct

variable {α : Type}

def attempt (conduct : Conduct) (operation : TerminalOperation) (answer : Attempts → α)
    : ExceptT String (StateM Device) α := do
  let device ← get
  match conduct.refusal device.attempts operation with
  | some cause =>
      set (device.note operation false)
      throw cause
  | none =>
      set (device.after operation)
      return answer device.attempts

def terminal (conduct : Conduct) : DialogTerminal (StateM Device) where
  enableRawMode := conduct.attempt .enableRawMode (fun _ => ())
  disableRawMode := conduct.attempt .disableRawMode (fun _ => ())
  size := conduct.attempt .size conduct.size
  write outputs := conduct.attempt (.write outputs) (fun _ => ())
  readEvent := conduct.attempt .readEvent conduct.event

/-- An operation that is refused is noted as failed and does nothing, by the definition of an
attempt. -/
theorem exec_attempt_of_refused {conduct : Conduct} {operation : TerminalOperation}
    {device : Device} {cause : String} (answer : Attempts → α)
    (refused : conduct.refusal device.attempts operation = some cause)
    : exec (conduct.attempt operation answer) device
      = (.error cause, device.note operation false) := by
  rw [attempt, exec_bind_of_ok _ (exec_get device), refused]
  rfl

/-- An operation that is allowed is noted and carried out, by the definition of an attempt. -/
theorem exec_attempt_of_allowed {conduct : Conduct} {operation : TerminalOperation}
    {device : Device} (answer : Attempts → α)
    (allowed : conduct.refusal device.attempts operation = none)
    : exec (conduct.attempt operation answer) device
      = (.ok (answer device.attempts), device.after operation) := by
  rw [attempt, exec_bind_of_ok _ (exec_get device), allowed]
  rfl

end Conduct

-----------------------------------------------------------------------------------------
-- Programs that switch no mode
-----------------------------------------------------------------------------------------

def Output.isSwitch : Output → Bool
  | .enterAlternateScreen | .leaveAlternateScreen => true
  | _ => false

def TerminalOperation.isSwitch : TerminalOperation → Bool
  | .enableRawMode | .disableRawMode => true
  | .write outputs => outputs.any Output.isSwitch
  | .size | .readEvent => false

namespace Device

/-- Outputs without a switch leave the screen as it is, by induction on the outputs. -/
theorem foldl_alternateAfter {outputs : List Output} (still : outputs.any Output.isSwitch = false)
    (alternate : Bool)
    : outputs.foldl Output.alternateAfter alternate = alternate := by
  induction outputs generalizing alternate with
  | nil => rfl
  | cons output rest ih =>
      rw [List.any_cons, Bool.or_eq_false_iff] at still
      rw [List.foldl_cons, ih still.2]
      cases output with
      | enterAlternateScreen | leaveAlternateScreen => simp [Output.isSwitch] at still
      | _ => rfl

/-- An operation that switches nothing leaves the device as it is, by cases on the operation. -/
theorem perform_of_still {operation : TerminalOperation} (still : operation.isSwitch = false)
    (device : Device)
    : device.perform operation = device := by
  cases operation with
  | enableRawMode | disableRawMode => cases still
  | size | readEvent => rfl
  | write outputs => rw [perform, foldl_alternateAfter still]

/-- The outcomes of an operation grow by its own attempts only, by filtering the longer list. -/
@[simp]
theorem outcomes_note (device : Device) (made asked : TerminalOperation) (succeeded : Bool)
    : (device.note made succeeded).outcomes asked
      = device.outcomes asked ++ if made = asked then [succeeded] else [] := by
  by_cases same : made = asked <;> simp [outcomes, note, same]

/-- Carrying out an operation adds no outcome, by cases on the operation. -/
theorem outcomes_perform (device : Device) (made asked : TerminalOperation)
    : (device.perform made).outcomes asked = device.outcomes asked := by
  cases made <;> rfl

/-- An operation that is carried out has succeeded once more, by the two parts of it. -/
@[simp]
theorem outcomes_after (device : Device) (made asked : TerminalOperation)
    : (device.after made).outcomes asked
      = device.outcomes asked ++ if made = asked then [true] else [] := by
  rw [after, outcomes_note, outcomes_perform]

/-- The later one of two states between which no mode was switched. -/
structure Still (before after : Device) : Prop where
  raw : after.raw = before.raw
  alternate : after.alternate = before.alternate
  outcomes : ∀ operation, operation.isSwitch → after.outcomes operation = before.outcomes operation

namespace Still

variable {before middle after : Device}

/-- A device is still beside itself. -/
theorem refl (device : Device)
    : Still device device :=
  ⟨rfl, rfl, fun _ _ => rfl⟩

/-- Stillness lasts over two parts, by joining what each keeps. -/
theorem trans (first : Still before middle) (second : Still middle after)
    : Still before after where
  raw := second.raw.trans first.raw
  alternate := second.alternate.trans first.alternate
  outcomes operation switch :=
    (second.outcomes operation switch).trans (first.outcomes operation switch)

/-- Noting an operation that switches nothing keeps a device still, as no outcome of a switch is
added. -/
theorem note (device : Device) {operation : TerminalOperation}
    (still : operation.isSwitch = false) (succeeded : Bool)
    : Still device (device.note operation succeeded) where
  raw := rfl
  alternate := rfl
  outcomes asked switch := by
    have other : operation ≠ asked := by
      rintro rfl
      rw [still] at switch
      contradiction
    rw [outcomes_note, if_neg other, List.append_nil]

end Still

end Device

/-- A program that switches no mode, from whatever state it is run. -/
def Keeps {α : Type} (program : ExceptT String (StateM Device) α) : Prop :=
  ∀ device, Device.Still device (exec program device).2

namespace Keeps

variable {α β : Type}

/-- Giving a value keeps the device still. -/
theorem pure (a : α)
    : Keeps (Pure.pure a) :=
  fun device => .refl device

/-- A failure keeps the device still. -/
theorem throw (cause : String)
    : Keeps (MonadExcept.throw cause : ExceptT String (StateM Device) α) :=
  fun device => .refl device

/-- A program keeps the device still if both parts do, by cases on whether the first one fails. -/
theorem bind {program : ExceptT String (StateM Device) α}
    {next : α → ExceptT String (StateM Device) β} (first : Keeps program)
    (rest : ∀ a, Keeps (next a))
    : Keeps (program >>= next) := by
  intro device
  have start := first device
  rcases ran : exec program device with ⟨cause | a, middle⟩
  · rw [exec_bind_of_error next ran]
    rwa [ran] at start
  · rw [exec_bind_of_ok next ran]
    rw [ran] at start
    exact start.trans (rest a middle)

/-- An attempt at an operation that switches nothing keeps the device still, by cases on whether it
is refused. -/
theorem attempt (conduct : Conduct) {operation : TerminalOperation}
    (still : operation.isSwitch = false) (answer : Attempts → α)
    : Keeps (conduct.attempt operation answer) := by
  intro device
  cases refused : conduct.refusal device.attempts operation with
  | some cause =>
      rw [conduct.exec_attempt_of_refused answer refused]
      exact .note device still false
  | none =>
      rw [conduct.exec_attempt_of_allowed answer refused, Device.after,
        Device.perform_of_still still]
      exact .note device still true

section terminal

variable (conduct : Conduct)

theorem size
    : Keeps conduct.terminal.size :=
  attempt conduct rfl conduct.size

/-- Writing keeps the device still if no output switches the screen. -/
theorem write {outputs : List Output} (still : outputs.any Output.isSwitch = false)
    : Keeps (conduct.terminal.write outputs) := by
  have still : (TerminalOperation.write outputs).isSwitch = false := still
  exact attempt conduct still (fun _ => ())

theorem readEvent
    : Keeps conduct.terminal.readEvent :=
  attempt conduct rfl conduct.event

end terminal

end Keeps

end CellRunner
