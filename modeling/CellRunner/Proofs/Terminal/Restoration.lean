import CellRunner.Proofs.Terminal.Device

/-!
The modes of a terminal after a dialog on it, whatever fails. Once the alternate screen was entered
it is left again, with a second attempt if the first one fails, and raw mode ends with it. Raw mode
stays on if it could be enabled and the screen could not be entered, or not be left in two attempts.
-/

namespace CellRunner

namespace Picker

variable (widths : Text.Widths)

/-- Neither the texts nor the colours of a description switch the screen. -/
theorem any_isSwitch_descriptionPart (item : Item) (isSelected : Bool) (used limit : Nat)
    : (descriptionPart widths item isSelected used limit).1.any Output.isSwitch = false := by
  unfold descriptionPart
  split
  · cases isSelected <;> rfl
  · rfl

/-- An item's row stays on the screen, selected or not. -/
theorem any_isSwitch_itemRow (picker : Picker) (box : Box) (row : Nat) (item : Item) (index : Nat)
    : (picker.itemRow widths box row item index).any Output.isSwitch = false := by
  simp only [itemRow, List.any_append, any_isSwitch_descriptionPart]
  split <;> rfl

/-- So do all rows of items, and the empty rows below them. -/
theorem any_isSwitch_itemRows (picker : Picker) (box : Box)
    : (picker.itemRows widths box).any Output.isSwitch = false := by
  simp only [itemRows, List.any_append, List.any_flatMap, any_isSwitch_itemRow]
  simp [emptyRow, Output.isSwitch]

/-- A drawing stays on the screen that is shown. -/
theorem any_isSwitch_draw (picker : Picker) (columns rows : Nat)
    : (picker.draw columns rows).any Output.isSwitch = false := by
  unfold draw drawWith
  split
  · rfl
  · simp only [drawBox, List.any_append, any_isSwitch_itemRows]
    rfl

end Picker

namespace Dialog

def entering : TerminalOperation :=
  .write [.enterAlternateScreen, .clear]

def leaving : TerminalOperation :=
  .write [.resetColors, .showCursor, .leaveAlternateScreen]

@[simp]
theorem leaving_ne_entering : leaving ≠ entering := by
  decide

@[simp]
theorem leaving_ne_enableRawMode : leaving ≠ .enableRawMode := by
  decide

@[simp]
theorem disableRawMode_ne_entering : .disableRawMode ≠ entering := by
  decide

@[simp]
theorem disableRawMode_ne_leaving : .disableRawMode ≠ leaving := by
  decide

-----------------------------------------------------------------------------------------
-- Drawing and reading
-----------------------------------------------------------------------------------------

/-- Drawing keeps the device still, as no output of a drawing switches the screen. -/
theorem keeps_drawPicker (conduct : Conduct) (picker : Picker)
    : Keeps (drawPicker conduct.terminal picker) := by
  refine .bind (.size conduct) fun size => ?_
  refine .bind (.write conduct rfl) fun _ => ?_
  exact .write conduct (picker.any_isSwitch_draw size.1 size.2)

/-- Induction on the events that may still be read. -/
theorem keeps_settle (conduct : Conduct) (picker : Picker) (events : Nat)
    : Keeps (settle conduct.terminal picker events) := by
  induction events generalizing picker with
  | zero => exact .throw _
  | succ events ih =>
      refine .bind (.readEvent conduct) fun event => ?_
      cases event with
      | other => exact ih picker
      | resize => exact .bind (keeps_drawPicker conduct picker) fun _ => ih picker
      | key press =>
          rcases pressed : picker.press press with ⟨next, _ | choice⟩
          · simp only [pressed]
            exact .bind (keeps_drawPicker conduct next) fun _ => ih next
          · simp only [pressed]
            exact .pure choice

/-- A conversation keeps the device still, as every part of it does. -/
theorem keeps_converse (conduct : Conduct) (patience : Nat) (menu : CommandMenu)
    : Keeps (converse conduct.terminal patience menu) :=
  .bind (keeps_drawPicker conduct _) fun _ => keeps_settle conduct _ patience

-----------------------------------------------------------------------------------------
-- Opening and closing
-----------------------------------------------------------------------------------------

section run

variable {σ : Type} {terminal : DialogTerminal (StateM σ)} {patience : Nat} {menu : CommandMenu}
  {before opened failed after : σ}

/-- A dialog whose screen cannot be opened fails with that, by the rule for failing parts. -/
theorem exec_run_of_unopened {cause : String}
    (opening : exec (openScreen terminal) before = (.error cause, after))
    : exec (run terminal patience menu) before = (.error cause, after) :=
  exec_bind_of_error _ opening

/-- A dialog whose screen is closed gives what the conversation gave, by the rules for its parts. -/
theorem exec_run_of_closed (opening : exec (openScreen terminal) before = (.ok (), opened))
    (closing : exec (closeScreen terminal) (exec (converse terminal patience menu) opened).2
      = (.ok (), after))
    : exec (run terminal patience menu) before
      = ((exec (converse terminal patience menu) opened).1, after) := by
  have closed
      : exec (ExceptT.lift (closeScreen terminal).run : ExceptT String (StateM σ) _)
          (exec (converse terminal patience menu) opened).2
        = (.ok (.ok ()), after) := by
    rw [exec_lift_run, closing]
  rw [run, exec_bind_of_ok _ opening, exec_bind_of_ok _ (exec_lift_run _ opened),
    exec_bind_of_ok _ closed]
  cases (exec (converse terminal patience menu) opened).1 <;> rfl

/-- Where the screen could not be closed, closing it is tried again. -/
theorem exec_run_of_unclosed {cause : String}
    (opening : exec (openScreen terminal) before = (.ok (), opened))
    (closing : exec (closeScreen terminal) (exec (converse terminal patience menu) opened).2
      = (.error cause, failed))
    : exec (run terminal patience menu) before
      = (.error cause, (exec (closeScreen terminal) failed).2) := by
  have unclosed
      : exec (ExceptT.lift (closeScreen terminal).run : ExceptT String (StateM σ) _)
          (exec (converse terminal patience menu) opened).2
        = (.ok (.error cause), failed) := by
    rw [exec_lift_run, closing]
  rw [run, exec_bind_of_ok _ opening, exec_bind_of_ok _ (exec_lift_run _ opened),
    exec_bind_of_ok _ unclosed]
  exact exec_bind_of_ok _ (exec_lift_run _ failed)

end run

variable {conduct : Conduct} {device : Device} {cause : String}

/-- Opening the screen is enabling raw mode and then entering the alternate screen. -/
theorem openScreen_eq (conduct : Conduct)
    : openScreen conduct.terminal
      = (do
          conduct.attempt .enableRawMode (fun _ => ())
          conduct.attempt entering (fun _ => ())) :=
  rfl

/-- Closing the screen is leaving the alternate screen and then disabling raw mode. -/
theorem closeScreen_eq (conduct : Conduct)
    : closeScreen conduct.terminal
      = (do
          conduct.attempt leaving (fun _ => ())
          conduct.attempt .disableRawMode (fun _ => ())) :=
  rfl

/-- Nothing is entered if raw mode is refused, by the first attempt. -/
theorem exec_openScreen_of_unenabled
    (refused : conduct.refusal device.attempts .enableRawMode = some cause)
    : exec (openScreen conduct.terminal) device
      = (.error cause, device.note .enableRawMode false) := by
  rw [openScreen_eq, exec_bind_of_error _ (Conduct.exec_attempt_of_refused _ refused)]

/-- Raw mode stays on where the screen cannot be entered. -/
theorem exec_openScreen_of_unentered
    (allowed : conduct.refusal device.attempts .enableRawMode = none)
    (refused : conduct.refusal (device.after .enableRawMode).attempts entering = some cause)
    : exec (openScreen conduct.terminal) device
      = (.error cause, (device.after .enableRawMode).note entering false) := by
  rw [openScreen_eq, exec_bind_of_ok _ (Conduct.exec_attempt_of_allowed _ allowed),
    Conduct.exec_attempt_of_refused _ refused]

/-- The screen is opened if neither attempt is refused, by both of them. -/
theorem exec_openScreen_of_entered
    (allowed : conduct.refusal device.attempts .enableRawMode = none)
    (entered : conduct.refusal (device.after .enableRawMode).attempts entering = none)
    : exec (openScreen conduct.terminal) device
      = (.ok (), (device.after .enableRawMode).after entering) := by
  rw [openScreen_eq, exec_bind_of_ok _ (Conduct.exec_attempt_of_allowed _ allowed),
    Conduct.exec_attempt_of_allowed _ entered]

/-- Raw mode stays on where the screen cannot be left. -/
theorem exec_closeScreen_of_refused
    (refused : conduct.refusal device.attempts leaving = some cause)
    : exec (closeScreen conduct.terminal) device = (.error cause, device.note leaving false) := by
  rw [closeScreen_eq, exec_bind_of_error _ (Conduct.exec_attempt_of_refused _ refused)]

/-- The screen is closed if leaving it is allowed, since raw mode can always be disabled. -/
theorem exec_closeScreen_of_allowed
    (dutiful : ∀ attempts, conduct.refusal attempts .disableRawMode = none)
    (allowed : conduct.refusal device.attempts leaving = none)
    : exec (closeScreen conduct.terminal) device
      = (.ok (), (device.after leaving).after .disableRawMode) := by
  rw [closeScreen_eq, exec_bind_of_ok _ (Conduct.exec_attempt_of_allowed _ allowed),
    Conduct.exec_attempt_of_allowed _ (dutiful _)]

-----------------------------------------------------------------------------------------
-- A whole dialog
-----------------------------------------------------------------------------------------

/-- The modes that a dialog leaves a terminal in, by the outcomes of opening and closing. -/
inductive Course (after : Device) : Prop
  | unenabled (enables : after.outcomes .enableRawMode = [false])
    (enters : after.outcomes entering = []) (leaves : after.outcomes leaving = [])
    (raw : after.raw = false) (alternate : after.alternate = false)
  | unentered (enables : after.outcomes .enableRawMode = [true])
    (enters : after.outcomes entering = [false]) (leaves : after.outcomes leaving = [])
    (raw : after.raw = true) (alternate : after.alternate = false)
  | closed (enables : after.outcomes .enableRawMode = [true])
    (enters : after.outcomes entering = [true])
    (leaves : after.outcomes leaving = [true] ∨ after.outcomes leaving = [false, true])
    (raw : after.raw = false) (alternate : after.alternate = false)
  | unclosed (enables : after.outcomes .enableRawMode = [true])
    (enters : after.outcomes entering = [true])
    (leaves : after.outcomes leaving = [false, false])
    (raw : after.raw = true) (alternate : after.alternate = true)

/-- A terminal with the screen open, on which nothing was closed yet. -/
structure Opened (device : Device) : Prop where
  enables : device.outcomes .enableRawMode = [true]
  enters : device.outcomes entering = [true]
  leaves : device.outcomes leaving = []
  raw : device.raw = true
  alternate : device.alternate = true

/-- Both switches are on behind a successful opening, by computation. -/
theorem opened_after_entering
    : Opened ((({} : Device).after .enableRawMode).after entering) :=
  ⟨rfl, rfl, rfl, rfl, rfl⟩

namespace Opened

/-- Nothing is closed during the conversation. -/
theorem converse (opened : Opened device) (conduct : Conduct) (patience : Nat) (menu : CommandMenu)
    : Opened (exec (converse conduct.terminal patience menu) device).2 := by
  have kept := keeps_converse conduct patience menu device
  exact {
    enables := (kept.outcomes .enableRawMode rfl).trans opened.enables
    enters := (kept.outcomes entering rfl).trans opened.enters
    leaves := (kept.outcomes leaving rfl).trans opened.leaves
    raw := kept.raw.trans opened.raw
    alternate := kept.alternate.trans opened.alternate
  }

/-- A screen that is left at the first attempt is restored, by following the outcomes of the
operations. -/
theorem course_of_left (opened : Opened device)
    : Course ((device.after leaving).after .disableRawMode) := by
  refine .closed ?enables ?enters (.inl ?leaves) rfl rfl
  case enables => simp [opened.enables]
  case enters => simp [opened.enters]
  case leaves => simp [opened.leaves]

/-- A screen that is left at the second attempt is restored, by following the outcomes of the
operations. -/
theorem course_of_left_later (opened : Opened device)
    : Course (((device.note leaving false).after leaving).after .disableRawMode) := by
  refine .closed ?enables ?enters (.inr ?leaves) rfl rfl
  case enables => simp [opened.enables]
  case enters => simp [opened.enters]
  case leaves => simp [opened.leaves]

/-- A screen that cannot be left stays as it is, by following the outcomes of the operations. -/
theorem course_of_unleft (opened : Opened device)
    : Course ((device.note leaving false).note leaving false) := by
  refine .unclosed ?enables ?enters ?leaves opened.raw opened.alternate
  case enables => simp [opened.enables]
  case enters => simp [opened.enters]
  case leaves => simp [opened.leaves]

end Opened

/-- Follows the first refusal through opening and through both attempts at closing. -/
theorem course_run (dutiful : ∀ attempts, conduct.refusal attempts .disableRawMode = none)
    (patience : Nat) (menu : CommandMenu)
    : Course (exec (run conduct.terminal patience menu) {}).2 := by
  cases enabled : conduct.refusal [] .enableRawMode with
  | some cause =>
      rw [exec_run_of_unopened (exec_openScreen_of_unenabled enabled)]
      exact .unenabled rfl rfl rfl rfl rfl
  | none =>
  cases entered : conduct.refusal (({} : Device).after .enableRawMode).attempts entering with
  | some cause =>
      rw [exec_run_of_unopened (exec_openScreen_of_unentered enabled entered)]
      exact .unentered rfl rfl rfl rfl rfl
  | none =>
  have opening := exec_openScreen_of_entered enabled entered
  have opened := opened_after_entering.converse conduct patience menu
  cases left : conduct.refusal _ leaving with
  | none =>
      rw [exec_run_of_closed opening (exec_closeScreen_of_allowed dutiful left)]
      exact opened.course_of_left
  | some cause =>
  rw [exec_run_of_unclosed opening (exec_closeScreen_of_refused left)]
  cases leftLater : conduct.refusal _ leaving with
  | none =>
      rw [exec_closeScreen_of_allowed dutiful leftLater]
      exact opened.course_of_left_later
  | some cause =>
      rw [exec_closeScreen_of_refused leftLater]
      exact opened.course_of_unleft

/-- What a dialog leaves on a terminal on which raw mode can always be ended. Raw mode is off if and
only if it could not be enabled, or the alternate screen was left. The alternate screen is off if
and only if it was left when it had been entered. Exactly if it was entered, it is left at once or
at a second attempt, or two attempts failed. -/
theorem terminal_restored_iff (conduct : Conduct)
    (dutiful : ∀ attempts, conduct.refusal attempts .disableRawMode = none)
    (patience : Nat) (menu : CommandMenu)
    : let after := (exec ((chooser conduct.terminal patience).choose menu) {}).2
      (after.raw = false
          ↔ after.outcomes .enableRawMode = [false] ∨ true ∈ after.outcomes leaving)
      ∧ (after.alternate = false
          ↔ (true ∈ after.outcomes entering → true ∈ after.outcomes leaving))
      ∧ (true ∈ after.outcomes entering
          ↔ after.outcomes leaving ∈ [[true], [false, true], [false, false]]) := by
  intro after
  have course : Course after := course_run dutiful patience menu
  cases course with
  | unenabled enables enters leaves raw alternate =>
      simp [enables, enters, leaves, raw, alternate]
  | unentered enables enters leaves raw alternate =>
      simp [enables, enters, leaves, raw, alternate]
  | closed enables enters leaves raw alternate =>
      rcases leaves with leaves | leaves <;> simp [enables, enters, leaves, raw, alternate]
  | unclosed enables enters leaves raw alternate =>
      simp [enables, enters, leaves, raw, alternate]

/-- A terminal on which nothing more can be written at times, and escape is pressed. -/
def exhausted (refused : Attempts → TerminalOperation → Bool) : Conduct where
  refusal before operation :=
    if refused before operation then some "No space left on device (os error 28)" else none
  size _ := (80, 24)
  event _ := .key ⟨.escape, false⟩

/-- The screen is left at the second attempt. -/
theorem terminal_restored_iff_left_later
    : let conduct :=
        exhausted fun before operation => operation = leaving && !before.contains (leaving, false)
      let menu := ⟨"Run what?", "hski", "epm x", []⟩
      let after := (exec ((chooser conduct.terminal 1).choose menu) {}).2
      (∀ attempts, conduct.refusal attempts .disableRawMode = none)
      ∧ after.outcomes leaving = [false, true]
      ∧ after.raw = false
      ∧ after.alternate = false := by
  intro conduct menu after
  have dutiful (attempts : Attempts) : conduct.refusal attempts .disableRawMode = none := by
    simp [conduct, exhausted]
  have ⟨raw, alternate, _⟩ := terminal_restored_iff conduct dutiful 1 menu
  have leaves : after.outcomes leaving = [false, true] := by
    decide
  have left : true ∈ after.outcomes leaving := by
    simp [leaves]
  exact ⟨dutiful, leaves, raw.mpr (.inr left), alternate.mpr fun _ => left⟩

/-- Raw mode outlives a dialog whose screen could not be entered. -/
theorem raw_mode_outlives_dialog
    : ¬ ∀ (conduct : Conduct) (patience : Nat) (menu : CommandMenu),
        (∀ attempts, conduct.refusal attempts .disableRawMode = none)
        → (exec ((chooser conduct.terminal patience).choose menu) {}).2.raw = false := by
  intro restored
  have dutiful (attempts : Attempts)
      : (exhausted fun _ operation => operation = entering).refusal attempts .disableRawMode
        = none := by
    simp [exhausted]
  have raw := restored _ 1 ⟨"Run what?", "hski", "epm x", []⟩ dutiful
  revert raw
  decide

end Dialog

end CellRunner
