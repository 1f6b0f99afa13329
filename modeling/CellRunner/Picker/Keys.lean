import CellRunner.Picker.Basic

/-!
What a key press does to the picker, and when it settles the choice. Digits pick a numbered
candidate as long as nothing is typed; after that they are typed like other characters.
-/

namespace CellRunner

inductive Key where
  | char (c : Char)
  | enter
  | escape
  | up
  | down
  | tab
  | backspace
  /-- Any key without a meaning to the picker. -/
  | other
deriving DecidableEq, Repr

structure KeyPress where
  key : Key
  control : Bool := false
deriving DecidableEq, Repr

namespace Picker

/-- The candidate number that a character stands for. -/
def numberOf? (c : Char) : Option Nat :=
  if Text.Decimal.isDigit c && c != '0' then some (Text.Decimal.digitValue c) else none

/-- A typed character: a number picks its candidate while the query is empty and there is such
a candidate, and everything else goes to the query. -/
def typed (picker : Picker) (c : Char) : Picker × Option Choice :=
  let number := if picker.query.isEmpty then numberOf? c else none
  match number.map picker.selectNumber with
  | some (picked, some command) => (picked, some (.accepted command))
  | _ => (picker.input c, none)

def press (picker : Picker) (keyPress : KeyPress) : Picker × Option Choice :=
  match keyPress.key with
  | .escape => (picker, some .cancelled)
  | .enter => (picker, some (.accepted picker.accept))
  | .up => (picker.up, none)
  | .down => (picker.down, none)
  | .tab => (picker.complete, none)
  | .backspace => (picker.backspace, none)
  | .other => (picker, none)
  | .char c =>
      if c = 'c' && keyPress.control then (picker, some .cancelled) else picker.typed c

/-- Presses keys until one of them settles the choice. -/
def pressAll (picker : Picker) : List KeyPress → Picker × Option Choice
  | [] => (picker, none)
  | keyPress :: rest =>
      match picker.press keyPress with
      | (next, none) => next.pressAll rest
      | settled => settled

end Picker

end CellRunner
