import CellRunner.Text.Ranges
import CellRunner.Text.Width.Table

/-!
The columns that a text takes on a terminal, by the widths of its characters. Fitting a text to a
number of columns keeps its longest prefix that is no wider, whatever the widths are.
-/

namespace CellRunner.Text

/-- How many columns characters take. A control character has no width. -/
abbrev Widths := Char → Option Nat

namespace Widths

/-- A character without a width counts as one column. -/
def ofChar (widths : Widths) (c : Char) : Nat :=
  (widths c).getD 1

def ofText (widths : Widths) : List Char → Nat
  | [] => 0
  | c :: rest => widths.ofChar c + widths.ofText rest

/-- The characters of `text` up to the first that does not fit into what is left of `limit`
columns, and the columns that they take. -/
def fit (widths : Widths) : List Char → Nat → List Char × Nat
  | [], _ => ([], 0)
  | c :: rest, limit =>
      if widths.ofChar c ≤ limit then
        let fitted := widths.fit rest (limit - widths.ofChar c)
        (c :: fitted.1, widths.ofChar c + fitted.2)
      else ([], 0)

/-- A text is fitted together with the columns that are left of it. Induction on the text. -/
theorem fit_width (widths : Widths) (text : List Char) (limit : Nat)
    : (widths.fit text limit).2 = widths.ofText (widths.fit text limit).1 := by
  induction text generalizing limit with
  | nil => rfl
  | cons c rest ih =>
      simp only [fit]
      split
      · simp [ofText, ih]
      · rfl

def isControl (c : Char) : Bool :=
  c.toNat < 0x20 || (0x7F ≤ c.toNat && c.toNat < 0xA0)

/-- The widths outside an East Asian context. The Khmer sign beyyal is the only character of three
columns. -/
def terminal : Widths := fun c =>
  let n := c.toNat
  if isControl c then none
  else if n < 0xAD then some 1
  else if n = 0x17D8 then some 3
  else if inRanges Width.zeroRanges n then some 0
  else if inRanges Width.wideRanges n then some 2
  else some 1

end Widths

/-- Fits a text to the columns of a terminal. -/
def fit (text : List Char) (limit : Nat) : List Char × Nat :=
  Widths.terminal.fit text limit

end CellRunner.Text
