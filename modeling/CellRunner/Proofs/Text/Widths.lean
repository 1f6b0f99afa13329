import CellRunner.Text.Width

/-!
Columns of texts that are put together from parts, and of texts that were fitted: a fitted text
takes no more columns than it was given, whatever the widths of characters are. A box can be drawn
where the characters of its frame take one column each, as they do on a terminal.
-/

namespace CellRunner.Text.Widths

/-- The characters that the frame of a box is drawn with. -/
def frame : List Char :=
  ['─', '│', '┌', '┐', '└', '┘', '├', '┤']

/-- Visible characters of ASCII and those of a frame take one column each. -/
structure Framing (widths : Widths) : Prop where
  ascii : ∀ c : Char, 0x20 ≤ c.toNat → c.toNat < 0x7F → widths c = some 1
  frame : ∀ c ∈ frame, widths c = some 1

/-- The characters that are in neither of the tables take one column, the Khmer sign apart. -/
theorem terminal_of_unlisted {c : Char} (visible : isControl c = false) (sign : c.toNat ≠ 0x17D8)
    (unlisted
      : (Width.zeroRanges.toList ++ Width.wideRanges.toList).any
          (fun range => range.1 ≤ c.toNat && c.toNat ≤ range.2) = false)
    : terminal c = some 1 := by
  rw [List.any_append, Bool.or_eq_false_iff, Array.any_toList, Array.any_toList] at unlisted
  obtain ⟨some, narrow⟩ := unlisted
  simp [terminal, inRanges, visible, sign, some, narrow]

/-- Boxes can be drawn on a terminal: ASCII comes before both tables, and no character of a frame
is in one of them. -/
theorem framing_terminal
    : terminal.Framing where
  ascii c low high := by
    have visible : isControl c = false := by
      simp [isControl]
      omega
    have front : c.toNat < 0xAD := by omega
    simp [terminal, visible, front]
  frame c member := by
    let listed : Char → Bool := fun c =>
      (Width.zeroRanges.toList ++ Width.wideRanges.toList).any fun range =>
        range.1 ≤ c.toNat && c.toNat ≤ range.2
    have unlisted : frame.all (fun c => !listed c) = true := by decide +kernel
    have others : frame.all (fun c => !isControl c && c.toNat ≠ 0x17D8) = true := by decide
    have apart := List.all_eq_true.mp others c member
    have outside : listed c = false := by simpa using List.all_eq_true.mp unlisted c member
    simp only [Bool.and_eq_true, Bool.not_eq_true', decide_eq_true_eq] at apart
    exact terminal_of_unlisted apart.1 apart.2 outside

variable {widths : Widths}

/-- A character of ASCII takes the one column that it has in the widths. -/
theorem Framing.ofChar_ascii (h : widths.Framing) {c : Char} (low : 0x20 ≤ c.toNat)
    (high : c.toNat < 0x7F)
    : widths.ofChar c = 1 := by
  rw [ofChar, h.ascii c low high, Option.getD_some]

/-- A character of a frame takes the one column that it has in the widths. -/
theorem Framing.ofChar_frame (h : widths.Framing) {c : Char} (member : c ∈ Widths.frame)
    : widths.ofChar c = 1 := by
  rw [ofChar, h.frame c member, Option.getD_some]

/-- No text takes no column. -/
@[simp]
theorem ofText_nil
    : widths.ofText [] = 0 := rfl

/-- The columns of the first character are added to those of the rest. -/
@[simp]
theorem ofText_cons (c : Char) (rest : List Char)
    : widths.ofText (c :: rest) = widths.ofChar c + widths.ofText rest := rfl

/-- The columns of texts in a row add up, by induction on the first one. -/
@[simp]
theorem ofText_append (text more : List Char)
    : widths.ofText (text ++ more) = widths.ofText text + widths.ofText more := by
  induction text with
  | nil => simp
  | cons c rest ih => simp [ih, Nat.add_assoc]

/-- A character of one column takes as many columns as it is repeated. -/
theorem ofText_replicate {c : Char} (single : widths.ofChar c = 1) (n : Nat)
    : widths.ofText (List.replicate n c) = n := by
  induction n with
  | zero => rfl
  | succ n ih => rw [List.replicate_succ, ofText_cons, ih, single, Nat.add_comm]

/-- A fitted text is within the limit, by induction on the text with what is left of the limit. -/
theorem ofText_fit_le (text : List Char) (limit : Nat)
    : widths.ofText (widths.fit text limit).1 ≤ limit := by
  induction text generalizing limit with
  | nil => exact Nat.zero_le limit
  | cons c rest ih =>
      simp only [fit]
      split
      · next fits =>
          have kept := ih (limit - widths.ofChar c)
          rw [ofText_cons]
          omega
      · exact Nat.zero_le limit

end CellRunner.Text.Widths
