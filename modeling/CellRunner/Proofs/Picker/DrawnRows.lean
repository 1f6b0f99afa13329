import CellRunner.Picker.Drawing
import CellRunner.Proofs.Picker.Settling
import CellRunner.Proofs.Text.Widths

/-!
The rows of the picker's box. What is written to a terminal falls into strips, each the text that
follows a move of the cursor. Every kind of row is one strip that begins at the box's left side
and is as wide as the box, with a border at either end, whatever the widths of its texts are.
-/

namespace CellRunner

/-- A text and the position at which it is written. -/
structure Strip where
  column : Nat
  row : Nat
  text : List Char
deriving DecidableEq, Repr

namespace Output

/-- The text that is written before the cursor is moved. -/
def leadingText : List Output → List Char
  | [] => []
  | .text s :: rest => s.toList ++ leadingText rest
  | .moveTo _ _ :: _ => []
  | _ :: rest => leadingText rest

/-- The texts that are written after moves of the cursor. -/
def strips : List Output → List Strip
  | [] => []
  | .moveTo column row :: rest => ⟨column, row, leadingText rest⟩ :: strips rest
  | _ :: rest => strips rest

variable {outputs more : List Output}

/-- Outputs that move the cursor before they write leave the text in front of them as it is. -/
theorem leadingText_append (moves : leadingText more = [])
    : leadingText (outputs ++ more) = leadingText outputs := by
  induction outputs with
  | nil => exact moves
  | cons output rest ih => cases output <;> simp [leadingText, ih]

theorem strips_append (moves : leadingText more = [])
    : strips (outputs ++ more) = strips outputs ++ strips more := by
  induction outputs with
  | nil => rfl
  | cons output rest ih => cases output <;> simp [strips, ih, leadingText_append moves]

/-- Outputs that do not move the cursor write in front of what follows. -/
theorem leadingText_append_of_still (still : strips outputs = [])
    : leadingText (outputs ++ more) = leadingText outputs ++ leadingText more := by
  induction outputs with
  | nil => rfl
  | cons output rest ih =>
      cases output with
      | moveTo => simp [strips] at still
      | _ =>
          simp only [strips] at still
          simp [leadingText, ih still]

theorem strips_append_of_still (still : strips outputs = [])
    : strips (outputs ++ more) = strips more := by
  induction outputs with
  | nil => rfl
  | cons output rest ih =>
      cases output with
      | moveTo => simp [strips] at still
      | _ =>
          simp only [strips] at still
          simpa [strips] using ih still

end Output

namespace Picker
open Text Output

def leftBorders : List Char :=
  ['┌', '│', '├', '└']

def rightBorders : List Char :=
  ['┐', '│', '┤', '┘']

/-- The borders belong to the frame, by inspection. -/
theorem mem_frame_of_mem_borders {c : Char} (border : c ∈ leftBorders ++ rightBorders)
    : c ∈ Widths.frame := by
  have all : leftBorders ++ rightBorders ⊆ Widths.frame := by
    simp [leftBorders, rightBorders, Widths.frame]
  exact all border

variable {widths : Widths}

/-- A strip goes from the left border of a box to its right one. -/
structure Spans (widths : Widths) (box : Box) (strip : Strip) : Prop where
  column : strip.column = box.left
  width : widths.ofText strip.text = box.width
  borders
    : ∃ left ∈ leftBorders, ∃ inner, ∃ right ∈ rightBorders,
        strip.text = left :: (inner ++ [right])

/-- Outputs write `count` rows of a box one after the other, from row `first` on. -/
structure FillsRows (widths : Widths) (box : Box) (outputs : List Output) (first count : Nat)
    : Prop where
  moves : leadingText outputs = []
  rows : (strips outputs).map (·.row) = List.range' first count
  spans : ∀ strip ∈ strips outputs, Spans widths box strip

-----------------------------------------------------------------------------------------
-- Rows put together
-----------------------------------------------------------------------------------------

namespace FillsRows

variable {box : Box} {outputs more : List Output} {first count : Nat}

/-- What is between the borders of a row takes the box's width less two columns. -/
theorem single (framing : widths.Framing) {row : Nat} (left right : Char) (inner : List Char)
    (moves : leadingText outputs = [])
    (strip : strips outputs = [⟨box.left, row, left :: (inner ++ [right])⟩])
    (opens : left ∈ leftBorders) (closes : right ∈ rightBorders)
    (width : widths.ofText inner + 2 = box.width)
    : FillsRows widths box outputs row 1 where
  moves := moves
  rows := by rw [strip]; rfl
  spans other member := by
    rw [strip, List.mem_singleton] at member
    subst member
    refine ⟨rfl, ?_, left, opens, inner, right, closes, rfl⟩
    have first : widths.ofChar left = 1 :=
      framing.ofChar_frame (mem_frame_of_mem_borders (List.mem_append_left _ opens))
    have last : widths.ofChar right = 1 :=
      framing.ofChar_frame (mem_frame_of_mem_borders (List.mem_append_right _ closes))
    simp only [Widths.ofText_cons, Widths.ofText_append, Widths.ofText_nil, first, last]
    omega

theorem nil (widths : Widths) (box : Box) (first : Nat)
    : FillsRows widths box [] first 0 where
  moves := rfl
  rows := rfl
  spans _ member := absurd member List.not_mem_nil

theorem append {extra : Nat} (h : FillsRows widths box outputs first count)
    (following : FillsRows widths box more (first + count) extra)
    : FillsRows widths box (outputs ++ more) first (count + extra) where
  moves := by rw [leadingText_append following.moves, h.moves]
  rows := by
    rw [strips_append following.moves, List.map_append, h.rows, following.rows,
      List.range'_append_1]
  spans strip member := by
    rw [strips_append following.moves, List.mem_append] at member
    exact member.elim (h.spans strip) (following.spans strip)

/-- Items that each fill one row, on consecutive rows. -/
theorem flatMap {α : Type} {items : List α} {draw : α → List Output} (place : α → Nat)
    (consecutive : items.map place = List.range' first items.length)
    (each : ∀ item ∈ items, FillsRows widths box (draw item) (place item) 1)
    : FillsRows widths box (items.flatMap draw) first items.length := by
  induction items generalizing first with
  | nil => exact nil widths box first
  | cons item rest ih =>
      rw [List.map_cons, List.length_cons, List.range'_succ, List.cons.injEq] at consecutive
      obtain ⟨here, later⟩ := consecutive
      have row := each item List.mem_cons_self
      rw [here] at row
      rw [List.flatMap_cons, List.length_cons, Nat.add_comm rest.length]
      exact row.append (ih later fun other member => each other (List.mem_cons_of_mem item member))

end FillsRows

-----------------------------------------------------------------------------------------
-- Widths of the parts of rows
-----------------------------------------------------------------------------------------

/-- The width that comes with a fitted text is that of the text. -/
theorem fitText_width (widths : Widths) (s : String) (limit : Nat)
    : widths.ofText (fitText widths s limit).1.toList = (fitText widths s limit).2 := by
  simp [fitText, Widths.fit_width]

/-- A fitted text takes no more columns than the limit. -/
theorem fitText_le (widths : Widths) (s : String) (limit : Nat)
    : (fitText widths s limit).2 ≤ limit := by
  rw [← fitText_width]
  simpa [fitText] using Widths.ofText_fit_le s.toList limit

/-- A fitted text comes with its width, which is at most the limit. -/
theorem exists_fitText (widths : Widths) (s : String) (limit : Nat)
    : ∃ shown,
        fitText widths s limit = (shown, widths.ofText shown.toList)
        ∧ widths.ofText shown.toList ≤ limit :=
  ⟨(fitText widths s limit).1, Prod.ext rfl (fitText_width widths s limit).symm,
    fitText_width widths s limit ▸ fitText_le widths s limit⟩

/-- A blank is a visible character of ASCII, so it takes one column. -/
theorem ofChar_blank (framing : widths.Framing)
    : widths.ofChar ' ' = 1 :=
  framing.ofChar_ascii (by decide) (by decide)

/-- Blanks take as many columns as there are of them. -/
theorem ofText_blanks (framing : widths.Framing) (n : Nat)
    : widths.ofText (blanks n).toList = n := by
  rw [blanks, String.toList_ofList]
  exact Widths.ofText_replicate (ofChar_blank framing) n

/-- The character of a rule belongs to the frame, so it takes one column. -/
theorem ofChar_rule (framing : widths.Framing)
    : widths.ofChar '─' = 1 :=
  framing.ofChar_frame (by decide)

/-- A rule takes as many columns as it is long. -/
theorem ofText_rule (framing : widths.Framing) (n : Nat)
    : widths.ofText (rule n).toList = n := by
  rw [rule, String.toList_ofList]
  exact Widths.ofText_replicate (ofChar_rule framing) n

/-- The number of an item has one digit, so the margin has five columns with or without it. -/
theorem exists_itemMargin (picker : Picker) (framing : widths.Framing) (index : Nat)
    : ∃ margin,
        (itemMargin (picker.numberAt index)).toList = '│' :: margin ∧ widths.ofText margin = 4 := by
  cases shown : picker.numberAt index with
  | none => exact ⟨[' ', ' ', ' ', ' '], rfl, by simp [ofChar_blank framing]⟩
  | some number =>
      have digit : number < 10 := Nat.lt_succ_of_le (numberAt_eq_some_iff.mp shown).1.2
      have ascii : ∀ n < 10,
          0x20 ≤ (Text.Decimal.digit n).toNat ∧ (Text.Decimal.digit n).toNat < 0x7F := by decide
      have one : widths.ofChar (Text.Decimal.digit number) = 1 :=
        framing.ofChar_ascii (ascii number digit).1 (ascii number digit).2
      have dot : widths.ofChar '.' = 1 := framing.ofChar_ascii (by decide) (by decide)
      have written : Text.Decimal.digits number = [Text.Decimal.digit number] := by
        rw [Text.Decimal.digits, if_pos digit]
      refine ⟨[' ', Text.Decimal.digit number, '.', ' '], ?_, ?_⟩
      · simp [itemMargin, written]
      · simp [ofChar_blank framing, one, dot]

/-- A description stays in its row and takes no more columns than its label has left. -/
theorem exists_descriptionPart (framing : widths.Framing) (item : Item) (isSelected : Bool)
    {used limit : Nat} (within : used ≤ limit)
    : ∃ outputs,
        descriptionPart widths item isSelected used limit
          = (outputs, widths.ofText (leadingText outputs))
        ∧ strips outputs = []
        ∧ used + widths.ofText (leadingText outputs) ≤ limit := by
  unfold descriptionPart
  split
  · next room =>
      obtain ⟨description, fitted, short⟩ :=
        exists_fitText widths item.description (limit - used - 2)
      simp only [Bool.and_eq_true, decide_eq_true_eq] at room
      let outputs : List Output :=
        (if isSelected then [] else [.foreground colors.hint]) ++ [.text ("  " ++ description)]
      have written : leadingText outputs = ' ' :: ' ' :: description.toList := by
        cases isSelected <;> simp [outputs, leadingText]
      have still : strips outputs = [] := by cases isSelected <;> rfl
      have width : widths.ofText (leadingText outputs) = widths.ofText description.toList + 2 := by
        simp [written, ofChar_blank framing]
        omega
      refine ⟨outputs, ?_, still, by omega⟩
      rw [fitted, width]
  · exact ⟨[], rfl, rfl, within⟩

-----------------------------------------------------------------------------------------
-- The kinds of rows
-----------------------------------------------------------------------------------------

/-- The row of the query begins with what of the query fits. -/
theorem strips_queryRow (widths : Widths) (picker : Picker) (box : Box)
    : strips (picker.queryRow widths box)
      = [⟨box.left, box.top + 1,
          '│' :: ([' ', '>', ' '] ++ (picker.shownQuery widths box).1.toList
            ++ (blanks (box.width - (queryIndent + (picker.shownQuery widths box).2 + 1))).toList
            ++ ['│'])⟩] := by
  simp [queryRow, strips, leadingText]

/-- The query leaves room for the prompt and the border, since it is fitted to what they leave. -/
theorem shownQuery_le (widths : Widths) (picker : Picker) (box : Box)
    : (picker.shownQuery widths box).2 ≤ box.width - 5 :=
  fitText_le widths _ _

section

variable (picker : Picker) (framing : widths.Framing) {box : Box}

include framing

/-- The title is fitted, and a rule takes up what it leaves of the box's width. -/
theorem titleRow_fills (wide : 16 ≤ box.width)
    : FillsRows widths box (picker.titleRow widths box) box.top 1 := by
  obtain ⟨title, fitted, within⟩ := exists_fitText widths picker.menu.title (box.width - 6)
  refine .single framing '┌' '┐'
    (['─', ' '] ++ title.toList ++ [' ']
      ++ (rule (box.width - (widths.ofText title.toList + 5))).toList)
    rfl ?_ (by decide) (by decide) ?_
  · simp [titleRow, fitted, strips, leadingText]
  · simp [ofChar_blank framing, ofChar_rule framing, ofText_rule framing]
    omega

/-- Blanks take up what the query leaves of the box's width. -/
theorem queryRow_fills (wide : 16 ≤ box.width)
    : FillsRows widths box (picker.queryRow widths box) (box.top + 1) 1 := by
  have fitted := shownQuery_le widths picker box
  have width
      : widths.ofText (picker.shownQuery widths box).1.toList
        = (picker.shownQuery widths box).2 :=
    fitText_width widths _ _
  have angle : widths.ofChar '>' = 1 := framing.ofChar_ascii (by decide) (by decide)
  refine .single framing '│' '│' _ rfl (strips_queryRow widths picker box) (by decide)
    (by decide) ?_
  simp [width, angle, queryIndent, ofChar_blank framing, ofText_blanks framing]
  omega

/-- A rule is two columns shorter than the box is wide, one for each border. -/
theorem separatorRow_fills (wide : 16 ≤ box.width)
    : FillsRows widths box (separatorRow box) (box.top + 2) 1 := by
  refine .single framing '├' '┤' (rule (box.width - 2)).toList rfl ?_ (by decide) (by decide) ?_
  · simp [separatorRow, strips, leadingText]
  · rw [ofText_rule framing]
    omega

/-- Margin, label and description leave room for the border, and blanks take up what they leave. -/
theorem itemRow_fills (wide : 16 ≤ box.width) (row : Nat) (item : Item) (index : Nat)
    : FillsRows widths box (picker.itemRow widths box row item index) row 1 := by
  obtain ⟨margin, opens, four⟩ := picker.exists_itemMargin framing index
  obtain ⟨label, fitted, within⟩ := exists_fitText widths (picker.itemLabel item) (box.width - 6)
  obtain ⟨description, described, still, room⟩ :=
    exists_descriptionPart framing item (index = picker.selected) within
  refine .single framing '│' '│'
    (margin ++ label.toList ++ leadingText description
      ++ (blanks
          (box.width - 6
            - (widths.ofText label.toList + widths.ofText (leadingText description)))).toList)
    ?_ ?_ (by decide) (by decide) ?_
  · simp [itemRow, leadingText]
  · simp only [itemRow, fitted, described]
    split <;>
      simp [strips, leadingText, opens, leadingText_append_of_still still,
        strips_append_of_still still]
  · simp [four, ofText_blanks framing]
    omega

/-- Blanks go from one border to the other. -/
theorem emptyRow_fills (wide : 16 ≤ box.width) (row : Nat)
    : FillsRows widths box (emptyRow box row) row 1 := by
  refine .single framing '│' '│' (blanks (box.width - 2)).toList rfl ?_ (by decide) (by decide) ?_
  · simp [emptyRow, strips, leadingText]
  · rw [ofText_blanks framing]
    omega

/-- The help is fitted, and a rule takes up what it leaves of the box's width. -/
theorem helpRow_fills (wide : 16 ≤ box.width)
    : FillsRows widths box (helpRow widths box) box.bottom 1 := by
  obtain ⟨help, fitted, within⟩ :=
    exists_fitText widths "Enter:Start Tab:Edit 1-9:Pick Esc:Cancel" (box.width - 4)
  refine .single framing '└' '┘'
    ([' '] ++ help.toList ++ [' '] ++ (rule (box.width - (widths.ofText help.toList + 4))).toList)
    rfl ?_ (by decide) (by decide) ?_
  · simp [helpRow, fitted, strips, leadingText]
  · simp [ofChar_blank framing, ofText_rule framing]
    omega

/-- Items and empty rows fill the box between separator and bottom border. -/
theorem itemRows_fill (wide : 16 ≤ box.width) (room : box.height ≤ picker.maxVisible + 4)
    : FillsRows widths box (picker.itemRows widths box) (box.top + 3) (box.height - 4) := by
  let shown := picker.visible.take (box.height - 4)
  let empty := List.range' shown.length (box.height - 4 - shown.length)
  have few : shown.length ≤ box.height - 4 := List.length_take_le _ _
  have rows : min picker.maxVisible (box.height - 4) = box.height - 4 := by omega
  have shownRows : shown.zipIdx.map (box.top + 3 + ·.2)
      = List.range' (box.top + 3) shown.zipIdx.length := by
    calc shown.zipIdx.map (box.top + 3 + ·.2)
      _ = (shown.zipIdx.map (·.2)).map (box.top + 3 + ·) := (List.map_map ..).symm
      _ = List.range' (box.top + 3) shown.zipIdx.length := by
        rw [List.zipIdx_map_snd, List.map_add_range', List.length_zipIdx, Nat.add_zero]
  have emptyRows : empty.map (box.top + 3 + ·)
      = List.range' (box.top + 3 + shown.length) empty.length := by
    rw [List.map_add_range', List.length_range']
  have drawn := FillsRows.flatMap _ shownRows fun entry _ =>
    picker.itemRow_fills framing wide (box.top + 3 + entry.2) entry.1.1 entry.1.2
  have blank := FillsRows.flatMap _ emptyRows fun row _ =>
    emptyRow_fills framing wide (box.top + 3 + row)
  rw [List.length_zipIdx] at drawn
  have both := drawn.append blank
  rw [List.length_range', Nat.add_sub_cancel' few] at both
  rw [itemRows, rows]
  exact both

end

end Picker

end CellRunner
