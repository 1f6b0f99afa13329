import CellRunner.Proofs.Picker.DrawnRows

/-!
The picker's box on a terminal of any size. A terminal that is too small is left alone. Otherwise
every row of the box is drawn once, from the top to the bottom and from border to border, the
cursor is left behind the query and inside the box, and all of it is on the screen.
-/

namespace CellRunner.Picker
open Text Output

/-- What of the query is shown; nothing while nothing is entered. -/
def enteredText (widths : Widths) (picker : Picker) (box : Box) : List Char :=
  if picker.query.isEmpty then [] else (widths.fit picker.query.toList (box.width - 5)).1

/-- What is written to draw a picker in a box: its rows and, as the last move, that of the cursor
to the end of the query. -/
structure Drawn (widths : Widths) (picker : Picker) (box : Box) (outputs : List Output)
    (rows : List Strip) (cursor : Strip)
    : Prop where
  moves : leadingText outputs = []
  written : strips outputs = rows ++ [cursor]
  each : rows.map (·.row) = List.range' box.top box.height
  spans : ∀ strip ∈ rows, Spans widths box strip
  query
    : ∃ strip ∈ rows,
        strip.row = box.top + 1
        ∧ ['│', ' ', '>', ' '] ++ picker.enteredText widths box <+: strip.text
  behind : cursor = ⟨box.left + 4 + widths.ofText (picker.enteredText widths box), box.top + 1, []⟩
  within : cursor.column ≤ box.left + box.width - 1

/-- A box is on a screen with all positions to which the cursor is moved, and these are words of
16 bits. -/
structure OnScreen (columns rows : UInt16) (box : Box) (strips : List Strip) : Prop where
  right : box.left + box.width ≤ columns.toNat
  bottom : box.top + box.height ≤ rows.toNat
  positions : ∀ strip ∈ strips, strip.column < columns.toNat ∧ strip.row < rows.toNat
  words
    : ∀ strip ∈ strips,
        (UInt16.ofNat strip.column).toNat = strip.column
        ∧ (UInt16.ofNat strip.row).toNat = strip.row

/-- The subtractions of drawing take away no more than there is. -/
structure Subtracts (widths : Widths) (picker : Picker) (columns rows : UInt16) (box : Box)
    : Prop where
  left : box.width ≤ columns.toNat
  top : box.height ≤ rows.toNat
  interior : 2 ≤ box.width
  bottom : 1 ≤ box.top + box.height
  scrolled : ∀ entry ∈ picker.visible, picker.scroll ≤ entry.2
  description
    : ∀ item isSelected used limit,
        (descriptionPart widths item isSelected used limit).1 ≠ [] → used + 2 ≤ limit

-----------------------------------------------------------------------------------------
-- The rows of the box
-----------------------------------------------------------------------------------------

/-- All of the rows, without the cursor. -/
def boxRows (widths : Widths) (picker : Picker) (box : Box) : List Output :=
  picker.titleRow widths box ++ picker.queryRow widths box ++ separatorRow box
    ++ picker.itemRows widths box ++ helpRow widths box

variable (widths : Widths) (picker : Picker) (box : Box)

/-- A box is its rows between the choice of colours and the move of the cursor. -/
theorem drawBox_eq
    : picker.drawBox widths box
      = [.background colors.background, .foreground colors.foreground]
        ++ (picker.boxRows widths box
          ++ [.resetColors, .moveTo (picker.cursorColumn widths box) (box.top + 1),
            .showCursor]) := by
  simp [drawBox, boxRows]

/-- The strips of a box are those of its rows and the place of the cursor. -/
theorem strips_drawBox
    : strips (picker.drawBox widths box)
      = strips (picker.boxRows widths box)
        ++ [⟨picker.cursorColumn widths box, box.top + 1, []⟩] := by
  rw [drawBox_eq, strips_append_of_still rfl, strips_append rfl]
  rfl

/-- The cursor stands behind what is shown of the query, by the width that the fitted query comes
with. -/
theorem cursorColumn_eq
    : picker.cursorColumn widths box
      = box.left + 4 + widths.ofText (picker.enteredText widths box) := by
  unfold cursorColumn enteredText shownQuery
  split
  · rfl
  · simp [fitText, Widths.fit_width, queryIndent]

/-- What is shown of the query leaves room for the prompt and the border. -/
theorem enteredText_le
    : widths.ofText (picker.enteredText widths box) ≤ box.width - 5 := by
  unfold enteredText
  split
  · exact Nat.zero_le _
  · exact Widths.ofText_fit_le _ _

/-- While nothing is entered the placeholder is shown, and the cursor stands in front of it. -/
theorem enteredText_isPrefix
    : picker.enteredText widths box <+: (picker.shownQuery widths box).1.toList := by
  unfold enteredText shownQuery
  split
  · exact List.nil_prefix
  · simp [fitText, queryIndent]

section

variable {widths} {box} (framing : widths.Framing)

include framing

/-- The rows fill the box, since the kinds of rows come one after the other. -/
theorem boxRows_fill (wide : 16 ≤ box.width) (high : 5 ≤ box.height)
    (room : box.height ≤ picker.maxVisible + 4)
    : FillsRows widths box (picker.boxRows widths box) box.top box.height := by
  have help := helpRow_fills framing wide
  have bottom : box.bottom = box.top + (3 + (box.height - 4)) := by
    unfold Box.bottom
    omega
  have count : 3 + (box.height - 4) + 1 = box.height := by omega
  rw [bottom] at help
  have filled := ((((picker.titleRow_fills framing wide).append
    (picker.queryRow_fills framing wide)).append (separatorRow_fills framing wide)).append
      (picker.itemRows_fill framing wide room)).append help
  rwa [count] at filled

/-- The second row shows the prompt and the query. -/
theorem exists_queryStrip (wide : 16 ≤ box.width) (room : box.height ≤ picker.maxVisible + 4)
    : ∃ strip ∈ strips (picker.boxRows widths box),
        strip.row = box.top + 1
        ∧ ['│', ' ', '>', ' '] ++ picker.enteredText widths box <+: strip.text := by
  obtain ⟨rest, shown⟩ := enteredText_isPrefix widths picker box
  let padding := blanks (box.width - (queryIndent + (picker.shownQuery widths box).2 + 1))
  refine ⟨⟨box.left, box.top + 1,
    '│' :: ([' ', '>', ' '] ++ (picker.shownQuery widths box).1.toList ++ padding.toList
      ++ ['│'])⟩, ?_, rfl, ?_⟩
  · rw [boxRows, strips_append (helpRow_fills framing wide).moves,
      strips_append (picker.itemRows_fill framing wide room).moves,
      strips_append (separatorRow_fills framing wide).moves,
      strips_append (picker.queryRow_fills framing wide).moves, strips_queryRow]
    simp [padding]
  · rw [← shown]
    simp

/-- All of a box is drawn, by its rows and the place of the cursor. -/
theorem drawn_drawBox (wide : 16 ≤ box.width) (high : 5 ≤ box.height)
    (room : box.height ≤ picker.maxVisible + 4)
    : Drawn widths picker box (picker.drawBox widths box) (strips (picker.boxRows widths box))
        ⟨picker.cursorColumn widths box, box.top + 1, []⟩ where
  moves := by
    rw [drawBox_eq, leadingText_append_of_still rfl, leadingText_append rfl,
      (picker.boxRows_fill framing wide high room).moves]
    rfl
  written := strips_drawBox widths picker box
  each := (picker.boxRows_fill framing wide high room).rows
  spans := (picker.boxRows_fill framing wide high room).spans
  query := picker.exists_queryStrip framing wide room
  behind := by rw [cursorColumn_eq]
  within := by
    have entered := enteredText_le widths picker box
    rw [cursorColumn_eq]
    simp only
    omega

end

-----------------------------------------------------------------------------------------
-- The box on a screen
-----------------------------------------------------------------------------------------

variable {widths} {picker} {box}

/-- What is drawn within a box is on the screen if the box is. -/
theorem Drawn.onScreen {outputs : List Output} {rowStrips : List Strip} {cursor : Strip}
    {columns rows : UInt16} (h : Drawn widths picker box outputs rowStrips cursor)
    (wide : 16 ≤ box.width) (high : 5 ≤ box.height)
    (right : box.left + box.width ≤ columns.toNat) (bottom : box.top + box.height ≤ rows.toNat)
    : OnScreen columns rows box (strips outputs) := by
  have positions : ∀ strip ∈ strips outputs,
      strip.column < columns.toNat ∧ strip.row < rows.toNat := by
    intro strip member
    rw [h.written, List.mem_append, List.mem_singleton] at member
    rcases member with drawn | rfl
    · have column := (h.spans strip drawn).column
      have row : strip.row ∈ rowStrips.map (·.row) := List.mem_map_of_mem drawn
      rw [h.each, List.mem_range'_1] at row
      omega
    · have within := h.within
      have row := congrArg Strip.row h.behind
      simp only at row
      omega
  have columnWord := columns.toNat_lt
  have rowWord := rows.toNat_lt
  exact {
    right := right
    bottom := bottom
    positions := positions
    words := fun strip member => by
      obtain ⟨column, row⟩ := positions strip member
      exact ⟨UInt16.toNat_ofNat_of_lt (Nat.lt_trans column columnWord),
        UInt16.toNat_ofNat_of_lt (Nat.lt_trans row rowWord)⟩
  }

/-- Nothing is subtracted from less, for a box that is on the screen. -/
theorem subtracts {columns rows : UInt16} (wide : 16 ≤ box.width)
    (high : 5 ≤ box.height) (right : box.left + box.width ≤ columns.toNat)
    (bottom : box.top + box.height ≤ rows.toNat)
    : Subtracts widths picker columns rows box where
  left := by omega
  top := by omega
  interior := by omega
  bottom := by omega
  scrolled _ member := (bounds_of_mem_visible member).1
  description item isSelected used limit drawn := by
    unfold descriptionPart at drawn
    split at drawn
    · next room =>
        simp only [Bool.and_eq_true, decide_eq_true_eq] at room
        omega
    · contradiction

/-- The place and the size of the box, spelled out. -/
theorem box?_eq (columns rows : Nat)
    : picker.box? columns rows
      = if min 72 (columns - 4) < 16 ∨ min (picker.maxVisible + 4) (rows - 2) < 5 then none
        else
          some
            ⟨(columns - min 72 (columns - 4)) / 2,
              (rows - min (picker.maxVisible + 4) (rows - 2)) / 2, min 72 (columns - 4),
              min (picker.maxVisible + 4) (rows - 2)⟩ := by
  simp only [box?, Bool.or_eq_true, decide_eq_true_eq]

/-- A picker is drawn on a terminal that has at least 16 columns and five rows for it, and nothing
is written on a smaller one. Every row of the box is drawn once, from border to border, and the
cursor is left behind the query. This holds for all widths of characters, as long as those of the
frame take one column each. -/
theorem box_drawn_on_screen (widths : Widths) (framing : widths.Framing) (picker : Picker)
    (columns rows : UInt16)
    : let width := min 72 (columns.toNat - 4)
      let height := min (picker.maxVisible + 4) (rows.toNat - 2)
      let box : Box :=
        ⟨(columns.toNat - width) / 2, (rows.toNat - height) / 2, width, height⟩
      let outputs := picker.drawWith widths columns.toNat rows.toNat
      (width < 16 ∨ height < 5 → outputs = [])
      ∧ (16 ≤ width
          → 5 ≤ height
          → (∃ rowStrips cursor, Drawn widths picker box outputs rowStrips cursor)
            ∧ OnScreen columns rows box (strips outputs)
            ∧ Subtracts widths picker columns rows box) := by
  intro width height box outputs
  constructor
  · intro small
    have unboxed : picker.box? columns.toNat rows.toNat = none := by
      rw [box?_eq, if_pos small]
    simp only [outputs, drawWith, unboxed]
  · intro wide high
    have fits : ¬ (width < 16 ∨ height < 5) := by omega
    have boxed : picker.box? columns.toNat rows.toNat = some box := by
      rw [box?_eq, if_neg fits]
    have drawn : outputs = picker.drawBox widths box := by simp only [outputs, drawWith, boxed]
    have right : box.left + box.width ≤ columns.toNat := by
      simp only [box]
      omega
    have bottom : box.top + box.height ≤ rows.toNat := by
      simp only [box]
      omega
    have room : box.height ≤ picker.maxVisible + 4 := Nat.min_le_left _ _
    have full := picker.drawn_drawBox framing (show 16 ≤ box.width from wide) high room
    rw [drawn]
    exact ⟨⟨_, _, full⟩, full.onScreen wide high right bottom,
      subtracts wide high right bottom⟩

/-- The narrowest box, with room for two items: the cursor stands behind one character, and nothing
is drawn on a terminal with one column less. -/
theorem box_drawn_on_screen_narrow
    : ∃ picker : Picker, ∃ rowStrips cursor,
        picker = (ofMenu ⟨"Run what?", "repl", "run", []⟩).actAll [.press ⟨.char 'x', false⟩]
        ∧ Widths.terminal.Framing
        ∧ 16 ≤ min 72 ((20 : UInt16).toNat - 4)
        ∧ 5 ≤ min (picker.maxVisible + 4) ((8 : UInt16).toNat - 2)
        ∧ Drawn Widths.terminal picker ⟨2, 1, 16, 6⟩ (picker.draw 20 8) rowStrips cursor
        ∧ cursor = ⟨2 + 4 + 1, 2, []⟩
        ∧ OnScreen 20 8 ⟨2, 1, 16, 6⟩ (strips (picker.draw 20 8))
        ∧ picker.draw 19 8 = [] := by
  let picker := (ofMenu ⟨"Run what?", "repl", "run", []⟩).actAll [.press ⟨.char 'x', false⟩]
  have place : (((20 : UInt16).toNat - min 72 ((20 : UInt16).toNat - 4)) / 2 = 2
      ∧ ((8 : UInt16).toNat - min (picker.maxVisible + 4) ((8 : UInt16).toNat - 2)) / 2 = 1)
      ∧ min 72 ((20 : UInt16).toNat - 4) = 16
      ∧ min (picker.maxVisible + 4) ((8 : UInt16).toNat - 2) = 6 := by decide
  obtain ⟨⟨left, top⟩, width, height⟩ := place
  obtain ⟨⟨rowStrips, cursor, drawn⟩, shown, _⟩ :=
    (box_drawn_on_screen Widths.terminal Widths.framing_terminal picker 20 8).2 (by decide)
      (by decide)
  rw [left, top, width, height] at drawn shown
  have entered : Widths.terminal.ofText (picker.enteredText Widths.terminal ⟨2, 1, 16, 6⟩) = 1 := by
    decide
  exact ⟨picker, rowStrips, cursor, rfl, Widths.framing_terminal, by decide, by decide, drawn,
    drawn.behind.trans (by rw [entered]), shown,
    (box_drawn_on_screen Widths.terminal Widths.framing_terminal picker 19 8).1 (.inl (by decide))⟩

end CellRunner.Picker
