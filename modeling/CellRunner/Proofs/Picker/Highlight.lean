import CellRunner.Proofs.Picker.DrawnBox

/-!
The selected item on the screen. The window over the items is as high as the picker wants it, and
on a low terminal the box has fewer rows than that; then an item that is selected further down in
the window is not drawn. On a terminal with a row for every item of the window it always is.
-/

namespace CellRunner.Picker

/-- One of the item rows that are drawn is that of the selected item. -/
def SelectedDrawn (widths : Text.Widths) (picker : Picker) (columns rows : Nat) : Prop :=
  ∃ box item row,
    picker.box? columns rows = some box
    ∧ picker.items[picker.selected]? = some item
    ∧ picker.itemRow widths box row item picker.selected <:+: picker.drawWith widths columns rows

variable {widths : Text.Widths} {picker : Picker} {box : Box} {columns rows : Nat}

-----------------------------------------------------------------------------------------
-- The colour of the selected row
-----------------------------------------------------------------------------------------

/-- The colour behind the selected item, which no other row has. -/
def highlight : Output :=
  .background colors.selectedBackground

/-- The selected row is told apart by its background. -/
theorem selectedBackground_ne
    : colors.selectedBackground ≠ colors.background := by decide

/-- A description does not change the background, whether its item is selected or not. -/
theorem highlight_notMem_descriptionPart (widths : Text.Widths) (item : Item) (isSelected : Bool)
    (used limit : Nat)
    : highlight ∉ (descriptionPart widths item isSelected used limit).1 := by
  unfold descriptionPart
  split
  · cases isSelected <;> simp [highlight]
  · exact List.not_mem_nil

/-- An item's row has the colour exactly if the item is selected. -/
theorem highlight_mem_itemRow_iff (widths : Text.Widths) (box : Box) (row : Nat) (item : Item)
    (index : Nat)
    : highlight ∈ picker.itemRow widths box row item index ↔ index = picker.selected := by
  have plain := highlight_notMem_descriptionPart widths item (index = picker.selected)
  unfold highlight at plain ⊢
  by_cases selected : index = picker.selected
  · simp [itemRow, selected]
  · simp only [selected, decide_false] at plain
    simp [itemRow, selected, plain, selectedBackground_ne]

/-- Empty rows keep the background of the box. -/
theorem highlight_notMem_emptyRow (box : Box) (row : Nat)
    : highlight ∉ emptyRow box row := by
  simp [emptyRow, highlight]

/-- The rows of items are drawn for the front of the window, as far as the box goes. -/
theorem highlight_mem_itemRows_iff
    : highlight ∈ picker.itemRows widths box
      ↔ picker.selected ∈ (picker.visible.take (box.height - 4)).map (·.2) := by
  simp only [itemRows, List.mem_append, List.mem_flatMap, highlight_mem_itemRow_iff,
    highlight_notMem_emptyRow, and_false, exists_false, or_false, List.mem_map]
  constructor
  · rintro ⟨⟨entry, place⟩, member, selected⟩
    exact ⟨entry, List.fst_mem_of_mem_zipIdx member, selected⟩
  · rintro ⟨entry, member, selected⟩
    obtain ⟨place, found⟩ := List.mem_iff_getElem?.mp member
    exact ⟨(entry, place), List.mk_mem_zipIdx_iff_getElem?.mpr found, selected⟩

/-- In the whole box, only the rows of items can have the colour. -/
theorem highlight_mem_drawBox_iff
    : highlight ∈ picker.drawBox widths box ↔ highlight ∈ picker.itemRows widths box := by
  unfold highlight
  simp [drawBox, titleRow, queryRow, separatorRow, helpRow, selectedBackground_ne]

-----------------------------------------------------------------------------------------
-- The rows that are drawn
-----------------------------------------------------------------------------------------

/-- The rows of items are drawn in one piece. -/
theorem itemRows_isInfix (widths : Text.Widths) (picker : Picker) (box : Box)
    : picker.itemRows widths box <:+: picker.drawBox widths box :=
  ⟨[.background colors.background, .foreground colors.foreground] ++ picker.titleRow widths box
      ++ picker.queryRow widths box ++ separatorRow box,
    helpRow widths box
      ++ [.resetColors, .moveTo (picker.cursorColumn widths box) (box.top + 1), .showCursor],
    by simp [drawBox]⟩

/-- An item at the front of the window has a row in the box. -/
theorem exists_itemRow {item : Item} {index : Nat}
    (member : (item, index) ∈ picker.visible.take (box.height - 4))
    : ∃ row, picker.itemRow widths box row item index <:+: picker.drawBox widths box := by
  obtain ⟨place, found⟩ := List.mem_iff_getElem?.mp member
  have numbered : ((item, index), place) ∈ (picker.visible.take (box.height - 4)).zipIdx :=
    List.mk_mem_zipIdx_iff_getElem?.mpr found
  refine ⟨box.top + 3 + place, List.IsInfix.trans ?_ (itemRows_isInfix widths picker box)⟩
  refine List.IsInfix.trans ?_ (List.prefix_append _ _).isInfix
  rw [List.flatMap_def]
  exact List.infix_of_mem_flatten (List.mem_map.mpr ⟨_, numbered, rfl⟩)

/-- The selected item is at the front of the window if that reaches down to it, since the window
shows consecutive items from the scroll position on. -/
theorem Coherent.mem_front_iff {menu : CommandMenu} {height : Nat}
    (h : Coherent menu height picker) (count : Nat)
    : picker.selected ∈ (picker.visible.take count).map (·.2)
      ↔ picker.selected < picker.scroll + count := by
  have above := h.above
  have below := h.below
  have inside := h.selected
  have rows := h.maxVisible
  rw [List.map_take, map_visible, take_range', List.mem_range'_1]
  omega

/-- The selected item is drawn if the box has a row for every item from the one that is scrolled to
down to the selected one. -/
theorem Coherent.selectedDrawn_iff {menu : CommandMenu} {height : Nat}
    (h : Coherent menu height picker) (boxed : picker.box? columns rows = some box)
    : picker.SelectedDrawn widths columns rows
      ↔ picker.selected < picker.scroll + (box.height - 4) := by
  have drawn : picker.drawWith widths columns rows = picker.drawBox widths box := by
    simp only [drawWith, boxed]
  rw [← h.mem_front_iff]
  constructor
  · rintro ⟨other, item, row, same, _, contained⟩
    have colored := (highlight_mem_itemRow_iff widths other row item picker.selected).mpr rfl
    have somewhere := contained.subset colored
    rw [drawn] at somewhere
    exact highlight_mem_itemRows_iff.mp (highlight_mem_drawBox_iff.mp somewhere)
  · intro front
    obtain ⟨⟨item, index⟩, member, selected⟩ := List.mem_map.mp front
    simp only at selected
    subst selected
    obtain ⟨row, contained⟩ := exists_itemRow member
    exact ⟨box, item, row, boxed, getElem?_of_mem_visible (List.mem_of_mem_take member),
      drawn ▸ contained⟩

-----------------------------------------------------------------------------------------
-- The selected item after key presses
-----------------------------------------------------------------------------------------

/-- Nothing is scrolled while the selected item is in the window. -/
theorem adjustScroll_of_within (above : picker.scroll ≤ picker.selected)
    (below : picker.selected < picker.scroll + picker.maxVisible)
    : picker.adjustScroll = picker := by
  rw [adjustScroll, if_neg (Nat.not_lt.mpr above), if_neg (Nat.not_le.mpr below)]

/-- Pressing the down key selects the items of the first window one after the other. Induction on
the number of presses, none of which scrolls. -/
theorem actAll_downs (menu : CommandMenu) {height count : Nat}
    (inside : count < (opened menu height).items.length) (within : count < height)
    : (opened menu height).actAll (List.replicate count (.press ⟨.down, false⟩))
      = { opened menu height with selected := count } := by
  induction count with
  | zero => rfl
  | succ count ih =>
      have room : count + 1 < { opened menu height with selected := count }.items.length := inside
      have shown : count + 1 < 0 + height := by simpa using within
      rw [List.replicate_succ', actAll_concat, ih (Nat.lt_of_succ_lt inside)
        (Nat.lt_of_succ_lt within)]
      simp only [act, Picker.press, Picker.down, if_pos room]
      exact adjustScroll_of_within (Nat.zero_le (count + 1)) shown

/-- A box leaves two rows of the terminal free and has at least five. -/
theorem height_of_box (boxed : picker.box? columns rows = some box)
    : box.height = min (picker.maxVisible + 4) (rows - 2) ∧ 5 ≤ box.height := by
  rw [box?_eq] at boxed
  split at boxed
  · contradiction
  · next fits =>
      obtain rfl := Option.some.inj boxed
      exact ⟨rfl, Nat.le_of_not_lt fun low => fits (.inr low)⟩

/-- The selected item is drawn if the terminal has six rows more than the window has down to that
item. -/
theorem selectedDrawn_iff_of_box (widths : Text.Widths) {menu : CommandMenu} {height : Nat}
    (h : Coherent menu height picker)
    (boxed : ((opened menu height).box? columns rows).isSome)
    : picker.SelectedDrawn widths columns rows ↔ picker.selected + 6 < picker.scroll + rows := by
  obtain ⟨box, boxed⟩ := Option.isSome_iff_exists.mp boxed
  have here : picker.box? columns rows = some box := by
    rw [box?_eq] at boxed ⊢
    rwa [h.maxVisible]
  obtain ⟨rowsOfBox, high⟩ := height_of_box here
  have below := h.below
  rw [h.selectedDrawn_iff here, rowsOfBox, h.maxVisible]
  rw [rowsOfBox, h.maxVisible] at high
  omega

/-- On a terminal on which a picker is drawn, the selected item is drawn exactly if the terminal has
six rows more than the window has down to that item. So whatever keys are pressed it is drawn,
exactly if the terminal has six rows more than the window has items. The widths of characters make
no difference. -/
theorem selected_drawn_iff (widths : Text.Widths) (menu : CommandMenu) (columns rows : Nat)
    (boxed : ((ofMenu menu).box? columns rows).isSome)
    : (∀ actions : List Action,
          let picker := (ofMenu menu).actAll actions
          picker.SelectedDrawn widths columns rows ↔ picker.selected + 6 < picker.scroll + rows)
      ∧ ((∀ presses : List KeyPress,
            ((ofMenu menu).actAll (presses.map .press)).SelectedDrawn widths columns rows)
          ↔ min 8 (menu.candidates.length + 1) + 6 ≤ rows) := by
  have coherent (actions : List Action) : Coherent menu 8 ((ofMenu menu).actAll actions) :=
    (coherent_opened menu (by decide)).actAll actions
  have drawn (actions : List Action) := selectedDrawn_iff_of_box widths (coherent actions) boxed
  refine ⟨drawn, ?_, ?_⟩
  · intro always
    have size := (coherent []).length_items
    obtain ⟨count, last⟩ : ∃ count, count + 1 = min 8 (menu.candidates.length + 1) :=
      ⟨min 8 (menu.candidates.length + 1) - 1, by omega⟩
    have reached : (ofMenu menu).actAll ((List.replicate count ⟨.down, false⟩).map .press)
        = { ofMenu menu with selected := count } := by
      rw [List.map_replicate]
      exact actAll_downs menu (Nat.lt_of_lt_of_eq (by omega) size.symm)
        (show count < 8 by omega)
    have shown := (drawn _).mp (always (List.replicate count ⟨.down, false⟩))
    rw [reached] at shown
    have room : count + 6 < 0 + rows := shown
    omega
  · intro room presses
    have kept := coherent (presses.map .press)
    have size := kept.length_items
    have inside := kept.selected
    have below := kept.below
    have filled := kept.filled
    rw [drawn]
    omega

/-- Two candidates on the lowest terminal that has a row for each of the items. -/
theorem selected_drawn_iff_three_items
    : ∃ menu : CommandMenu,
        menu = ⟨"", "repl", "run", [⟨"a", none⟩, ⟨"b", some "the last one"⟩]⟩
        ∧ ((ofMenu menu).box? 80 9).isSome
        ∧ min 8 (menu.candidates.length + 1) + 6 ≤ 9
        ∧ ∀ presses : List KeyPress,
            ((ofMenu menu).actAll (presses.map .press)).SelectedDrawn Text.Widths.terminal 80
              9 := by
  have boxed
      : ((ofMenu ⟨"", "repl", "run", [⟨"a", none⟩, ⟨"b", some "the last one"⟩]⟩).box? 80 9).isSome
        = true := by decide
  have drawn := selected_drawn_iff Text.Widths.terminal _ 80 9 boxed
  exact ⟨_, rfl, boxed, by decide, drawn.2.mpr (by decide)⟩

/-- Below the entered item of a box with one row for items, a candidate is selected unseen. -/
theorem selected_undrawn_on_low_terminal
    : ¬ ∀ (menu : CommandMenu) (presses : List KeyPress) (columns rows : Nat),
          ((ofMenu menu).box? columns rows).isSome
          → ((ofMenu menu).actAll (presses.map .press)).SelectedDrawn Text.Widths.terminal columns
              rows := by
  intro always
  have boxed : ((ofMenu ⟨"", "repl", "run", [⟨"a", none⟩]⟩).box? 80 7).isSome = true := by decide
  have drawn := always _ [⟨.down, false⟩] 80 7 boxed
  have height : 0 < 8 := by decide
  have kept := (coherent_opened ⟨"", "repl", "run", [⟨"a", none⟩]⟩ height).actAll
    [.press ⟨.down, false⟩]
  exact absurd ((selectedDrawn_iff_of_box Text.Widths.terminal kept boxed).mp drawn) (by decide)

end CellRunner.Picker
