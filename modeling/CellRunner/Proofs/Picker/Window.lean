import CellRunner.Picker.Keys
import Mathlib.Data.List.Nodup

/-!
What holds of a picker whatever is done to it. The first item shows the query and the others are
the candidates of the menu; one item is selected, and the window always has it among its rows and
leaves no row empty that an item could fill.
-/

namespace CellRunner.Picker

/-- A picker of a height, opened on a menu. -/
def opened (menu : CommandMenu) (height : Nat) : Picker :=
  { ofMenu menu with maxVisible := height }

inductive Action where
  | press (keyPress : KeyPress)
  | selectNumber (number : Nat)
deriving DecidableEq, Repr

def act (picker : Picker) : Action → Picker
  | .press keyPress => (picker.press keyPress).1
  | .selectNumber number => (picker.selectNumber number).1

/-- The picker after all of the actions; a choice that settles does not end them. -/
def actAll (picker : Picker) (actions : List Action) : Picker :=
  actions.foldl act picker

/-- The last action is carried out behind the others, by folding over the list. -/
theorem actAll_concat (picker : Picker) (actions : List Action) (action : Action)
    : picker.actAll (actions ++ [action]) = (picker.actAll actions).act action := by
  rw [actAll, List.foldl_concat, actAll]

/-- The item for a query, with what accepting the query would run. -/
def Item.ofQuery (menu : CommandMenu) (query : String) : Item where
  kind := .entered
  label := query
  description :=
    "Run: " ++ menu.launcherHint ++ " "
      ++ if Text.allBlank query then menu.defaultCommand else query

/-- What a picker of a height shows of a menu. -/
structure Coherent (menu : CommandMenu) (height : Nat) (picker : Picker) : Prop where
  opened : picker.menu = menu
  maxVisible : picker.maxVisible = height
  entered : picker.items[0]? = some (.ofQuery menu picker.query)
  candidates : picker.items.tail = menu.candidates.map Item.ofCandidate
  selected : picker.selected < picker.items.length
  above : picker.scroll ≤ picker.selected
  below : picker.selected < picker.scroll + height
  filled : picker.scroll = 0 ∨ picker.scroll + height ≤ picker.items.length

-----------------------------------------------------------------------------------------
-- The window
-----------------------------------------------------------------------------------------

theorem take_range' (start length count : Nat)
    : (List.range' start length).take count = List.range' start (min count length) := by
  rcases Nat.le_total count length with some | all
  · rw [List.take_range'_of_length_ge some, Nat.min_eq_left some]
  · rw [List.take_range'_of_length_le all, Nat.min_eq_right all]

/-- The window shows consecutive items. -/
theorem map_visible (picker : Picker)
    : picker.visible.map (·.2)
      = List.range' picker.scroll
          (min picker.maxVisible (picker.items.length - picker.scroll)) := by
  have numbered : picker.visible.map (·.2)
      = (List.range' picker.scroll (picker.items.length - picker.scroll)).take
          picker.maxVisible := by
    simp [visible, List.map_take, List.map_drop, List.zipIdx_map_snd, List.drop_range']
  rw [numbered, take_range']

/-- No place is visible twice, as the places are consecutive numbers. -/
theorem nodup_visible (picker : Picker)
    : (picker.visible.map (·.2)).Nodup := by
  rw [map_visible]
  exact List.nodup_range' 1

/-- What is visible at a place is the item there, by the places of an enumerated list. -/
theorem getElem?_of_mem_visible {picker : Picker} {entry : Item × Nat}
    (member : entry ∈ picker.visible)
    : picker.items[entry.2]? = some entry.1 :=
  List.mk_mem_zipIdx_iff_getElem?.mp (List.mem_of_mem_drop (List.mem_of_mem_take member))

/-- The places that are visible are those of the window, by taking and dropping. -/
theorem bounds_of_mem_visible {picker : Picker} {entry : Item × Nat}
    (member : entry ∈ picker.visible)
    : picker.scroll ≤ entry.2
      ∧ entry.2 < picker.scroll + picker.maxVisible
      ∧ entry.2 < picker.items.length := by
  have place : entry.2 ∈ picker.visible.map (·.2) := List.mem_map_of_mem member
  rw [map_visible, List.mem_range'_1] at place
  omega

/-- A number stands for a candidate in the window. -/
theorem mem_visible_of_numberedIndex {picker : Picker} {number index : Nat}
    (numbered : picker.numberedIndex number = some index)
    : ∃ item, (item, index) ∈ picker.visible ∧ item.kind = .candidate := by
  unfold numberedIndex at numbered
  split at numbered
  · contradiction
  · obtain ⟨⟨item, place⟩, found, rfl⟩ := Option.map_eq_some_iff.mp numbered
    have member := List.mem_filter.mp (List.mem_of_getElem? found)
    exact ⟨item, member.1, by simpa using member.2⟩

namespace Coherent

variable {menu : CommandMenu} {height : Nat} {picker : Picker}

-----------------------------------------------------------------------------------------
-- Steps
-----------------------------------------------------------------------------------------

/-- Bringing the first item in line with a query makes it the item for that query. -/
theorem refresh (h : Coherent menu height picker) (query : String) (selected scroll : Nat)
    (inside : selected < picker.items.length) (above : scroll ≤ selected)
    (below : selected < scroll + height)
    (filled : scroll = 0 ∨ scroll + height ≤ picker.items.length)
    : Coherent menu height
        { picker with query := query, selected := selected, scroll := scroll }.refresh where
  opened := h.opened
  maxVisible := h.maxVisible
  entered := by
    have kind : picker.entered.kind = .entered :=
      congrArg Item.kind (Option.some.inj h.entered)
    simp [items, Picker.refresh, Item.ofQuery, kind, h.opened]
  candidates := h.candidates
  selected := inside
  above := above
  below := below
  filled := filled

/-- There is an item for the query and one for each candidate. -/
theorem length_items (h : Coherent menu height picker)
    : picker.items.length = menu.candidates.length + 1 := by
  have others := congrArg List.length h.candidates
  simpa [items] using others

/-- The window has a row, as the selected item is inside it. -/
theorem positive (h : Coherent menu height picker) : 0 < height := by
  have above := h.above
  have below := h.below
  omega

/-- Typing a query keeps the picker coherent, since its items are made anew and the window starts at
the first of them. -/
theorem withQuery (h : Coherent menu height picker) (query : String)
    : Coherent menu height (picker.withQuery query) :=
  h.refresh query 0 0 (Nat.zero_lt_of_lt h.selected) (Nat.le_refl 0)
    (by simpa using h.positive) (.inl rfl)

/-- Deleting a character keeps the picker coherent, by typing a shorter query. -/
theorem backspace (h : Coherent menu height picker)
    : Coherent menu height picker.backspace :=
  h.refresh _ picker.selected picker.scroll h.selected h.above h.below h.filled

/-- Selecting an item in the window needs no scrolling. -/
theorem select (h : Coherent menu height picker) {index : Nat}
    (inside : index < picker.items.length) (above : picker.scroll ≤ index)
    (below : index < picker.scroll + height)
    : Coherent menu height { picker with selected := index } :=
  { h with selected := inside, above := above, below := below }

/-- Selecting what is visible keeps the picker coherent, as it is in the window. -/
theorem selectVisible (h : Coherent menu height picker) {entry : Item × Nat}
    (member : entry ∈ picker.visible)
    : Coherent menu height { picker with selected := entry.2 } := by
  obtain ⟨above, below, inside⟩ := bounds_of_mem_visible member
  exact h.select inside above (h.maxVisible ▸ below)

/-- Selecting any item keeps the window filled, if it is scrolled as far as it takes. -/
theorem scrollTo (h : Coherent menu height picker) {index : Nat}
    (inside : index < picker.items.length)
    : Coherent menu height { picker with selected := index }.adjustScroll := by
  have positive := h.positive
  have filled := h.filled
  unfold adjustScroll
  split
  · next front =>
      have scrolled : picker.scroll ≠ 0 := Nat.ne_zero_of_lt front
      have room : index + height ≤ picker.items.length := by
        simp only at front
        omega
      exact {
        h with
        selected := inside
        above := Nat.le_refl index
        below := Nat.lt_add_of_pos_right positive
        filled := .inr room
      }
  · next behind =>
      split
      · next past =>
          simp only [h.maxVisible] at past ⊢
          have room : index - height + 1 + height ≤ picker.items.length := by omega
          exact {
            h with
            maxVisible := rfl
            selected := inside
            above := by simp only; omega
            below := by simp only; omega
            filled := .inr room
          }
      · next within =>
          simp only [h.maxVisible] at within
          exact h.select inside (Nat.le_of_not_lt behind) (Nat.lt_of_not_le within)

/-- Moving up keeps the picker coherent, by scrolling to the selected item. -/
theorem up (h : Coherent menu height picker)
    : Coherent menu height picker.up := by
  unfold Picker.up
  split
  · exact h.scrollTo (Nat.lt_of_le_of_lt (Nat.sub_le _ _) h.selected)
  · exact h

/-- Moving down keeps the picker coherent, by scrolling to the selected item. -/
theorem down (h : Coherent menu height picker)
    : Coherent menu height picker.down := by
  unfold Picker.down
  split
  · next room => exact h.scrollTo room
  · exact h

/-- Completing the query keeps the picker coherent, by cases on the item that is selected. -/
theorem complete (h : Coherent menu height picker)
    : Coherent menu height picker.complete := by
  unfold Picker.complete
  split
  · exact h.withQuery _
  · exact h

/-- Picking a number keeps the picker coherent, by cases on whether a candidate shows it. -/
theorem selectNumber (h : Coherent menu height picker) (number : Nat)
    : Coherent menu height (picker.selectNumber number).1 := by
  unfold Picker.selectNumber
  split
  · exact h
  · next index numbered =>
      obtain ⟨item, member, _⟩ := mem_visible_of_numberedIndex numbered
      exact h.selectVisible member

/-- Typing a character keeps the picker coherent, by cases on whether it picks a number. -/
theorem typed (h : Coherent menu height picker) (c : Char)
    : Coherent menu height (picker.typed c).1 := by
  simp only [Picker.typed]
  split
  · next picked command chosen =>
      obtain ⟨number, _, picks⟩ := Option.map_eq_some_iff.mp chosen
      have kept := h.selectNumber number
      rwa [picks] at kept
  · exact h.withQuery _

/-- A key press keeps the picker coherent, by cases on the key. -/
theorem press (h : Coherent menu height picker) (keyPress : KeyPress)
    : Coherent menu height (picker.press keyPress).1 := by
  unfold Picker.press
  split
  · exact h
  · exact h
  · exact h.up
  · exact h.down
  · exact h.complete
  · exact h.backspace
  · exact h
  · split
    · exact h
    · exact h.typed _

/-- An action keeps the picker coherent, by cases on the action. -/
theorem act (h : Coherent menu height picker) (action : Action)
    : Coherent menu height (picker.act action) := by
  cases action with
  | press keyPress => exact h.press keyPress
  | selectNumber number => exact h.selectNumber number

/-- Actions keep the picker coherent, by induction from the last one. -/
theorem actAll (h : Coherent menu height picker) (actions : List Action)
    : Coherent menu height (picker.actAll actions) := by
  induction actions generalizing picker with
  | nil => exact h
  | cons action rest ih => exact ih (h.act action)

end Coherent

/-- An opened picker is coherent, with the first item selected at the top of the window. -/
theorem coherent_opened (menu : CommandMenu) {height : Nat} (positive : 0 < height)
    : Coherent menu height (opened menu height) where
  opened := rfl
  maxVisible := rfl
  entered := rfl
  candidates := rfl
  selected := Nat.zero_lt_succ _
  above := Nat.le_refl 0
  below := Nat.lt_add_of_pos_right positive
  filled := .inl rfl

-----------------------------------------------------------------------------------------
-- The selected item on the screen
-----------------------------------------------------------------------------------------

/-- A coherent picker fills its window with consecutive items, and one of them is selected. -/
theorem Coherent.visible {menu : CommandMenu} {height : Nat} {picker : Picker}
    (h : Coherent menu height picker)
    : picker.visible.map (·.2) = List.range' picker.scroll (min height picker.items.length)
      ∧ (picker.visible.filter (·.2 = picker.selected)).length = 1 := by
  have filled := h.filled
  have above := h.above
  have below := h.below
  have inside := h.selected
  have rows : min picker.maxVisible (picker.items.length - picker.scroll)
      = min height picker.items.length := by
    rw [h.maxVisible]
    omega
  refine ⟨by rw [map_visible, rows], ?_⟩
  have place : picker.selected ∈ picker.visible.map (·.2) := by
    rw [map_visible, List.mem_range'_1]
    omega
  have once := List.count_eq_one_of_mem picker.nodup_visible place
  rw [← List.countP_eq_length_filter, ← once, List.count, List.countP_map]
  rfl

/-- Whatever is done to a picker, it shows the query and the candidates of its menu, and its
window is filled with consecutive items among which there is the selected one. -/
theorem window_of_actions (menu : CommandMenu) (height : Nat) (positive : 0 < height)
    (actions : List Action)
    : let picker := (opened menu height).actAll actions
      Coherent menu height picker
      ∧ picker.visible.map (·.2)
        = List.range' picker.scroll (min height picker.items.length)
      ∧ (∀ entry ∈ picker.visible, picker.items[entry.2]? = some entry.1)
      ∧ (picker.visible.filter (·.2 = picker.selected)).length = 1 := by
  have kept := (coherent_opened menu positive).actAll actions
  exact ⟨kept, kept.visible.1, fun _ => getElem?_of_mem_visible, kept.visible.2⟩

/-- A window of two rows that was scrolled to its end, and then had its first candidate picked. -/
theorem window_of_actions_scrolled
    : ∃ menu : CommandMenu, ∃ picker : Picker,
        menu = ⟨"", "repl", "run", [⟨"a", none⟩, ⟨"b", none⟩, ⟨"c", some "the last one"⟩]⟩
        ∧ 0 < 2
        ∧ picker
          = (opened menu 2).actAll
              [.press ⟨.down, false⟩, .press ⟨.down, false⟩, .press ⟨.down, false⟩,
                .selectNumber 1]
        ∧ picker.scroll = 2
        ∧ (⟨.candidate, "b", ""⟩, picker.selected) ∈ picker.visible
        ∧ Coherent menu 2 picker
        ∧ picker.visible.map (·.2) = List.range' picker.scroll (min 2 picker.items.length)
        ∧ picker.items[picker.selected]? = some ⟨.candidate, "b", ""⟩
        ∧ (picker.visible.filter (·.2 = picker.selected)).length = 1 := by
  obtain ⟨coherent, consecutive, rows, single⟩ :=
    window_of_actions ⟨"", "repl", "run", [⟨"a", none⟩, ⟨"b", none⟩, ⟨"c", some "the last one"⟩]⟩ 2
      (by decide)
      [.press ⟨.down, false⟩, .press ⟨.down, false⟩, .press ⟨.down, false⟩, .selectNumber 1]
  refine ⟨_, _, rfl, by decide, rfl, by decide, ?_, coherent, consecutive,
    rows (⟨.candidate, "b", ""⟩, _) ?_, single⟩
  all_goals decide +kernel

end CellRunner.Picker
