import CellRunner.Proofs.Picker.Settling

/-!
The numbers of the rows and the keys that pick by them. The candidates in the window are numbered
from the top and the first nine of them show their numbers. While nothing is entered a digit picks
the row that shows it; a digit that no row shows is entered, and so is every digit after that.
-/

namespace CellRunner.Picker

open Text.Decimal (digit)

/-- The candidates in the window with their indexes, from the top. -/
def visibleCandidates (picker : Picker) : List (Item × Nat) :=
  picker.visible.filter (fun entry => entry.1.kind = .candidate)

/-- The number at a row is its place among the candidates in the window, as far as nine. -/
structure NumberedRows (picker : Picker) : Prop where
  consecutive
    : picker.visibleCandidates.map (·.2)
      = List.range' (max picker.scroll 1)
          (min (picker.scroll + picker.maxVisible) picker.items.length - max picker.scroll 1)
  candidate
    : ∀ place entry,
        picker.visibleCandidates[place]? = some entry
        → picker.numberAt entry.2 = if place < 9 then some (place + 1) else none
  entered : picker.numberAt 0 = none
  outside
    : ∀ index,
        index < picker.scroll ∨ picker.scroll + picker.maxVisible ≤ index
          ∨ picker.items.length ≤ index
        → picker.numberAt index = none

/-- A key press enters a character and leaves the choice open. -/
def Enters (picker : Picker) (keyPress : KeyPress) (c : Char) : Prop :=
  (picker.press keyPress).2 = none ∧ (picker.press keyPress).1.query = picker.query.push c

/-- What the keys of the digits do, with or without the control key. -/
structure DigitKeys (picker : Picker) : Prop where
  shown
    : ∀ number control,
        1 ≤ number
        → number ≤ 9
        → picker.query = ""
        → ∀ entry ∈ picker.visible,
            picker.numberAt entry.2 = some number
            → (picker.press ⟨.char (digit number), control⟩).2 = some (.accepted entry.1.label)
  unshown
    : ∀ number control,
        1 ≤ number
        → number ≤ 9
        → picker.query = ""
        → (∀ entry ∈ picker.visible, picker.numberAt entry.2 ≠ some number)
        → picker.Enters ⟨.char (digit number), control⟩ (digit number)
  queried
    : ∀ number control,
        number ≤ 9
        → picker.query ≠ ""
        → picker.Enters ⟨.char (digit number), control⟩ (digit number)

variable {picker : Picker} {menu : CommandMenu} {height : Nat}

-----------------------------------------------------------------------------------------
-- Numbered rows
-----------------------------------------------------------------------------------------

theorem numberAt_eq_none {index : Nat}
    (other : ∀ item, (item, index) ∈ picker.visible → item.kind ≠ .candidate)
    : picker.numberAt index = none := by
  apply Option.eq_none_iff_forall_ne_some.mpr
  intro number shown
  obtain ⟨item, member, kind⟩ :=
    mem_visible_of_numberedIndex (numberAt_eq_some_iff.mp shown).2
  exact other item member kind

theorem numberedIndex_place {place : Nat} {entry : Item × Nat}
    (found : picker.visibleCandidates[place]? = some entry)
    : picker.numberedIndex (place + 1) = some entry.2 := by
  rw [numberedIndex, if_neg (Nat.succ_ne_zero place), Nat.add_sub_cancel]
  exact congrArg (Option.map Prod.snd) found

theorem numberAt_candidate {place : Nat} {entry : Item × Nat}
    (found : picker.visibleCandidates[place]? = some entry)
    : picker.numberAt entry.2 = if place < 9 then some (place + 1) else none := by
  have picks := numberedIndex_place found
  split
  · next near => exact numberAt_eq_some_iff.mpr ⟨⟨by omega, by omega⟩, picks⟩
  · next far =>
      apply Option.eq_none_iff_forall_ne_some.mpr
      intro number shown
      obtain ⟨range, also⟩ := numberAt_eq_some_iff.mp shown
      have same := numberedIndex_injective picks also
      omega

theorem filter_range'_ne_zero (start count : Nat)
    : (List.range' start count).filter (· ≠ 0)
      = List.range' (max start 1) (start + count - max start 1) := by
  cases start with
  | zero =>
      cases count with
      | zero => rfl
      | succ count =>
          rw [List.range'_succ, List.filter_cons_of_neg (by simp), List.filter_eq_self.mpr]
          · simp
          · intro index member
            exact decide_eq_true (Nat.ne_of_gt (List.mem_range'_1.mp member).1)
  | succ start =>
      rw [List.filter_eq_self.mpr]
      · simp
      · intro index member
        exact decide_eq_true (Nat.ne_zero_of_lt (List.mem_range'_1.mp member).1)

/-- The candidates in the window are its rows without that of the first item. -/
theorem Coherent.map_visibleCandidates (h : Coherent menu height picker)
    : picker.visibleCandidates.map (·.2)
      = List.range' (max picker.scroll 1)
          (min (picker.scroll + picker.maxVisible) picker.items.length - max picker.scroll 1) := by
  have kept : picker.visibleCandidates = picker.visible.filter ((· ≠ 0) ∘ (·.2)) := by
    refine List.filter_congr fun entry member => ?_
    exact decide_eq_decide.mpr (h.kind_eq_candidate_iff (getElem?_of_mem_visible member))
  have inside : picker.scroll < picker.items.length := Nat.lt_of_le_of_lt h.above h.selected
  have rows : picker.scroll + min picker.maxVisible (picker.items.length - picker.scroll)
      = min (picker.scroll + picker.maxVisible) picker.items.length := by omega
  rw [kept, ← List.filter_map, map_visible, filter_range'_ne_zero, rows]

theorem Coherent.numberedRows (h : Coherent menu height picker)
    : NumberedRows picker where
  consecutive := h.map_visibleCandidates
  candidate _ _ found := numberAt_candidate found
  entered := by
    refine numberAt_eq_none fun item member candidate => ?_
    exact (h.kind_eq_candidate_iff (getElem?_of_mem_visible member)).mp candidate rfl
  outside index beyond := by
    refine numberAt_eq_none fun item member _ => ?_
    have bounds := bounds_of_mem_visible member
    simp only at bounds
    omega

-----------------------------------------------------------------------------------------
-- Digit keys
-----------------------------------------------------------------------------------------

theorem numberOf?_digit {number : Nat} (low : 1 ≤ number) (high : number ≤ 9)
    : numberOf? (digit number) = some number := by
  have all : ∀ n < 10, 1 ≤ n → numberOf? (digit n) = some n := by decide
  exact all number (by omega) low

/-- A digit is no interruption, whether or not the control key is held. -/
theorem press_digit {number : Nat} (high : number ≤ 9) (control : Bool)
    : picker.press ⟨.char (digit number), control⟩ = picker.typed (digit number) := by
  have all : ∀ n < 10, digit n ≠ 'c' := by decide
  have other : digit number ≠ 'c' := all number (by omega)
  simp [Picker.press, other]

theorem typed_picks {number index : Nat} (low : 1 ≤ number) (high : number ≤ 9)
    (empty : picker.query = "") (numbered : picker.numberedIndex number = some index)
    : (picker.typed (digit number)).2
      = some (.accepted { picker with selected := index }.accept) := by
  simp [typed, empty, numberOf?_digit low high, selectNumber, numbered]

theorem typed_enters {c : Char}
    (unpicked : ∀ number, picker.query = "" → numberOf? c = some number
      → picker.numberedIndex number = none)
    : picker.typed c = (picker.input c, none) := by
  simp only [typed]
  split
  · next picked command chosen =>
      obtain ⟨number, digit, picks⟩ := Option.map_eq_some_iff.mp chosen
      split at digit
      · next empty =>
          have query : picker.query = "" := by simpa using empty
          rw [selectNumber, unpicked number query digit] at picks
          simp at picks
      · contradiction
  · rfl

theorem Coherent.digitKeys (h : Coherent menu height picker)
    : DigitKeys picker where
  shown number control low high empty entry member shown := by
    rw [press_digit high, typed_picks low high empty (numberAt_eq_some_iff.mp shown).2,
      h.accept_visible member]
  unshown number control low high empty absent := by
    have unpicked (other : Nat) (_ : picker.query = "")
        (read : numberOf? (digit number) = some other)
        : picker.numberedIndex other = none := by
      obtain rfl := Option.some.inj ((numberOf?_digit low high).symm.trans read)
      apply Option.eq_none_iff_forall_ne_some.mpr
      intro index numbered
      obtain ⟨item, member, _⟩ := mem_visible_of_numberedIndex numbered
      exact absent _ member (numberAt_eq_some_iff.mpr ⟨⟨low, high⟩, numbered⟩)
    rw [Enters, press_digit high, typed_enters unpicked]
    exact ⟨rfl, rfl⟩
  queried number control high queried := by
    rw [Enters, press_digit high, typed_enters fun _ empty => absurd empty queried]
    exact ⟨rfl, rfl⟩

/-- Whatever has been done to a picker, the candidates in its window are numbered from the top, and
a digit picks the row that shows it, as long as nothing is entered, or is entered itself. -/
theorem digit_keys_pick_numbers (menu : CommandMenu) (height : Nat) (positive : 0 < height)
    (actions : List Action)
    : let picker := (opened menu height).actAll actions
      NumberedRows picker ∧ DigitKeys picker := by
  have kept := (coherent_opened menu positive).actAll actions
  exact ⟨kept.numberedRows, kept.digitKeys⟩

/-- A window of two rows that was scrolled away from the entered item: its rows have the numbers
one and two, and a three is entered. -/
theorem digit_keys_pick_numbers_scrolled
    : ∃ menu : CommandMenu, ∃ picker : Picker,
        menu = ⟨"", "repl", "run", [⟨"a", none⟩, ⟨"b", none⟩, ⟨"c", some "the last one"⟩]⟩
        ∧ 0 < 2
        ∧ picker
          = (opened menu 2).actAll
              [.press ⟨.down, false⟩, .press ⟨.down, false⟩, .press ⟨.down, false⟩]
        ∧ picker.numberAt 3 = some 2
        ∧ (picker.press ⟨.char '2', false⟩).2 = some (.accepted "c")
        ∧ picker.Enters ⟨.char '3', true⟩ '3' := by
  obtain ⟨numbered, keys⟩ :=
    digit_keys_pick_numbers
      ⟨"", "repl", "run", [⟨"a", none⟩, ⟨"b", none⟩, ⟨"c", some "the last one"⟩]⟩ 2 (by decide)
      [.press ⟨.down, false⟩, .press ⟨.down, false⟩, .press ⟨.down, false⟩]
  have second := numbered.candidate 1 (⟨.candidate, "c", "the last one"⟩, 3) (by decide +kernel)
  exact ⟨_, _, rfl, by decide, rfl, second,
    keys.shown 2 false (by decide) (by decide) (by decide +kernel)
      (⟨.candidate, "c", "the last one"⟩, 3) (by decide +kernel) second,
    keys.unshown 3 true (by decide) (by decide) (by decide +kernel) (by decide +kernel)⟩

end CellRunner.Picker
