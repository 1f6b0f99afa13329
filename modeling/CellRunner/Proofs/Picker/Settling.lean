import CellRunner.Proofs.Picker.Window

/-!
How the keys of a picker settle the choice. The number shown at a row is the one that picks it, so
a choice that is not dismissed settles on a row of the picker: with Enter on the selected one, or
with a number on the candidate that shows it.
-/

namespace CellRunner.Picker

variable {picker : Picker}

-----------------------------------------------------------------------------------------
-- Numbers
-----------------------------------------------------------------------------------------

theorem numberedIndex_eq (picker : Picker) {number : Nat} (positive : 0 < number)
    : picker.numberedIndex number
      = ((picker.visible.filter (fun item => item.1.kind = .candidate)).map
          (·.2))[number - 1]? := by
  rw [numberedIndex, if_neg (Nat.ne_of_gt positive), List.getElem?_map]

/-- Different numbers stand for different items. -/
theorem numberedIndex_injective {number other index : Nat}
    (numbered : picker.numberedIndex number = some index)
    (also : picker.numberedIndex other = some index)
    : number = other := by
  have positive {n : Nat} (h : picker.numberedIndex n = some index) : 0 < n := by
    apply Nat.pos_of_ne_zero
    rintro rfl
    simp [numberedIndex] at h
  have distinct
      : ((picker.visible.filter (fun item => item.1.kind = .candidate)).map (·.2)).Nodup :=
    (List.filter_sublist.map _).nodup picker.nodup_visible
  have first := positive numbered
  have second := positive also
  rw [numberedIndex_eq picker first] at numbered
  rw [numberedIndex_eq picker second] at also
  have inside := (List.getElem?_eq_some_iff.mp numbered).1
  have same := (List.getElem?_inj inside distinct).mp (numbered.trans also.symm)
  omega

/-- The number shown at an item is the number that picks it. -/
theorem numberAt_eq_some_iff {number index : Nat}
    : picker.numberAt index = some number
      ↔ (1 ≤ number ∧ number ≤ 9) ∧ picker.numberedIndex number = some index := by
  rw [numberAt, List.find?_range'_eq_some, List.mem_range'_1, decide_eq_true_eq]
  constructor
  · rintro ⟨picks, range, _⟩
    exact ⟨⟨range.1, by omega⟩, picks⟩
  · rintro ⟨⟨low, high⟩, picks⟩
    refine ⟨picks, ⟨low, by omega⟩, ?_⟩
    intro other _ smaller
    have apart : picker.numberedIndex other ≠ some index := by
      intro also
      exact Nat.ne_of_lt smaller (numberedIndex_injective also picks)
    simpa using apart

theorem numberOf?_range {c : Char} {number : Nat} (digit : numberOf? c = some number)
    : 1 ≤ number ∧ number ≤ 9 := by
  unfold numberOf? at digit
  split at digit
  · next shape =>
      obtain rfl := Option.some.inj digit
      simp only [Text.Decimal.isDigit, Bool.and_eq_true, decide_eq_true_eq, Char.le_def,
        bne_iff_ne] at shape
      have low : 48 ≤ c.toNat := shape.1.1
      have high : c.toNat ≤ 57 := shape.1.2
      have nonzero : c.toNat ≠ 48 := fun zero => shape.2 (Char.toNat_inj.mp zero)
      have zero : '0'.toNat = 48 := rfl
      simp only [Text.Decimal.digitValue]
      omega
  · contradiction

-----------------------------------------------------------------------------------------
-- The row of the choice
-----------------------------------------------------------------------------------------

/-- The picker and the key press at which the choice settles. -/
def settling? (picker : Picker) : List KeyPress → Option (Picker × KeyPress)
  | [] => none
  | keyPress :: rest =>
      match picker.press keyPress with
      | (next, none) => next.settling? rest
      | (_, some _) => some (picker, keyPress)

/-- The ways in which a key press settles the choice. -/
inductive Settles (picker : Picker) : KeyPress → Choice → Prop
  | entered {keyPress item} (enter : keyPress.key = .enter)
    (row : picker.items[picker.selected]? = some item) (kind : item.kind = .entered)
    : Settles picker keyPress (.accepted item.label)
  | candidate {keyPress item} (enter : keyPress.key = .enter)
    (row : picker.items[picker.selected]? = some item) (kind : item.kind = .candidate)
    : Settles picker keyPress (.accepted item.label)
  | numbered {keyPress c number index item} (typed : keyPress.key = .char c)
    (digit : numberOf? c = some number) (shown : picker.numberAt index = some number)
    (row : picker.items[index]? = some item) (kind : item.kind = .candidate)
    : Settles picker keyPress (.accepted item.label)
  | dismissed {keyPress}
    (key : keyPress.key = .escape ∨ keyPress.key = .char 'c' ∧ keyPress.control)
    : Settles picker keyPress .cancelled

variable {menu : CommandMenu} {height : Nat}

/-- Every item but the first one is a candidate. -/
theorem Coherent.kind_eq_candidate_iff (h : Coherent menu height picker) {index : Nat}
    {item : Item} (row : picker.items[index]? = some item)
    : item.kind = .candidate ↔ index ≠ 0 := by
  cases index with
  | zero =>
      obtain rfl := Option.some.inj (row.symm.trans h.entered)
      simp [Item.ofQuery]
  | succ index =>
      rw [← List.getElem?_tail, h.candidates, List.getElem?_map] at row
      obtain ⟨candidate, _, rfl⟩ := Option.map_eq_some_iff.mp row
      simp [Item.ofCandidate]

/-- A row of a picker is the query as entered, or a candidate. -/
theorem Coherent.row (h : Coherent menu height picker) {index : Nat} {item : Item}
    (row : picker.items[index]? = some item)
    : item = .ofQuery menu picker.query ∨ item.kind = .candidate := by
  by_cases first : index = 0
  · subst first
    exact .inl (Option.some.inj (row.symm.trans h.entered))
  · exact .inr ((h.kind_eq_candidate_iff row).mpr first)

/-- What is accepted is the label of the selected item, also where that is the query. -/
theorem Coherent.accept (h : Coherent menu height picker) {item : Item}
    (row : picker.items[picker.selected]? = some item)
    : picker.accept = item.label := by
  unfold Picker.accept
  rw [row]
  rcases h.row row with rfl | kind
  · rfl
  · rcases item with ⟨_, label, description⟩
    obtain rfl : _ = ItemKind.candidate := kind
    rfl

/-- The label of an item in the window is accepted when it is selected. -/
theorem Coherent.accept_visible (h : Coherent menu height picker) {entry : Item × Nat}
    (member : entry ∈ picker.visible)
    : { picker with selected := entry.2 }.accept = entry.1.label :=
  (h.selectVisible member).accept (getElem?_of_mem_visible member)

/-- A number that picks a candidate is typed while nothing is entered. -/
theorem typed_settles {c : Char} {choice : Choice}
    (settled : (picker.typed c).2 = some choice)
    : ∃ number index,
        numberOf? c = some number
        ∧ picker.numberedIndex number = some index
        ∧ choice = .accepted { picker with selected := index }.accept := by
  simp only [typed] at settled
  split at settled
  · next picked command chosen =>
      obtain ⟨number, digit, picks⟩ := Option.map_eq_some_iff.mp chosen
      have typed : numberOf? c = some number := by
        split at digit
        · exact digit
        · contradiction
      unfold selectNumber at picks
      split at picks
      · simp at picks
      · next index numbered =>
          obtain ⟨_, accepted⟩ := Prod.mk.inj picks
          obtain rfl := Option.some.inj accepted
          exact ⟨number, index, typed, numbered, (Option.some.inj settled).symm⟩
  · contradiction

/-- A key press that settles the choice does so on a row of the picker, or dismisses it. -/
theorem Coherent.settles (h : Coherent menu height picker) {keyPress : KeyPress}
    {choice : Choice} (settled : (picker.press keyPress).2 = some choice)
    : Settles picker keyPress choice := by
  rcases keyPress with ⟨key, control⟩
  cases key with
  | escape =>
      obtain rfl := Option.some.inj settled
      exact .dismissed (.inl rfl)
  | enter =>
      obtain rfl := Option.some.inj settled
      have row := List.getElem?_eq_getElem h.selected
      rw [h.accept row]
      rcases h.row row with entered | kind
      · exact .entered rfl row (congrArg Item.kind entered)
      · exact .candidate rfl row kind
  | up | down | tab | backspace | other => contradiction
  | char c =>
      simp only [Picker.press] at settled
      split at settled
      · next interrupt =>
          obtain rfl := Option.some.inj settled
          have both : c = 'c' ∧ control = true := by simpa using interrupt
          exact .dismissed (.inr ⟨congrArg Key.char both.1, both.2⟩)
      · obtain ⟨number, index, digit, numbered, rfl⟩ := typed_settles settled
        obtain ⟨item, member, kind⟩ := mem_visible_of_numberedIndex numbered
        have shown := numberAt_eq_some_iff.mpr ⟨numberOf?_range digit, numbered⟩
        rw [h.accept_visible member]
        exact .numbered rfl digit shown (getElem?_of_mem_visible member) kind

/-- The keys settle the choice that their settling key press settles, in a coherent picker. -/
theorem Coherent.settling (h : Coherent menu height picker) {presses : List KeyPress}
    {last : Picker} {keyPress : KeyPress}
    (settling : picker.settling? presses = some (last, keyPress))
    : Coherent menu height last
      ∧ ∃ choice, (picker.pressAll presses).2 = some choice ∧ Settles last keyPress choice := by
  induction presses generalizing picker with
  | nil => contradiction
  | cons first rest ih =>
      have kept := h.press first
      have settles : ∀ choice, (picker.press first).2 = some choice
          → Settles picker first choice :=
        fun _ settled => h.settles settled
      unfold settling? at settling
      unfold pressAll
      rcases pressed : picker.press first with ⟨next, _ | choice⟩
      · rw [pressed] at settling kept
        exact ih kept settling
      · rw [pressed] at settling settles
        obtain ⟨rfl, rfl⟩ := Prod.mk.inj (Option.some.inj settling)
        exact ⟨h, choice, rfl, settles choice rfl⟩

end CellRunner.Picker
