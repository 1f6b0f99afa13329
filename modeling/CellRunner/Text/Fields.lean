import CellRunner.Text.Blank

/-!
A text is cut into fields at every character of a separator class; words are the fields that
are not empty when the blanks separate. Cuts may also be limited in number.
-/

namespace CellRunner.Text

/-- Every separator ends a field, so a text with `k` separators has `k + 1` fields. -/
def fields (separates : Char → Bool) (text : List Char) : List (List Char) :=
  text.foldr
    (fun c rest =>
      if separates c then [] :: rest
      else
        match rest with
        | [] => [[c]]
        | field :: more => (c :: field) :: more)
    [[]]

theorem fields_ne_nil (separates : Char → Bool) (text : List Char)
    : fields separates text ≠ [] := by
  cases text with
  | nil => simp [fields]
  | cons c rest =>
      simp only [fields, List.foldr_cons]
      split
      · simp
      · split <;> simp

/-- The maximal runs of characters that are not blank. -/
def words (s : String) : List String :=
  ((fields isBlank s.toList).filter (fun word => !word.isEmpty)).map String.ofList

/-- The text before the first `c`, and the text after it. -/
def cutAt (c : Char) (text : List Char) : Option (List Char × List Char) :=
  match text.dropWhile (· != c) with
  | [] => none
  | _ :: after => some (text.takeWhile (· != c), after)

theorem cutAt_cons (c d : Char) (rest : List Char)
    : cutAt c (d :: rest)
      = if d = c then some ([], rest)
        else (cutAt c rest).map (fun cut => (d :: cut.1, cut.2)) := by
  by_cases found : d = c
  · simp [cutAt, found]
  · have kept : (d != c) = true := by simpa using found
    simp only [cutAt, List.dropWhile_cons, List.takeWhile_cons, kept, if_true, if_neg found]
    split <;> rfl

/-- The first occurrence is the one with none in front of it. -/
theorem cutAt_eq_some_iff {c : Char} {text before after : List Char}
    : cutAt c text = some (before, after) ↔ text = before ++ c :: after ∧ c ∉ before := by
  induction text generalizing before with
  | nil => simp [cutAt]
  | cons d rest ih =>
      rw [cutAt_cons]
      by_cases found : d = c
      · subst found
        rw [if_pos rfl]
        cases before with
        | nil => simp
        | cons e before =>
            simp only [Option.some.injEq, Prod.mk.injEq, List.cons_append, List.cons.injEq]
            constructor
            · rintro ⟨⟨⟩, _⟩
            · rintro ⟨⟨rfl, _⟩, absent⟩
              exact absurd List.mem_cons_self absent
      · rw [if_neg found, Option.map_eq_some_iff]
        cases before with
        | nil => simp [found]
        | cons e before =>
            constructor
            · rintro ⟨⟨front, back⟩, cut, same⟩
              obtain ⟨⟨rfl, rfl⟩, rfl⟩ : (d = e ∧ front = before) ∧ back = after := by
                simpa using same
              obtain ⟨rfl, absent⟩ := ih.mp cut
              exact ⟨rfl, by simp [absent, Ne.symm found]⟩
            · rintro ⟨whole, absent⟩
              obtain ⟨rfl, rfl⟩ : d = e ∧ rest = before ++ c :: after := by simpa using whole
              refine ⟨(before, after), ih.mpr ⟨rfl, ?_⟩, rfl⟩
              exact fun inside => absent (List.mem_cons_of_mem _ inside)

theorem cutAt_eq_none_iff {c : Char} {text : List Char}
    : cutAt c text = none ↔ c ∉ text := by
  constructor
  · intro uncut inside
    obtain ⟨before, after, rfl, absent⟩ := List.eq_append_cons_of_mem inside
    rw [cutAt_eq_some_iff.mpr ⟨rfl, absent⟩] at uncut
    contradiction
  · intro absent
    cases cut : cutAt c text with
    | none => rfl
    | some parts =>
        obtain ⟨rfl, _⟩ := cutAt_eq_some_iff.mp cut
        simp at absent

/-- Cuts at the first `cuts` occurrences of `c` only; the last field keeps the others. -/
def fieldsUpTo (c : Char) : Nat → List Char → List (List Char)
  | 0, text => [text]
  | cuts + 1, text =>
      match cutAt c text with
      | none => [text]
      | some (field, rest) => field :: fieldsUpTo c cuts rest

theorem fieldsUpTo_of_notMem {c : Char} {text : List Char} (cuts : Nat) (h : c ∉ text)
    : fieldsUpTo c cuts text = [text] := by
  cases cuts with
  | zero => rfl
  | succ cuts => rw [fieldsUpTo, cutAt_eq_none_iff.mpr h]

theorem fieldsUpTo_succ_append {c : Char} {field : List Char} (cuts : Nat) (h : c ∉ field)
    (rest : List Char)
    : fieldsUpTo c (cuts + 1) (field ++ c :: rest) = field :: fieldsUpTo c cuts rest := by
  rw [fieldsUpTo, cutAt_eq_some_iff.mpr ⟨rfl, h⟩]

/-- There is a cut for each occurrence, as long as the number lasts. -/
theorem length_fieldsUpTo (c : Char) (cuts : Nat) (text : List Char)
    : (fieldsUpTo c cuts text).length = min cuts (text.count c) + 1 := by
  induction cuts generalizing text with
  | zero => simp [fieldsUpTo]
  | succ cuts ih =>
      by_cases inside : c ∈ text
      · obtain ⟨field, rest, rfl, absent⟩ := List.eq_append_cons_of_mem inside
        rw [fieldsUpTo_succ_append cuts absent, List.length_cons, ih, List.count_append,
          List.count_cons_self, List.count_eq_zero.mpr absent]
        omega
      · rw [fieldsUpTo_of_notMem _ inside, List.count_eq_zero.mpr inside]
        rfl

/-- Where every cut is made, the fields but the last one are those in front of the first
occurrences. -/
theorem fieldsUpTo_eq_append_iff {c : Char} {text last : List Char} {fronts : List (List Char)}
    : fieldsUpTo c fronts.length text = fronts ++ [last]
      ↔ text = fronts.flatMap (· ++ [c]) ++ last ∧ ∀ front ∈ fronts, c ∉ front := by
  induction fronts generalizing text with
  | nil => simp [fieldsUpTo]
  | cons front fronts ih =>
      constructor
      · intro cut
        by_cases inside : c ∈ text
        · obtain ⟨field, rest, rfl, absent⟩ := List.eq_append_cons_of_mem inside
          rw [List.length_cons, fieldsUpTo_succ_append _ absent, List.cons_append,
            List.cons.injEq] at cut
          obtain ⟨rfl, later⟩ := cut
          obtain ⟨rfl, uncut⟩ := ih.mp later
          exact ⟨by simp, List.forall_mem_cons.mpr ⟨absent, uncut⟩⟩
        · rw [fieldsUpTo_of_notMem _ inside] at cut
          simp at cut
      · rintro ⟨rfl, uncut⟩
        obtain ⟨absent, uncut⟩ := List.forall_mem_cons.mp uncut
        have opened : (front :: fronts).flatMap (· ++ [c]) ++ last
            = front ++ c :: (fronts.flatMap (· ++ [c]) ++ last) := by
          simp
        rw [opened, List.length_cons, fieldsUpTo_succ_append _ absent, ih.mpr ⟨rfl, uncut⟩,
          List.cons_append]

/-- Whether `part` occurs in `text`, at any position. -/
def contains (part : List Char) : List Char → Bool
  | [] => part.isEmpty
  | c :: rest => part.isPrefixOf (c :: rest) || contains part rest

theorem contains_iff {part text : List Char}
    : contains part text = true ↔ part <:+: text := by
  induction text with
  | nil => simp [contains]
  | cons c rest ih => simp [contains, ih, List.infix_cons_iff]

end CellRunner.Text
