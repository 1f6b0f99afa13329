import CellRunner.Text.Decimal
import CellRunner.Text.Fields

/-!
The words of a text that is put together from parts. A blank between two parts keeps their words
apart, a part without blanks is one word, and blanks alone have no words.
-/

namespace CellRunner.Text

theorem fields_separator {separates : Char → Bool} {c : Char} (h : separates c)
    (before after : List Char)
    : fields separates (before ++ c :: after)
      = fields separates before ++ fields separates after := by
  induction before with
  | nil => simp [fields, h]
  | cons first rest ih =>
      simp only [fields, List.cons_append, List.foldr_cons] at ih ⊢
      rw [ih]
      by_cases apart : separates first
      · simp [apart]
      · have nonempty := fields_ne_nil separates rest
        simp only [fields] at nonempty
        simp only [apart]
        cases split : rest.foldr _ [[]] with
        | nil => contradiction
        | cons field more => rfl

theorem fields_of_none {separates : Char → Bool} {text : List Char}
    (none : ∀ c ∈ text, separates c = false)
    : fields separates text = [text] := by
  induction text with
  | nil => rfl
  | cons first rest ih =>
      have later := ih (fun c member => none c (List.mem_cons_of_mem _ member))
      simp only [fields] at later
      simp [fields, later, none first List.mem_cons_self]

/-- A blank keeps words apart. -/
theorem words_blank (before after : List Char) {c : Char} (h : isBlank c)
    : words (String.ofList (before ++ c :: after))
      = words (String.ofList before) ++ words (String.ofList after) := by
  simp only [words, String.toList_ofList, fields_separator h, List.filter_append, List.map_append]

/-- A text without blanks is a word. -/
theorem words_of_unblank {word : List Char} (nonempty : word ≠ [])
    (unblank : ∀ c ∈ word, isBlank c = false)
    : words (String.ofList word) = [String.ofList word] := by
  simp [words, fields_of_none unblank, nonempty]

theorem words_nil : words (String.ofList []) = [] := by
  decide

theorem words_blank_cons {c : Char} (h : isBlank c) (rest : List Char)
    : words (String.ofList (c :: rest)) = words (String.ofList rest) := by
  have alone := words_blank [] rest h
  rwa [words_nil, List.nil_append, List.nil_append] at alone

/-- Blanks in front of a text do not belong to its words. -/
theorem words_blank_append {gap : List Char} (blank : ∀ c ∈ gap, isBlank c) (rest : List Char)
    : words (String.ofList (gap ++ rest)) = words (String.ofList rest) := by
  induction gap with
  | nil => rfl
  | cons c gap ih =>
      rw [List.cons_append, words_blank_cons (blank c List.mem_cons_self),
        ih (fun d member => blank d (List.mem_cons_of_mem _ member))]

/-- Any number of blanks keeps words apart. -/
theorem words_gap (before after : List Char) (n : Nat)
    : words (String.ofList (before ++ (List.replicate n ' ' ++ ' ' :: after)))
      = words (String.ofList before) ++ words (String.ofList after) := by
  have space : isBlank ' ' := by decide
  have gap : List.replicate n ' ' ++ ' ' :: after = ' ' :: (List.replicate n ' ' ++ after) := by
    rw [← List.cons_append, ← List.replicate_succ, List.replicate_succ', List.append_assoc,
      List.singleton_append]
  have blank : ∀ c ∈ List.replicate n ' ', isBlank c := by
    intro c member
    rw [List.eq_of_mem_replicate member]
    exact space
  rw [gap, words_blank before _ space, words_blank_append blank]

/-- Only separators separate nothing but empty fields. -/
theorem fields_all_nil_iff {separates : Char → Bool} {text : List Char}
    : (∀ field ∈ fields separates text, field = []) ↔ ∀ c ∈ text, separates c := by
  induction text with
  | nil => simp [fields]
  | cons first rest ih =>
      simp only [fields] at ih
      by_cases apart : separates first
      · simpa [fields, apart] using ih
      · have nonempty := fields_ne_nil separates rest
        simp only [fields] at nonempty
        cases split : rest.foldr _ [[]] with
        | nil => exact absurd split nonempty
        | cons field more => simp [fields, apart, split]

/-- A text has no words exactly if it is blank. -/
theorem words_eq_nil_iff (text : String)
    : words text = [] ↔ allBlank text := by
  rw [words, List.map_eq_nil_iff, List.filter_eq_nil_iff, allBlank, List.all_eq_true,
    ← fields_all_nil_iff]
  simp

theorem isBlank_of_isDigit {c : Char} (h : Decimal.isDigit c)
    : isBlank c = false := by
  simp only [Decimal.isDigit, Bool.and_eq_true, decide_eq_true_eq, Char.le_def] at h
  have low : 48 ≤ c.toNat := h.1
  have high : c.toNat ≤ 57 := h.2
  simp only [isBlank]
  simp
  omega

end CellRunner.Text
