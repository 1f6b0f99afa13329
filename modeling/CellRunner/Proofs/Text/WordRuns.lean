import CellRunner.Proofs.Text.Words

/-!
The words of a text are its maximal runs of characters that are not blank. So words that are joined
with blanks are split apart again, whatever blanks there are around them.
-/

namespace CellRunner.Text

/-- The words are the maximal runs of unblank characters of a text, in their order: there is nothing
but blanks in front of a run, and a blank or nothing behind it. -/
inductive Runs : List Char → List String → Prop
  | blank {gap} (blank : ∀ c ∈ gap, isBlank c) : Runs gap []
  | word {gap word rest words} (blank : ∀ c ∈ gap, isBlank c) (nonempty : word ≠ [])
    (unblank : ∀ c ∈ word, isBlank c = false) (ends : ∀ c, rest.head? = some c → isBlank c)
    (later : Runs rest words)
    : Runs (gap ++ word ++ rest) (String.ofList word :: words)

/-- A word by itself: it has characters, and none of them is blank. -/
def IsWord (token : String) : Prop :=
  token ≠ "" ∧ ∀ c ∈ token.toList, isBlank c = false

instance (token : String) : Decidable (IsWord token) :=
  decidable_of_iff (token ≠ "" ∧ token.toList.all (fun c => !isBlank c)) (by simp [IsWord])

theorem IsWord.words_eq {token : String} (h : IsWord token)
    : words token = [token] := by
  have nonempty : token.toList ≠ [] := by
    simpa using h.1
  simpa using words_of_unblank nonempty h.2

namespace Runs

variable {text : List Char} {tokens : List String}

theorem words_eq (h : Runs text tokens)
    : words (String.ofList text) = tokens := by
  induction h with
  | blank blank =>
      rw [words_eq_nil_iff, allBlank, String.toList_ofList, List.all_eq_true]
      exact blank
  | @word gap word rest tokens blank nonempty unblank ends _ ih =>
      rw [List.append_assoc, words_blank_append blank]
      cases rest with
      | nil =>
          rw [words_nil] at ih
          rw [List.append_nil, words_of_unblank nonempty unblank, ← ih]
      | cons c rest =>
          have apart : isBlank c := ends c rfl
          rw [words_blank word rest apart, words_of_unblank nonempty unblank, ← ih,
            words_blank_cons apart, List.singleton_append]

theorem isWord (h : Runs text tokens)
    : ∀ token ∈ tokens, IsWord token := by
  induction h with
  | blank => simp
  | word blank nonempty unblank _ _ ih =>
      intro token member
      rcases List.mem_cons.mp member with rfl | later
      · exact ⟨by simpa using nonempty, by simpa using unblank⟩
      · exact ih token later

theorem cons_blank {c : Char} (apart : isBlank c) (h : Runs text tokens)
    : Runs (c :: text) tokens := by
  cases h with
  | blank blank => exact .blank (by simpa [apart] using blank)
  | word blank nonempty unblank ends later =>
      rw [← List.cons_append, ← List.cons_append]
      exact .word (by simpa [apart] using blank) nonempty unblank ends later

/-- A run at the start of a text. -/
theorem first {run rest : List Char} (nonempty : run ≠ [])
    (unblank : ∀ c ∈ run, isBlank c = false) (ends : ∀ c, rest.head? = some c → isBlank c)
    (later : Runs rest tokens)
    : Runs (run ++ rest) (String.ofList run :: tokens) := by
  have gap : ∀ c ∈ ([] : List Char), isBlank c := by simp
  exact .word gap nonempty unblank ends later

/-- A character in front of a text joins the run there or is one of its own. -/
theorem exists_cons {c : Char} (apart : isBlank c = false) (h : Runs text tokens)
    : ∃ more, Runs (c :: text) more := by
  have alone (ends : ∀ d, text.head? = some d → isBlank d) : ∃ more, Runs (c :: text) more :=
    ⟨_, first (List.cons_ne_nil c []) (by simpa using apart) ends h⟩
  cases h with
  | blank blank => exact alone fun d opens => blank d (List.mem_of_mem_head? opens)
  | @word gap run rest tokens blank nonempty unblank ends later =>
      cases gap with
      | nil => exact ⟨_, first (List.cons_ne_nil c run) (by simpa [apart] using unblank) ends later⟩
      | cons d gap =>
          refine alone ?_
          rintro _ ⟨⟩
          exact blank d List.mem_cons_self

theorem exists_runs (text : List Char)
    : ∃ tokens, Runs text tokens := by
  induction text with
  | nil => exact ⟨[], .blank (by simp)⟩
  | cons c rest ih =>
      obtain ⟨tokens, runs⟩ := ih
      cases apart : isBlank c with
      | true => exact ⟨tokens, runs.cons_blank apart⟩
      | false => exact runs.exists_cons apart

end Runs

/-- The words of a text are exactly its runs. -/
theorem words_eq_iff {text : String} {tokens : List String}
    : words text = tokens ↔ Runs text.toList tokens := by
  constructor
  · rintro rfl
    obtain ⟨tokens, runs⟩ := Runs.exists_runs text.toList
    have same := runs.words_eq
    rw [String.ofList_toList] at same
    rwa [same]
  · intro runs
    simpa using runs.words_eq

-----------------------------------------------------------------------------------------
-- Joined texts
-----------------------------------------------------------------------------------------

/-- Texts that are joined with blanks keep their words. -/
theorem words_intercalate (texts : List String)
    : words (" ".intercalate texts) = texts.flatMap words := by
  induction texts with
  | nil => rfl
  | cons first rest ih =>
      cases rest with
      | nil => simp
      | cons second more =>
          have space : isBlank ' ' := by decide
          have split
              : " ".intercalate (first :: second :: more)
                = String.ofList
                    (first.toList ++ ' ' :: (" ".intercalate (second :: more)).toList) := by
            apply String.toList_inj.mp
            simp [String.toList_intercalate]
          rw [split, words_blank _ _ space, String.ofList_toList, String.ofList_toList, ih]
          rfl

theorem flatMap_words {tokens : List String} (each : ∀ token ∈ tokens, IsWord token)
    : tokens.flatMap words = tokens := by
  induction tokens with
  | nil => rfl
  | cons first rest ih =>
      rw [List.flatMap_cons, (each first List.mem_cons_self).words_eq,
        ih (fun token member => each token (List.mem_cons_of_mem _ member)), List.singleton_append]

/-- Joined words are split apart again. -/
theorem words_intercalate_words {tokens : List String} (each : ∀ token ∈ tokens, IsWord token)
    : words (" ".intercalate tokens) = tokens := by
  rw [words_intercalate, flatMap_words each]

end CellRunner.Text
