import CellRunner.Proofs.Cell.OfferList
import CellRunner.Proofs.Document.RangeFrame

/-!
The number of lines that a frame announces, against the number of lines of its text. A document
that does not end in a line feed ends in a line which the frames of ranges that reach its end do
not count; all other frames of offered ranges count every line.
-/

namespace CellRunner

/-- The excerpts that a document offers: the whole of it, and the range of every offer. -/
inductive Document.Offered (doc : Document) : Excerpt → Prop
  | whole : doc.Offered (doc.excerpt none none)
  | range {offer : Offer} (offered : offer ∈ Offer.ofLines doc.lines)
    (selection : Option Selection)
    : doc.Offered (doc.excerpt (some offer.range) selection)

/-- The number of lines that a plan announces for a text: nothing is to be sent of a text without
lines, and otherwise every line is to be counted. -/
def Frame.dueCount (text : String) : Option Nat :=
  let total := (Text.outputLines text.toList).length
  if total = 0 then none else some total

namespace Document

theorem length_lines (doc : Document)
    : doc.lines.length = doc.lineCount := by
  simp [lines, lineCount]

theorem textBetween_whole (doc : Document)
    : doc.textBetween 0 doc.lineCount = doc.text := by
  apply String.toList_inj.mp
  rw [toList_textBetween, Text.run, List.drop_zero, lineCount, pieces, List.take_length,
    Text.flatten_pieces]
  rfl

/-- An offered excerpt holds the text between its bounds, which lie in the document. -/
theorem Offered.bounds {doc : Document} {excerpt : Excerpt} (h : doc.Offered excerpt)
    : ∃ since before,
        since ≤ before
        ∧ before ≤ doc.lineCount
        ∧ excerpt = ⟨since, before, doc.textBetween since before⟩ := by
  cases h with
  | whole =>
      refine ⟨0, doc.lineCount, Nat.zero_le _, Nat.le_refl _, ?_⟩
      rw [textBetween_whole]
      rfl
  | range offered selection =>
      have within := OfferList.ofLines_within doc.lines _ offered
      rw [← doc.length_lines]
      exact ⟨_, _, within.ordered, within.inside, by rw [length_lines]; rfl⟩

/-- The frame of an offered excerpt announces the line feeds of its text. -/
theorem Offered.announced {doc : Document} {excerpt : Excerpt} (h : doc.Offered excerpt)
    (few : doc.lineCount < 2 ^ 63) (name : String)
    : (Frame.ofExcerpt? excerpt doc.lineCount name).map (·.lineCount)
      = if excerpt.text.toList.count '\n' = 0 then none
        else some (excerpt.text.toList.count '\n') := by
  obtain ⟨since, before, ordered, inside, rfl⟩ := h.bounds
  have positive := doc.lineCount_pos
  rw [Frame.ofExcerpt?_eq _ _ _ (by omega) (by omega), count_textBetween]
  split <;> split <;> split <;> simp <;> omega

/-- An offered excerpt is announced with all of its lines exactly if its text is empty or ends in
a line feed. Otherwise the last line is not counted, and it is not sent if it is the only one. -/
theorem announces_all_lines_iff (doc : Document) (few : doc.lineCount < 2 ^ 63)
    (excerpt : Excerpt) (offered : doc.Offered excerpt) (name : String)
    : ((Frame.ofExcerpt? excerpt doc.lineCount name).map (·.lineCount)
          = Frame.dueCount excerpt.text
        ↔ Text.Closed excerpt.text.toList)
      ∧ (¬ Text.Closed excerpt.text.toList
          → (Frame.ofExcerpt? excerpt doc.lineCount name).map (·.lineCount)
            = if (Text.outputLines excerpt.text.toList).length = 1 then none
              else some ((Text.outputLines excerpt.text.toList).length - 1)) := by
  rw [offered.announced few, Frame.dueCount, Text.length_outputLines]
  by_cases closed : Text.Closed excerpt.text.toList
  · simp [closed]
  · simp only [closed, if_false, iff_false, not_false_eq_true, true_implies]
    refine ⟨?_, ?_⟩
    · split <;> simp
    · split <;> simp <;> omega

/-- A cell at the end of a document that ends in a line feed is announced with its two lines. -/
theorem announces_all_lines_last_cell
    : ∃ doc : Document, ∃ excerpt,
        doc.text = "a\n# %%\nb\n"
        ∧ doc.lineCount < 2 ^ 63
        ∧ doc.Offered excerpt
        ∧ excerpt = ⟨1, 4, "# %%\nb\n"⟩
        ∧ (Frame.ofExcerpt? excerpt doc.lineCount doc.name).map (·.lineCount) = some 2 := by
  have few : (⟨"demo", "a\n# %%\nb\n"⟩ : Document).lineCount < 2 ^ 63 := by
    have lines : (⟨"demo", "a\n# %%\nb\n"⟩ : Document).lineCount = 4 := by decide
    simp [lines]
  have member : (⟨.cell, .lines 1 4, 1⟩ : Offer)
      ∈ Offer.ofLines (⟨"demo", "a\n# %%\nb\n"⟩ : Document).lines := by decide
  have closed : Text.Closed "# %%\nb\n".toList := by decide
  have counted := (announces_all_lines_iff _ few _ (.range member none) "demo").1.mpr closed
  exact ⟨_, _, rfl, few, .range member none, rfl, counted⟩

/-- The only line of a document without a line feed is one line to send, but nothing is planned
for it. -/
theorem unterminated_line_not_announced
    : ¬ ∀ doc : Document, ∀ excerpt,
          doc.text ≠ ""
          → doc.lineCount < 2 ^ 63
          → doc.Offered excerpt
          → (Frame.ofExcerpt? excerpt doc.lineCount doc.name).map (·.lineCount)
            = Frame.dueCount excerpt.text := by
  intro all
  have lines : (⟨"a.edh", "x = 1"⟩ : Document).lineCount = 1 := by decide
  have counted := all ⟨"a.edh", "x = 1"⟩ _ (by decide) (by simp [lines]) .whole
  exact absurd counted (by decide)

end Document

end CellRunner
