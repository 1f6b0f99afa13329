import CellRunner.Frame
import CellRunner.Proofs.Text.Pieces
import Mathlib.Algebra.Group.Nat.Defs

/-!
The frame of a line range. Its count is found from line numbers and its text from the pieces of
the document, and both agree: the count is the number of line feeds in the text, and the counted
lines are the document's lines from the first one of the range on.
-/

namespace CellRunner

-----------------------------------------------------------------------------------------
-- Counts of lines
-----------------------------------------------------------------------------------------

theorem Text.Decimal.lt_wordLimit {n : Nat} (small : n ≤ 2 ^ 63)
    : n < Text.Decimal.wordLimit :=
  Nat.lt_of_le_of_lt small (by decide)

/-- A signed word holds the numbers from -2^63 up to 2^63. -/
theorem Frame.signedWord_eq {n : Int} (low : -0x8000000000000000 ≤ n)
    (high : n < 0x8000000000000000)
    : Frame.signedWord n = n := by
  apply Int.bmod_eq_of_le
  all_goals
    unfold Text.Decimal.wordLimit
    omega

/-- Line numbers below 2^63 are read as they are, so their difference is the exact one. -/
theorem Frame.countLines_eq {since before totalLines : Nat} (hs : since < 2 ^ 63)
    (hb : before < 2 ^ 63)
    : Frame.countLines since before totalLines
      = before - since - if totalLines ≤ before then 1 else 0 := by
  apply Frame.signedWord_eq
  all_goals split <;> omega

/-- A range that stays in the document counts its lines up to the last one. -/
theorem Frame.toNat_countLines {since before totalLines : Nat} (hs : since < 2 ^ 63)
    (few : totalLines < 2 ^ 63) (inside : before ≤ totalLines) (positive : 0 < totalLines)
    : (Frame.countLines since before totalLines).toNat
      = min before (totalLines - 1) - since := by
  rw [Frame.countLines_eq hs (Nat.lt_of_le_of_lt inside few)]
  split <;> omega

/-- The frame of an excerpt whose bounds are below 2^63. -/
theorem Frame.ofExcerpt?_eq {since before : Nat} (text : String) (totalLines : Nat)
    (sourceName : String) (hs : since < 2 ^ 63) (hb : before < 2 ^ 63)
    : Frame.ofExcerpt? ⟨since, before, text⟩ totalLines sourceName
      = if before ≤ since + (if totalLines ≤ before then 1 else 0) then none
        else
          some
            ⟨before - since - (if totalLines ≤ before then 1 else 0), since + 1, sourceName,
              text⟩ := by
  have wordSize : (since + 1) % Text.Decimal.wordLimit = since + 1 :=
    Nat.mod_eq_of_lt (Text.Decimal.lt_wordLimit hs)
  simp only [Frame.ofExcerpt?, Frame.countLines_eq hs hb, wordSize]
  split <;> split <;> split <;> simp <;> omega

/-- A frame announces a line. -/
theorem Frame.lineCount_pos {excerpt : Excerpt} {totalLines : Nat} {sourceName : String}
    {frame : Frame} (planned : Frame.ofExcerpt? excerpt totalLines sourceName = some frame)
    : 0 < frame.lineCount := by
  simp only [Frame.ofExcerpt?] at planned
  split at planned
  · contradiction
  · obtain rfl := Option.some.inj planned
    simp only
    omega

namespace Document

theorem lineCount_pos (doc : Document)
    : 0 < doc.lineCount :=
  List.length_pos_iff.mpr (Text.pieces_ne_nil doc.chars)

theorem line?_eq (doc : Document) (n : Nat)
    : doc.line? n = doc.pieces[n]?.map (fun piece => String.ofList (Text.unterminated piece)) := by
  simp [line?, lines]

theorem toList_textBetween (doc : Document) (since before : Nat)
    : (doc.textBetween since before).toList = (Text.run doc.chars since before).flatten := by
  rw [textBetween, String.toList_ofList]
  rfl

/-- The text between two lines has a line feed for each of the lines but the last one. -/
theorem count_textBetween (doc : Document) (since before : Nat)
    : (doc.textBetween since before).toList.count '\n'
      = min before (doc.lineCount - 1) - since := by
  rw [toList_textBetween, Text.count_flatten_run]
  rfl

/-- Texts that meet at a line make one text. -/
theorem textBetween_append (doc : Document) {since middle before : Nat}
    (first : since ≤ middle) (second : middle ≤ before)
    : doc.textBetween since middle ++ doc.textBetween middle before
      = doc.textBetween since before := by
  apply String.toList_inj.mp
  rw [String.toList_append, toList_textBetween, toList_textBetween, toList_textBetween,
    ← List.flatten_append, Text.run_append _ first second]

/-- The text consists of the lines above a line and of those from it on. -/
theorem chars_eq_append (doc : Document) (n : Nat)
    : doc.chars = (doc.pieces.take n).flatten ++ (doc.pieces.drop n).flatten := by
  rw [← List.flatten_append, List.take_append_drop]
  exact (Text.flatten_pieces doc.chars).symm

/-- The lines above the second of two lines are those above the first one and those between. -/
theorem flatten_take_before (doc : Document) {since before : Nat} (ordered : since ≤ before)
    : (doc.pieces.take before).flatten
      = (doc.pieces.take since).flatten ++ (doc.textBetween since before).toList := by
  rw [toList_textBetween, ← List.flatten_append]
  exact congrArg List.flatten (Text.run_append doc.chars (Nat.zero_le since) ordered).symm

/-- The text between two lines is a part of the document's text that starts where the first of
them starts. -/
theorem text_eq_around (doc : Document) {since before : Nat} (ordered : since ≤ before)
    : ∃ above below,
        doc.chars = above ++ (doc.textBetween since before).toList ++ below
        ∧ above = (doc.pieces.take since).flatten := by
  refine ⟨_, (doc.pieces.drop before).flatten, ?_, rfl⟩
  rw [← flatten_take_before doc ordered]
  exact doc.chars_eq_append before

/-- In front of the text between two lines stand as many line feeds as the number of the first
one says, and nothing stands between the last of them and the text. -/
theorem place_textBetween (doc : Document) {since before : Nat} (ordered : since ≤ before)
    (inside : since < doc.lineCount)
    : ∃ above below,
        doc.text = above ++ doc.textBetween since before ++ below
        ∧ above.toList.length = doc.lineStart since
        ∧ above.toList.count '\n' = since
        ∧ ∀ c, above.toList.getLast? = some c → c = '\n' := by
  obtain ⟨above, below, split, start⟩ := text_eq_around doc ordered
  have front := Text.take_pieces_of_lt doc.chars inside
  refine ⟨String.ofList above, String.ofList below, ?_, ?_, ?_⟩
  · apply String.toList_inj.mp
    simpa [chars] using split
  · simp [start, lineStart]
  · simpa [start, pieces] using front

theorem exists_line? (doc : Document) {n : Nat} (h : n < doc.lineCount)
    : ∃ line, doc.line? n = some line := by
  have there : n < doc.pieces.length := h
  exact ⟨_, by rw [line?_eq, List.getElem?_eq_getElem there, Option.map_some]⟩

/-- The pieces of a range's own text. An empty last one follows, unless the range reaches the
end. -/
theorem pieces_textBetween (doc : Document) {since before : Nat} (name : String)
    (nonempty : since < before) (inside : before ≤ doc.lineCount)
    : (⟨name, doc.textBetween since before⟩ : Document).pieces
      = Text.run doc.chars since before ++ if before < doc.lineCount then [[]] else [] := by
  rw [pieces, chars, toList_textBetween]
  exact Text.pieces_flatten_run doc.chars nonempty inside

/-- Each of the lines that a range counts is the same line in the range's own text. -/
theorem line?_textBetween {doc : Document} {since before n : Nat} (name : String)
    (inside : before ≤ doc.lineCount) (h : since + n < before)
    : (⟨name, doc.textBetween since before⟩ : Document).line? n = doc.line? (since + n) := by
  have own := doc.pieces_textBetween name
    (Nat.lt_of_le_of_lt (Nat.le_add_right since n) h) inside
  have short : n < (Text.run doc.chars since before).length := by
    rw [Text.length_run since inside]
    omega
  have same : (Text.run doc.chars since before)[n]? = doc.pieces[since + n]? := by
    rw [Text.run, List.getElem?_drop, List.getElem?_take_of_lt h]
    rfl
  rw [line?_eq, line?_eq, own, List.getElem?_append_left short, same]

end Document

-----------------------------------------------------------------------------------------
-- Frames of ranges
-----------------------------------------------------------------------------------------

/-- A frame that carries a text out of a document: the text stands at the start of the line
`since`, and the frame announces and holds the lines of the document from there on. -/
structure Frame.Carries (doc : Document) (since : Nat) (content : String) (frame : Frame)
    : Prop where
  lineCount : frame.lineCount = content.toList.count '\n'
  firstLine : frame.firstLine = since + 1
  text : frame.text = content
  /-- In front of the text stand as many line feeds as lines, the last one right in front. -/
  place
    : ∃ above below,
        doc.text = above ++ content ++ below
        ∧ above.toList.length = doc.lineStart since
        ∧ above.toList.count '\n' = since
        ∧ ∀ c, above.toList.getLast? = some c → c = '\n'
  lines
    : ∀ n < frame.lineCount,
        ∃ line,
          doc.line? (since + n) = some line
          ∧ (⟨frame.sourceName, frame.text⟩ : Document).line? n = some line

namespace Document

/-- The bounds of an excerpt of a range, when the range stops at a line of the document. -/
theorem excerpt_range (doc : Document) (since : Nat) (stop : RangeEnd)
    (selection : Option Selection) (stops : ∀ n, stop = .line n → n ≤ doc.lineCount)
    : ∃ before ≤ doc.lineCount,
        doc.excerpt (some ⟨since, stop⟩) selection
          = ⟨since, before, doc.textBetween since before⟩ := by
  cases stop with
  | line n => exact ⟨n, stops n rfl, rfl⟩
  | endOfDocument => exact ⟨doc.lineCount, Nat.le_refl _, rfl⟩

/-- A frame planned for lines of a document carries their text. -/
theorem carries_of_ofExcerpt? {doc : Document} {since before : Nat} {name : String}
    {frame : Frame} (few : doc.lineCount < 2 ^ 63) (hs : since < 2 ^ 63)
    (inside : before ≤ doc.lineCount)
    (planned
      : Frame.ofExcerpt? ⟨since, before, doc.textBetween since before⟩ doc.lineCount name
        = some frame)
    : frame.Carries doc since (doc.textBetween since before) := by
  have counted := Frame.toNat_countLines hs few inside doc.lineCount_pos
  simp only [Frame.ofExcerpt?] at planned
  split at planned
  · contradiction
  · next enough =>
      -- A counted line puts `since` in front of the last line, so below the word limit as well.
      have positive : 0 < min before (doc.lineCount - 1) - since := by omega
      have wordSize : since + 1 < Text.Decimal.wordLimit :=
        Text.Decimal.lt_wordLimit (by omega)
      obtain rfl := Option.some.inj planned
      exact {
        lineCount := by rw [counted, count_textBetween]
        firstLine := Nat.mod_eq_of_lt wordSize
        text := rfl
        place := place_textBetween doc (by omega) (by omega)
        lines := by
          intro n short
          simp only [counted] at short
          obtain ⟨line, there⟩ := exists_line? doc (show since + n < doc.lineCount by omega)
          exact ⟨line, there, (line?_textBetween name inside (by omega)).trans there⟩
      }

/-- A line range of a document is framed exactly if its text holds a line feed, and the frame
announces exactly the lines that its text holds. -/
theorem frame_of_range (doc : Document) (since : Nat) (stop : RangeEnd)
    (selection : Option Selection) (name : String) (few : doc.lineCount < 2 ^ 63)
    (hs : since < 2 ^ 63) (stops : ∀ n, stop = .line n → n ≤ doc.lineCount)
    : (Frame.ofExcerpt? (doc.excerpt (some ⟨since, stop⟩) selection) doc.lineCount name = none
        ↔ '\n' ∉ (doc.excerpt (some ⟨since, stop⟩) selection).text.toList)
      ∧ ∀ frame,
          Frame.ofExcerpt? (doc.excerpt (some ⟨since, stop⟩) selection) doc.lineCount name
            = some frame
          → frame.Carries doc since
              (doc.excerpt (some ⟨since, stop⟩) selection).text := by
  obtain ⟨before, inside, excerpted⟩ := excerpt_range doc since stop selection stops
  rw [excerpted]
  refine ⟨?_, fun frame planned => carries_of_ofExcerpt? few hs inside planned⟩
  have counted := Frame.toNat_countLines hs few inside doc.lineCount_pos
  rw [← List.count_eq_zero, count_textBetween, ← counted]
  simp only [Frame.ofExcerpt?]
  split <;> simp <;> omega

/-- The two lines behind a carriage return and a line feed, in front of an unterminated one. -/
theorem frame_of_range_middle
    : ∃ doc : Document, ∃ frame : Frame,
        doc.text = "a\r\nb\n\nc"
        ∧ doc.lineCount < 2 ^ 63
        ∧ 1 < 2 ^ 63
        ∧ (∀ n, RangeEnd.line 3 = .line n → n ≤ doc.lineCount)
        ∧ Frame.ofExcerpt? (doc.excerpt (some ⟨1, .line 3⟩) none) doc.lineCount "demo" = some frame
        ∧ frame.lineCount = 2
        ∧ frame.Carries doc 1 (doc.excerpt (some ⟨1, .line 3⟩) none).text := by
  have lines : (⟨"demo", "a\r\nb\n\nc"⟩ : Document).lineCount = 4 := by decide
  have few : (⟨"demo", "a\r\nb\n\nc"⟩ : Document).lineCount < 2 ^ 63 := by simp [lines]
  have stops : ∀ n, RangeEnd.line 3 = .line n
      → n ≤ (⟨"demo", "a\r\nb\n\nc"⟩ : Document).lineCount := by
    rintro n ⟨⟩
    simp [lines]
  have planned : Frame.ofExcerpt?
      ((⟨"demo", "a\r\nb\n\nc"⟩ : Document).excerpt (some ⟨1, .line 3⟩) none)
      (⟨"demo", "a\r\nb\n\nc"⟩ : Document).lineCount "demo"
      = some ⟨2, 2, "demo", "b\n\n"⟩ := by decide
  exact ⟨_, _, rfl, few, by decide, stops, planned, rfl,
    (frame_of_range _ 1 (.line 3) none "demo" few (by decide) stops).2 _ planned⟩

end Document

end CellRunner
