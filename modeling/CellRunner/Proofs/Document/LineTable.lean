import CellRunner.Proofs.Document.AnnouncedLines
import CellRunner.Proofs.Document.SelectionLines

/-!
The table of the places at which the lines start, in bytes. Its places ascend, so a line never
ends in front of its start; and what is cut out of the text at these places are the lines and the
texts between them.
-/

namespace CellRunner

namespace Text

open String (utf8Len)

/-- Induction on the text; a place is never in front of the one at which the rest begins. -/
theorem lt_of_mem_placesAfterFeeds {text : List Char} {place later : Nat}
    (member : later ∈ placesAfterFeeds place text)
    : place < later := by
  induction text generalizing place with
  | nil => cases member
  | cons c rest ih =>
      have size := c.utf8Size_pos
      simp only [placesAfterFeeds] at member
      split at member
      · rcases List.mem_cons.mp member with rfl | behind
        · omega
        · have further := ih behind
          omega
      · have further := ih member
        omega

/-- The places behind line feeds ascend, by induction on the text. -/
theorem placesAfterFeeds_ascending (text : List Char) (place : Nat)
    : (place :: placesAfterFeeds place text).Pairwise (· < ·) := by
  induction text generalizing place with
  | nil => exact List.pairwise_singleton _ _
  | cons c rest ih =>
      refine .cons (fun _ => lt_of_mem_placesAfterFeeds) ?_
      simp only [placesAfterFeeds]
      split
      · exact ih (place + c.utf8Size)
      · exact (ih (place + c.utf8Size)).tail

/-- There is a place for each line feed, by induction on the text. -/
theorem length_placesAfterFeeds (text : List Char) (place : Nat)
    : (placesAfterFeeds place text).length = text.count '\n' := by
  induction text generalizing place with
  | nil => rfl
  | cons c rest ih =>
      simp only [placesAfterFeeds]
      split
      · next feed => rw [List.length_cons, ih, feed, List.count_cons_self]
      · next other => rw [ih, List.count_cons_of_ne other]

/-- Right in front of each of the places stands a line feed. -/
theorem exists_feed_of_mem {text : List Char} {place later : Nat}
    (member : later ∈ placesAfterFeeds place text)
    : ∃ above below,
        text = above ++ '\n' :: below
        ∧ later = place + utf8Len (above ++ ['\n']) := by
  induction text generalizing place with
  | nil => cases member
  | cons c rest ih =>
      have further (behind : later ∈ placesAfterFeeds (place + c.utf8Size) rest)
          : ∃ above below,
              c :: rest = above ++ '\n' :: below
              ∧ later = place + utf8Len (above ++ ['\n']) := by
        obtain ⟨above, below, rfl, rfl⟩ := ih behind
        refine ⟨c :: above, below, rfl, ?_⟩
        rw [List.cons_append, String.utf8Len_cons]
        omega
      simp only [placesAfterFeeds] at member
      split at member
      · next feed =>
          subst feed
          rcases List.mem_cons.mp member with rfl | behind
          · exact ⟨[], rest, rfl, by simp⟩
          · exact further behind
      · exact further member

/-- The items at all places are the items, by extensionality. -/
theorem filterMap_getElem?_range {α : Type} (items : List α)
    : (List.range items.length).filterMap (items[·]?) = items := by
  induction items with
  | nil => rfl
  | cons first rest ih =>
      rw [List.length_cons, List.range_succ_eq_map, List.filterMap_cons, List.filterMap_map]
      exact congrArg (first :: ·) ih

/-- Nothing is between two places that are not in order. -/
theorem extract_crossed (text : String) {start stop : Nat} (crossed : stop ≤ start)
    : String.Pos.Raw.extract text ⟨start⟩ ⟨stop⟩ = "" := by
  rw [String.Pos.Raw.extract, if_pos crossed]

end Text

namespace Document

open String (utf8Len)
open Text (withoutLast)

/-- Where a line starts, in bytes; past the last line, the text's end. -/
def byteStart (doc : Document) (n : Nat) : Nat :=
  (doc.byteStarts[n]?).getD doc.text.utf8ByteSize

/-- Where a line ends in front of its line feed: one byte in front of the start of the next line,
or at the text's end. -/
def byteEnd (doc : Document) (n : Nat) : Nat :=
  ((doc.byteStarts[n + 1]?).map (· - 1)).getD doc.text.utf8ByteSize

/-- The places of the table. -/
structure LineStarts (doc : Document) : Prop where
  count : doc.lineCount = doc.text.toList.count '\n' + 1
  length : doc.byteStarts.length = doc.lineCount
  first : doc.byteStarts[0]? = some 0
  ascending : doc.byteStarts.Pairwise (· < ·)
  /-- Every place but the first one is right behind a line feed. -/
  behind
    : ∀ n start,
        doc.byteStarts[n + 1]? = some start
        → ∃ above below,
            doc.text = above ++ "\n" ++ below ∧ start = (above ++ "\n").utf8ByteSize
  inside : ∀ start ∈ doc.byteStarts, start ≤ doc.text.utf8ByteSize
  /-- In bytes and in characters, a line starts at the same place. -/
  places : ∀ n, doc.byteStart n = utf8Len (doc.text.toList.take (doc.lineStart n))

/-- What is cut out of the text at the places. -/
structure LineTexts (doc : Document) : Prop where
  isSome : ∀ n, (doc.line? n).isSome ↔ n < doc.lineCount
  listed : doc.lines = (List.range doc.lineCount).filterMap doc.line?
  length : doc.lines.length = doc.lineCount
  unfed : ∀ line ∈ doc.lines, '\n' ∉ line.toList
  /-- A line is its text without one line feed and then without one carriage return. -/
  line
    : ∀ n < doc.lineCount,
        doc.line? n
        = some (String.ofList
            (withoutLast '\r' (withoutLast '\n' (doc.textBetween n (n + 1)).toList)))
  /-- A line is cut out up to its end, which is not in front of its start. -/
  cut
    : ∀ n < doc.lineCount,
        doc.byteStart n ≤ doc.byteEnd n
        ∧ doc.byteEnd n ≤ doc.text.utf8ByteSize
        ∧ doc.line? n
          = some
              (String.ofList
                (withoutLast '\r'
                  (String.Pos.Raw.extract doc.text ⟨doc.byteStart n⟩ ⟨doc.byteEnd n⟩).toList))
  between
    : ∀ since before,
        doc.textBetween since before
        = String.Pos.Raw.extract doc.text ⟨doc.byteStart since⟩ ⟨doc.byteStart before⟩
  meet
    : ∀ since middle before,
        since ≤ middle
        → middle ≤ before
        → doc.textBetween since middle ++ doc.textBetween middle before
          = doc.textBetween since before
  whole : doc.textBetween 0 doc.lineCount = doc.text

variable (doc : Document)

-----------------------------------------------------------------------------------------
-- Places of lines
-----------------------------------------------------------------------------------------

/-- There is one line more than there are line feeds, by the number of pieces. -/
theorem lineCount_eq
    : doc.lineCount = doc.text.toList.count '\n' + 1 :=
  Text.length_pieces doc.chars

/-- The table has a start for each line, by counting line feeds. -/
theorem length_byteStarts
    : doc.byteStarts.length = doc.lineCount := by
  rw [byteStarts, List.length_cons, Text.length_placesAfterFeeds, lineCount_eq, chars]

/-- A line starts where its column zero is. -/
theorem byteStart_eq (n : Nat)
    : doc.byteStart n = doc.byteOffset ⟨n, 0⟩ := by
  simp only [byteStart, byteOffset]
  cases doc.byteStarts[n]? with
  | none => rfl
  | some start => simp

/-- A line starts at the bytes of the characters in front of it, by the table. -/
theorem byteStart_places (n : Nat)
    : doc.byteStart n = utf8Len (doc.chars.take (doc.lineStart n)) := by
  rw [byteStart_eq, byteOffset_eq, offset_column_zero]

/-- Later lines start at later bytes, as they have more characters in front of them. -/
theorem byteStart_mono {m n : Nat} (ordered : m ≤ n)
    : doc.byteStart m ≤ doc.byteStart n := by
  rw [byteStart_places, byteStart_places]
  exact String.utf8Len_le_of_prefix (List.take_prefix_take_left (doc.lineStart_mono ordered))

/-- A line ends as many characters behind its start as it has in front of a line feed. -/
theorem byteEnd_places {n : Nat} {piece : List Char} (there : doc.pieces[n]? = some piece)
    : doc.byteEnd n
      = utf8Len (doc.chars.take (doc.lineStart n + (withoutLast '\n' piece).length)) := by
  have inside : n < doc.lineCount := (List.getElem?_eq_some_iff.mp there).1
  have front := List.prefix_iff_eq_take.mp (Text.withoutLast_isPrefix '\n' piece)
  have next : (doc.pieces.take (n + 1)).flatten = (doc.pieces.take n).flatten ++ piece := by
    simp [List.take_add_one, there]
  rw [take_lineStart_add there (Text.withoutLast_isPrefix '\n' piece).length_le, ← front, byteEnd,
    getElem?_byteStarts]
  rcases Nat.lt_or_ge (n + 1) doc.lineCount with more | last
  · -- A line in front of another one ends in a line feed, which has one byte.
    have single : piece ∈ Text.run doc.chars n (n + 1) := by
      rw [Text.run_single]
      exact Option.mem_toList.mpr there
    obtain ⟨line, absent, rfl⟩ := Text.run_of_lt n more piece single
    rw [if_pos more, next, Text.withoutLast_concat, ← List.append_assoc]
    simp [Char.utf8Size]
  · have final : n + 1 = doc.lineCount := Nat.le_antisymm inside last
    have whole : (doc.pieces.take n).flatten ++ piece = doc.chars := by
      rw [← next, final, lineCount, List.take_length]
      exact Text.flatten_pieces doc.chars
    rw [if_neg (Nat.not_lt.mpr last),
      Text.withoutLast_of_notMem (Text.notMem_of_last there last), whole]
    exact (String.utf8Len_toList doc.text).symm

/-- The table of line starts is as it is said to be, by the lemmas about it. -/
theorem lineStarts
    : LineStarts doc where
  count := doc.lineCount_eq
  length := doc.length_byteStarts
  first := rfl
  ascending := Text.placesAfterFeeds_ascending doc.chars 0
  behind n start found := by
    obtain ⟨above, below, split, place⟩ := Text.exists_feed_of_mem (List.mem_of_getElem? found)
    refine ⟨String.ofList above, String.ofList below, ?_, ?_⟩
    · apply String.toList_inj.mp
      simpa [chars] using split
    · rw [place, ← String.utf8Len_toList]
      simp
  inside start member := by
    obtain ⟨n, found⟩ := List.mem_iff_getElem?.mp member
    have place : doc.byteStart n = start := by rw [byteStart, found, Option.getD_some]
    rw [← place, byteStart_eq]
    exact doc.byteOffset_le _
  places := doc.byteStart_places

-----------------------------------------------------------------------------------------
-- Texts of lines
-----------------------------------------------------------------------------------------

/-- The text of one line is its piece, by a run of one line. -/
theorem textBetween_line {n : Nat} {piece : List Char} (there : doc.pieces[n]? = some piece)
    : (doc.textBetween n (n + 1)).toList = piece := by
  have found : (Text.pieces doc.chars)[n]? = some piece := there
  rw [toList_textBetween, Text.run_single, found, Option.toList_some, List.flatten_singleton]

/-- Up to its end, a line has its characters in front of the line feed. -/
theorem extract_line {n : Nat} {piece : List Char} (there : doc.pieces[n]? = some piece)
    : String.Pos.Raw.extract doc.text ⟨doc.byteStart n⟩ ⟨doc.byteEnd n⟩
      = String.ofList (withoutLast '\n' piece) := by
  have front := Text.withoutLast_isPrefix '\n' piece
  have start : (doc.pieces.take n).flatten.length = doc.lineStart n := rfl
  rw [byteStart_places, doc.byteEnd_places there]
  refine (Text.extract_slice doc.text (Nat.le_add_right _ _)).trans (congrArg String.ofList ?_)
  calc (doc.chars.drop (doc.lineStart n)).take
          (doc.lineStart n + (withoutLast '\n' piece).length - doc.lineStart n)
    _ = (doc.chars.take (doc.lineStart n + (withoutLast '\n' piece).length)).drop
          (doc.lineStart n) := List.drop_take.symm
    _ = piece.take (withoutLast '\n' piece).length := by
      rw [take_lineStart_add there front.length_le, ← start, List.drop_left]
    _ = withoutLast '\n' piece := (List.prefix_iff_eq_take.mp front).symm

/-- The text between two lines is cut at their starts, by slicing the characters. -/
theorem textBetween_eq_extract (since before : Nat)
    : doc.textBetween since before
      = String.Pos.Raw.extract doc.text ⟨doc.byteStart since⟩ ⟨doc.byteStart before⟩ := by
  rcases Nat.le_total since before with ordered | crossed
  · let selection : Selection := ⟨⟨since, 0⟩, ⟨before, 0⟩⟩
    have inOrder : selection.start ≤ selection.stop := by
      simp only [selection, Position.le_def]
      omega
    rw [byteStart_eq, byteStart_eq, ← selectedText_lines]
    exact (doc.extract_selectedText inOrder).symm
  · rw [Text.extract_crossed doc.text (doc.byteStart_mono crossed)]
    apply String.toList_inj.mp
    rw [toList_textBetween, Text.run_eq_nil (.inl crossed)]
    rfl

/-- The texts of lines are as they are said to be, by cutting at the starts of the table. -/
theorem lineTexts
    : LineTexts doc where
  isSome n := by
    rw [line?, Option.isSome_iff_ne_none, ne_eq, List.getElem?_eq_none_iff, length_lines,
      Nat.not_le]
  listed := by
    rw [← length_lines]
    exact (Text.filterMap_getElem?_range doc.lines).symm
  length := doc.length_lines
  unfed line member := by
    obtain ⟨n, there⟩ := List.mem_iff_getElem?.mp member
    exact line?_notMem there
  line n inside := by
    have there := List.getElem?_eq_getElem (l := doc.pieces) inside
    rw [line?_eq, there, doc.textBetween_line there]
    rfl
  cut n inside := by
    have there := List.getElem?_eq_getElem (l := doc.pieces) inside
    have short : doc.byteEnd n ≤ doc.text.utf8ByteSize := by
      rw [doc.byteEnd_places there, ← String.utf8Len_toList]
      exact String.utf8Len_le_of_prefix (List.take_prefix _ _)
    have forward : doc.byteStart n ≤ doc.byteEnd n := by
      rw [byteStart_places, doc.byteEnd_places there]
      exact String.utf8Len_le_of_prefix (List.take_prefix_take_left (Nat.le_add_right _ _))
    refine ⟨forward, short, ?_⟩
    rw [line?_eq, there, doc.extract_line there, String.toList_ofList]
    rfl
  between := doc.textBetween_eq_extract
  meet _ _ _ := doc.textBetween_append
  whole := doc.textBetween_whole

/-- The table has a place for the start of every line, in ascending order; and the lines, and the
texts from line to line, are cut out of the text at these places. -/
theorem lines_cut_by_table (doc : Document)
    : LineStarts doc ∧ LineTexts doc :=
  ⟨doc.lineStarts, doc.lineTexts⟩

/-- One carriage return belongs to a line feed behind it, and one is left out at the very end. -/
example
    : let doc : Document := ⟨"demo", "Đ\r\r\n\nb\r"⟩
      doc.byteStarts = [0, 5, 6] ∧ doc.lines = ["Đ\r", "", "b"] := by
  decide

end Document

end CellRunner
