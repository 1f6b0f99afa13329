import CellRunner.Proofs.Document.LineEndings
import Mathlib.Data.String.Basic

/-!
The text of a selection, which is cut out between the places of its two positions. Places are
ordered like the positions, so parts that meet make up a whole; and counted in bytes, every place
is the boundary of a character.
-/

namespace CellRunner

namespace Text

open String (utf8Len)

/-- The places right behind the line feeds of a text, in bytes, if its first byte is at `place`. -/
def placesAfterFeeds (place : Nat) : List Char → List Nat
  | [] => []
  | c :: rest =>
      let next := place + c.utf8Size
      if c = '\n' then next :: placesAfterFeeds next rest else placesAfterFeeds next rest

/-- A line without a line feed adds no place, by induction on the line. -/
theorem placesAfterFeeds_of_notMem {line : List Char} (absent : '\n' ∉ line) (place : Nat)
    : placesAfterFeeds place line = [] := by
  induction line generalizing place with
  | nil => rfl
  | cons c rest ih =>
      have parts : c ≠ '\n' ∧ '\n' ∉ rest := by simpa [eq_comm] using absent
      simp only [placesAfterFeeds, if_neg parts.1, ih parts.2]

/-- The next line starts behind the line feed of a terminated one. -/
theorem placesAfterFeeds_append {piece : List Char} (h : Terminated piece) (place : Nat)
    (rest : List Char)
    : placesAfterFeeds place (piece ++ rest)
      = (place + utf8Len piece) :: placesAfterFeeds (place + utf8Len piece) rest := by
  obtain ⟨line, absent, rfl⟩ := h
  induction line generalizing place with
  | nil => simp [placesAfterFeeds]
  | cons c line ih =>
      have parts : c ≠ '\n' ∧ '\n' ∉ line := by simpa [eq_comm] using absent
      have sizes : place + c.utf8Size + utf8Len (line ++ ['\n'])
          = place + utf8Len (c :: line ++ ['\n']) := by
        rw [List.cons_append, String.utf8Len_cons]
        omega
      have later := ih (place + c.utf8Size) parts.2
      rw [sizes] at later
      simp only [List.cons_append, placesAfterFeeds, if_neg parts.1] at later ⊢
      exact later

/-- Every line but the first one starts behind the bytes of the lines in front of it. Induction
on the terminated lines. -/
theorem getElem?_placesAfterFeeds {full : List (List Char)} {last : List Char}
    (terminated : ∀ piece ∈ full, Terminated piece) (absent : '\n' ∉ last) (place n : Nat)
    : (placesAfterFeeds place (full.flatten ++ last))[n]?
      = if n < full.length then some (place + utf8Len (full.take (n + 1)).flatten) else none := by
  induction full generalizing place n with
  | nil => simp [placesAfterFeeds_of_notMem absent]
  | cons first more ih =>
      have later := ih (fun piece member => terminated piece (by simp [member]))
      rw [List.flatten_cons, List.append_assoc,
        placesAfterFeeds_append (terminated first (by simp))]
      cases n with
      | zero => simp
      | succ n =>
          rw [List.getElem?_cons_succ, later]
          simp [Nat.add_assoc]

/-- Slices that meet make one slice. -/
theorem slice_append {text : List Char} {start middle stop : Nat} (first : start ≤ middle)
    (second : middle ≤ stop)
    : (text.drop start).take (middle - start) ++ (text.drop middle).take (stop - middle)
      = (text.drop start).take (stop - start) := by
  have total : stop - start = (middle - start) + (stop - middle) := by omega
  have reached : start + (middle - start) = middle := by omega
  rw [total, List.take_add, List.drop_drop, reached]

/-- A slice of a text, cut out by bytes. -/
theorem extract_slice (text : String) {start stop : Nat} (ordered : start ≤ stop)
    : String.Pos.Raw.extract text ⟨utf8Len (text.toList.take start)⟩
          ⟨utf8Len (text.toList.take stop)⟩
      = String.ofList ((text.toList.drop start).take (stop - start)) := by
  obtain ⟨before, cut⟩ : ∃ before, before = text.toList.take start := ⟨_, rfl⟩
  obtain ⟨slice, sliced⟩ : ∃ slice, slice = (text.toList.drop start).take (stop - start) := ⟨_, rfl⟩
  have front : text.toList.take stop = before ++ slice := by
    rw [cut, sliced, ← List.take_add, Nat.add_sub_cancel' ordered]
  have whole : text = String.ofList (before ++ slice ++ text.toList.drop stop) := by
    rw [← front, List.take_append_drop, String.ofList_toList]
  calc String.Pos.Raw.extract text ⟨utf8Len (text.toList.take start)⟩
          ⟨utf8Len (text.toList.take stop)⟩
    _ = String.Pos.Raw.extract (String.ofList (before ++ slice ++ text.toList.drop stop))
          ⟨utf8Len before⟩ ⟨utf8Len before + utf8Len slice⟩ := by
      rw [← whole, front, String.utf8Len_append, cut]
    _ = String.ofList slice := String.extract_of_valid _ _ _
    _ = String.ofList ((text.toList.drop start).take (stop - start)) := by rw [sliced]

end Text

-----------------------------------------------------------------------------------------
-- The order of positions
-----------------------------------------------------------------------------------------

/-- By line, and on one line by character. -/
instance : LE Position where
  le p q := p.line < q.line ∨ p.line = q.line ∧ p.character ≤ q.character

instance (p q : Position) : Decidable (p ≤ q) :=
  inferInstanceAs (Decidable (_ ∨ _))

/-- Positions are ordered by line and then by character. -/
theorem Position.le_def {p q : Position}
    : p ≤ q ↔ p.line < q.line ∨ p.line = q.line ∧ p.character ≤ q.character :=
  Iff.rfl

/-- Being before a position is not being at or behind it, by cases on the lines. -/
theorem Position.isBefore_iff {p q : Position}
    : p.isBefore q ↔ ¬ q ≤ p := by
  simp only [Position.isBefore, Position.le_def, Bool.or_eq_true, Bool.and_eq_true,
    decide_eq_true_eq, beq_iff_eq]
  omega

/-- The positions of a selection are in order, whichever way round they are given. -/
theorem Selection.between_ordered (a b : Position)
    : (Selection.between a b).start ≤ (Selection.between a b).stop := by
  rw [Selection.between]
  split
  · next crossed =>
      have unordered := Position.isBefore_iff.mp crossed
      show b ≤ a
      rw [Position.le_def] at unordered ⊢
      omega
  · next inOrder => exact not_not.mp (fun h => inOrder (Position.isBefore_iff.mpr h))

namespace Document

-----------------------------------------------------------------------------------------
-- Places are in order
-----------------------------------------------------------------------------------------

/-- Later lines start later, by the lengths of the pieces in front of them. -/
theorem lineStart_mono (doc : Document) {m n : Nat} (ordered : m ≤ n)
    : doc.lineStart m ≤ doc.lineStart n := by
  obtain ⟨between, joined⟩ := List.take_prefix_take_left (l := doc.pieces) ordered
  rw [lineStart, lineStart, ← joined, List.flatten_append, List.length_append]
  exact Nat.le_add_right _ _

/-- No line starts behind the end of the text, as the pieces make it up. -/
theorem lineStart_le_length (doc : Document) (n : Nat)
    : doc.lineStart n ≤ doc.chars.length := by
  rw [chars_eq_append doc n, List.length_append]
  exact Nat.le_add_right _ _

/-- On a line that is there, a column is counted from its start and stops at its terminator. -/
theorem offset_of_line {doc : Document} {n : Nat} {piece : List Char}
    (there : doc.pieces[n]? = some piece) (column : Nat)
    : doc.offset ⟨n, column⟩
      = doc.lineStart n + min column (Text.unterminated piece).length := by
  simp only [offset, there]

/-- The next line starts behind the piece of a line, by taking one piece more. -/
theorem lineStart_succ {doc : Document} {n : Nat} {piece : List Char}
    (there : doc.pieces[n]? = some piece)
    : doc.lineStart (n + 1) = doc.lineStart n + piece.length := by
  rw [lineStart, List.take_add_one, there, List.flatten_append, List.length_append]
  simp [lineStart]

/-- A position is on its line: not in front of the line's start, nor behind that of the next. -/
theorem offset_bounds (doc : Document) (position : Position)
    : doc.lineStart position.line ≤ doc.offset position
      ∧ (position.line < doc.lineCount
          → doc.offset position ≤ doc.lineStart (position.line + 1))
      ∧ doc.offset position ≤ doc.chars.length := by
  cases there : doc.pieces[position.line]? with
  | none =>
      have past : doc.lineCount ≤ position.line := List.getElem?_eq_none_iff.mp there
      rw [offset_past doc past]
      exact ⟨doc.lineStart_le_length _, fun inside => absurd past (Nat.not_le.mpr inside),
        Nat.le_refl _⟩
  | some piece =>
      have short := (Text.unterminated_isPrefix piece).length_le
      have within := doc.lineStart_le_length (position.line + 1)
      rw [lineStart_succ there] at within ⊢
      rw [show doc.offset position = _ from offset_of_line there position.character]
      omega

/-- A position that is not in front of another one has its place not in front of it either. -/
theorem offset_mono (doc : Document) {p q : Position} (ordered : p ≤ q)
    : doc.offset p ≤ doc.offset q := by
  rcases ordered with above | ⟨same, columns⟩
  · by_cases inside : p.line < doc.lineCount
    · calc doc.offset p
        _ ≤ doc.lineStart (p.line + 1) := (doc.offset_bounds p).2.1 inside
        _ ≤ doc.lineStart q.line := doc.lineStart_mono above
        _ ≤ doc.offset q := (doc.offset_bounds q).1
    · rw [doc.offset_past (Nat.le_trans (Nat.not_lt.mp inside) (Nat.le_of_lt above))]
      exact (doc.offset_bounds p).2.2
  · cases there : doc.pieces[p.line]? with
    | none =>
        have past : doc.lineCount ≤ p.line := List.getElem?_eq_none_iff.mp there
        rw [doc.offset_past past, doc.offset_past (by rwa [← same])]
    | some piece =>
        have below : doc.pieces[q.line]? = some piece := by rwa [← same]
        rw [show doc.offset p = _ from offset_of_line there p.character,
          show doc.offset q = _ from offset_of_line below q.character, same]
        omega

-----------------------------------------------------------------------------------------
-- Places in bytes
-----------------------------------------------------------------------------------------

/-- Where the lines start, in bytes: at the beginning and behind every line feed. -/
def byteStarts (doc : Document) : List Nat :=
  0 :: Text.placesAfterFeeds 0 doc.chars

/-- The place of a position in bytes: the start of its line and the bytes of the characters in
front of it there, of which there may be fewer than the position says. -/
def byteOffset (doc : Document) (position : Position) : Nat :=
  match doc.byteStarts[position.line]? with
  | none => doc.text.utf8ByteSize
  | some start =>
      let line := ((doc.line? position.line).getD "").toList
      start + String.utf8Len (line.take position.character)

/-- The table has a start for each line, in bytes, by the places behind line feeds. -/
theorem getElem?_byteStarts (doc : Document) (n : Nat)
    : doc.byteStarts[n]?
      = if n < doc.lineCount then some (String.utf8Len (doc.pieces.take n).flatten) else none := by
  obtain ⟨full, last, cut, terminated, absent⟩ := Text.exists_pieces doc.chars
  have whole : doc.chars = full.flatten ++ last := Text.eq_flatten_append cut
  have total : doc.lineCount = full.length + 1 := by
    simp [lineCount, pieces, cut]
  rw [byteStarts, total]
  cases n with
  | zero => simp
  | succ n =>
      rw [List.getElem?_cons_succ, whole, Text.getElem?_placesAfterFeeds terminated absent]
      by_cases inside : n < full.length
      · have front : doc.pieces.take (n + 1) = full.take (n + 1) := by
          rw [pieces, cut, List.take_append_of_le_length inside]
        rw [if_pos inside, if_pos (Nat.succ_lt_succ inside), front, Nat.zero_add]
      · rw [if_neg inside, if_neg (fun h => inside (Nat.lt_of_succ_lt_succ h))]

/-- In bytes and in characters, a place has the same text in front of it. -/
theorem byteOffset_eq (doc : Document) (position : Position)
    : doc.byteOffset position = String.utf8Len (doc.chars.take (doc.offset position)) := by
  rw [byteOffset, getElem?_byteStarts]
  cases there : doc.pieces[position.line]? with
  | none =>
      have past : doc.lineCount ≤ position.line := List.getElem?_eq_none_iff.mp there
      rw [if_neg (Nat.not_lt.mpr past), doc.offset_past past, List.take_length]
      exact (String.utf8Len_toList doc.text).symm
  | some piece =>
      have inside : position.line < doc.lineCount := (List.getElem?_eq_some_iff.mp there).1
      have head := List.prefix_iff_eq_take.mp (Text.unterminated_isPrefix piece)
      have short := (Text.unterminated_isPrefix piece).length_le
      have columns : (Text.unterminated piece).take position.character
          = piece.take (min position.character (Text.unterminated piece).length) := by
        conv_lhs => rw [head, List.take_take]
      rw [if_pos inside, show doc.offset position = _ from offset_of_line there position.character,
        take_lineStart_add there (by omega), String.utf8Len_append, ← columns]
      simp [line?_eq, there]

/-- A position is on a boundary of characters, as bytes are counted over whole characters. -/
theorem byteOffset_isValid (doc : Document) (position : Position)
    : String.Pos.Raw.IsValid doc.text ⟨doc.byteOffset position⟩ := by
  rw [String.Pos.Raw.isValid_iff_exists_take_toList]
  exact ⟨doc.offset position, by rw [byteOffset_eq, String.utf8ByteSize_ofList]; rfl⟩

/-- Later positions have later bytes, as they have later characters. -/
theorem byteOffset_mono (doc : Document) {p q : Position} (ordered : p ≤ q)
    : doc.byteOffset p ≤ doc.byteOffset q := by
  rw [byteOffset_eq, byteOffset_eq]
  exact String.utf8Len_le_of_prefix (List.take_prefix_take_left (doc.offset_mono ordered))

/-- No position is behind the last byte, as the characters in front of it are among all. -/
theorem byteOffset_le (doc : Document) (position : Position)
    : doc.byteOffset position ≤ doc.text.utf8ByteSize := by
  rw [byteOffset_eq, ← String.utf8Len_toList]
  exact String.utf8Len_le_of_prefix (List.take_prefix _ _)

-----------------------------------------------------------------------------------------
-- Selected texts
-----------------------------------------------------------------------------------------

/-- A selection covers the bytes between its two places. -/
theorem extract_selectedText (doc : Document) {selection : Selection}
    (ordered : selection.start ≤ selection.stop)
    : String.Pos.Raw.extract doc.text ⟨doc.byteOffset selection.start⟩
          ⟨doc.byteOffset selection.stop⟩
      = doc.selectedText selection := by
  rw [byteOffset_eq, byteOffset_eq]
  exact Text.extract_slice doc.text (doc.offset_mono ordered)

/-- Two selections that meet make up one, by slicing the characters at the middle. -/
theorem selectedText_append (doc : Document) {p q r : Position} (first : p ≤ q)
    (second : q ≤ r)
    : doc.selectedText ⟨p, q⟩ ++ doc.selectedText ⟨q, r⟩ = doc.selectedText ⟨p, r⟩ := by
  apply String.toList_inj.mp
  rw [String.toList_append, toList_selectedText, toList_selectedText, toList_selectedText]
  exact Text.slice_append (doc.offset_mono first) (doc.offset_mono second)

/-- The selection from the start to behind the last line is the whole text, by slicing all
characters. -/
theorem selectedText_all (doc : Document)
    : doc.selectedText ⟨⟨0, 0⟩, ⟨doc.lineCount, 0⟩⟩ = doc.text := by
  have start : doc.offset ⟨0, 0⟩ = 0 := by
    have there : 0 < doc.pieces.length := doc.lineCount_pos
    rw [offset_of_line (List.getElem?_eq_getElem there)]
    simp [lineStart]
  apply String.toList_inj.mp
  rw [toList_selectedText, start, doc.offset_past (Nat.le_refl _)]
  simp [chars]

/-- Within a line, a selection covers the characters between its columns, as far as there are. -/
theorem toList_selectedText_line {doc : Document} {n : Nat} {line : String}
    (there : doc.line? n = some line) (start stop : Nat)
    : (doc.selectedText ⟨⟨n, start⟩, ⟨n, stop⟩⟩).toList = (line.toList.take stop).drop start := by
  rw [line?_eq] at there
  obtain ⟨piece, found, rfl⟩ := Option.map_eq_some_iff.mp there
  have head := List.prefix_iff_eq_take.mp (Text.unterminated_isPrefix piece)
  have short := (Text.unterminated_isPrefix piece).length_le
  have columns : (Text.unterminated piece).take stop
      = piece.take (min stop (Text.unterminated piece).length) := by
    conv_lhs => rw [head, List.take_take]
  have front : (doc.pieces.take n).flatten.length = doc.lineStart n := rfl
  rw [toList_selectedText, ← List.drop_take, offset_of_line found, offset_of_line found,
    take_lineStart_add found (by omega), ← front, List.drop_length_add_append, ← columns,
    String.toList_ofList]
  rcases Nat.le_total start (Text.unterminated piece).length with inside | past
  · rw [Nat.min_eq_left inside]
  · have nothing
        : ((Text.unterminated piece).take stop).length ≤ (Text.unterminated piece).length :=
      List.length_take_le' _ _
    rw [Nat.min_eq_right past, List.drop_eq_nil_of_le nothing,
      List.drop_eq_nil_of_le (Nat.le_trans nothing past)]

/-- A selection is cut out between two boundaries of characters that are in order and in the
text, wherever its positions are. Selections that meet make up one selection, the one of all
positions is the whole text, and within a line the columns count characters. -/
theorem selected_between_boundaries (doc : Document)
    : (∀ a b,
          let selection := Selection.between a b
          doc.byteOffset selection.start ≤ doc.byteOffset selection.stop
          ∧ doc.byteOffset selection.stop ≤ doc.text.utf8ByteSize
          ∧ String.Pos.Raw.IsValid doc.text ⟨doc.byteOffset selection.start⟩
          ∧ String.Pos.Raw.IsValid doc.text ⟨doc.byteOffset selection.stop⟩
          ∧ String.Pos.Raw.extract doc.text ⟨doc.byteOffset selection.start⟩
                ⟨doc.byteOffset selection.stop⟩
            = doc.selectedText selection)
      ∧ (∀ p q r,
          p ≤ q
          → q ≤ r
          → doc.selectedText ⟨p, q⟩ ++ doc.selectedText ⟨q, r⟩ = doc.selectedText ⟨p, r⟩)
      ∧ doc.selectedText ⟨⟨0, 0⟩, ⟨doc.lineCount, 0⟩⟩ = doc.text
      ∧ ∀ n < doc.lineCount,
          ∃ line,
            doc.line? n = some line
            ∧ ∀ start stop,
                start ≤ stop
                → (doc.selectedText ⟨⟨n, start⟩, ⟨n, stop⟩⟩).toList
                  = (line.toList.take stop).drop start := by
  refine ⟨?_, fun p q r => doc.selectedText_append, doc.selectedText_all, ?_⟩
  · intro a b
    have ordered := Selection.between_ordered a b
    exact ⟨doc.byteOffset_mono ordered, doc.byteOffset_le _, doc.byteOffset_isValid _,
      doc.byteOffset_isValid _, doc.extract_selectedText ordered⟩
  · intro n inside
    obtain ⟨line, there⟩ := doc.exists_line? inside
    exact ⟨line, there, fun start stop _ => toList_selectedText_line there start stop⟩

/-- Positions behind the end of a line and behind the end of the text, with a character of two
bytes in front of them. -/
theorem selected_between_boundaries_past_end
    : ∃ doc : Document, ∃ p q r : Position,
        doc.text = "Đa\r\n\nb"
        ∧ p = ⟨0, 1⟩
        ∧ q = ⟨1, 4⟩
        ∧ r = ⟨9, 3⟩
        ∧ p ≤ q
        ∧ q ≤ r
        ∧ Selection.between q p = ⟨p, q⟩
        ∧ doc.byteOffset p = 2
        ∧ doc.byteOffset q = 5
        ∧ String.Pos.Raw.extract doc.text ⟨2⟩ ⟨5⟩ = "a\r\n"
        ∧ doc.selectedText ⟨p, q⟩ ++ doc.selectedText ⟨q, r⟩ = "a\r\n\nb"
        ∧ ∃ line,
            doc.line? 0 = some line
            ∧ (doc.selectedText ⟨⟨0, 1⟩, ⟨0, 7⟩⟩).toList = (line.toList.take 7).drop 1 := by
  have inside : 0 < (⟨"demo", "Đa\r\n\nb"⟩ : Document).lineCount := by decide
  obtain ⟨slices, meet, _, columns⟩ := selected_between_boundaries ⟨"demo", "Đa\r\n\nb"⟩
  obtain ⟨line, there, counted⟩ := columns 0 inside
  exact ⟨_, ⟨0, 1⟩, ⟨1, 4⟩, ⟨9, 3⟩, rfl, rfl, rfl, rfl, by decide, by decide, by decide, by decide,
    by decide, (slices ⟨1, 4⟩ ⟨0, 1⟩).2.2.2.2.trans (by decide),
    (meet ⟨0, 1⟩ ⟨1, 4⟩ ⟨9, 3⟩ (by decide) (by decide)).trans (by decide), line, there,
    counted 1 7 (by decide)⟩

end Document

end CellRunner
