import CellRunner.Cell.Lens
import CellRunner.Proofs.Document.ClampedBounds

/-!
Line endings. A text whose lines end in a carriage return and a line feed has the lines of the
text that ends them in line feeds alone, so both have the same offers; and any part of the one is
the same part of the other with its own line endings, under the same numbers.
-/

namespace CellRunner

namespace Text

/-- The text with a carriage return put in front of every line feed. -/
def withReturns (text : List Char) : List Char :=
  text.flatMap (fun c => if c = '\n' then ['\r', '\n'] else [c])

/-- Returns are added to two texts apart, character by character. -/
theorem withReturns_append (front back : List Char)
    : withReturns (front ++ back) = withReturns front ++ withReturns back :=
  List.flatMap_append

/-- Returns are added to parts apart, character by character. -/
theorem withReturns_flatten (parts : List (List Char))
    : withReturns parts.flatten = (parts.map withReturns).flatten := by
  induction parts with
  | nil => rfl
  | cons part rest ih =>
      rw [List.flatten_cons, withReturns_append, ih, List.map_cons, List.flatten_cons]

/-- A text without a line feed stays as it is, by induction on the text. -/
theorem withReturns_of_notMem {line : List Char} (absent : '\n' ∉ line)
    : withReturns line = line := by
  induction line with
  | nil => rfl
  | cons c rest ih =>
      have parts : c ≠ '\n' ∧ '\n' ∉ rest := by simpa [eq_comm] using absent
      have later := ih parts.2
      simp only [withReturns] at later
      simp [withReturns, parts.1, later]

/-- Adding returns empties no text, by cases on the text. -/
theorem withReturns_eq_nil_iff {text : List Char}
    : withReturns text = [] ↔ text = [] := by
  cases text with
  | nil => simp [withReturns]
  | cons c rest =>
      simp only [withReturns, List.flatMap_cons, List.append_eq_nil_iff, reduceCtorEq, iff_false]
      split <;> simp

/-- The carriage return becomes a part of the terminator. -/
theorem withReturns_terminated {line : List Char} (absent : '\n' ∉ line)
    : withReturns (line ++ ['\n']) = line ++ ['\r', '\n'] := by
  rw [withReturns_append, withReturns_of_notMem absent]
  rfl

/-- A line with its line feed still ends in one, and has no other. -/
theorem Terminated.withReturns {piece : List Char} (h : Terminated piece)
    : Terminated (withReturns piece) := by
  obtain ⟨line, absent, rfl⟩ := h
  refine ⟨line ++ ['\r'], by simp [absent], ?_⟩
  rw [withReturns_terminated absent, List.append_assoc]
  rfl

/-- The text with carriage returns is cut where the text itself is cut. -/
theorem pieces_withReturns (text : List Char)
    : pieces (withReturns text) = (pieces text).map withReturns := by
  obtain ⟨full, last, cut, terminated, absent⟩ := exists_pieces text
  have whole : text = full.flatten ++ last := eq_flatten_append cut
  have returned : ∀ piece ∈ full.map withReturns, Terminated piece := by
    intro piece member
    obtain ⟨original, there, rfl⟩ := List.mem_map.mp member
    exact (terminated original there).withReturns
  have unchanged := withReturns_of_notMem absent
  calc
    pieces (withReturns text)
        = pieces ((full.map withReturns).flatten ++ last) := by
      rw [whole, withReturns_append, withReturns_flatten, unchanged]
    _ = full.map withReturns ++ [last] := pieces_flatten_append returned absent
    _ = (pieces text).map withReturns := by
      rw [cut, List.map_append, List.map_singleton, unchanged]

/-- A piece is a terminated line, or a line without a line feed. -/
theorem terminated_or_notMem {text piece : List Char} (member : piece ∈ pieces text)
    : Terminated piece ∨ '\n' ∉ piece := by
  obtain ⟨full, last, cut, terminated, absent⟩ := exists_pieces text
  rw [cut] at member
  rcases List.mem_append.mp member with inFull | isLast
  · exact .inl (terminated piece inFull)
  · rw [List.mem_singleton.mp isLast]
    exact .inr absent

/-- The characters of a piece are in the text, as the pieces make it up. -/
theorem mem_of_mem_piece {text piece : List Char} (member : piece ∈ pieces text) {c : Char}
    (inside : c ∈ piece)
    : c ∈ text := by
  rw [← flatten_pieces text]
  exact List.mem_flatten.mpr ⟨piece, member, inside⟩

/-- A character at the end is taken off. -/
theorem withoutLast_concat (c : Char) (text : List Char)
    : withoutLast c (text ++ [c]) = text := by
  simp [withoutLast]

/-- Without its terminator, a line is the same with and without the carriage return. -/
theorem unterminated_withReturns {text piece : List Char} (plain : '\r' ∉ text)
    (member : piece ∈ pieces text)
    : unterminated (withReturns piece) = unterminated piece := by
  rcases terminated_or_notMem member with ⟨line, absent, rfl⟩ | absent
  · have noReturn : '\r' ∉ line := by
      intro inside
      exact plain (mem_of_mem_piece member (List.mem_append_left _ inside))
    have split : line ++ ['\r', '\n'] = (line ++ ['\r']) ++ ['\n'] := by simp
    rw [withReturns_terminated absent, split, unterminated, unterminated, withoutLast_concat,
      withoutLast_concat, withoutLast_concat, withoutLast_of_notMem noReturn]
  · rw [withReturns_of_notMem absent]

/-- Taking off a last character leaves a beginning, by cases on whether it is there. -/
theorem withoutLast_isPrefix (c : Char) (text : List Char)
    : withoutLast c text <+: text := by
  unfold withoutLast
  split
  · exact List.dropLast_prefix text
  · exact List.prefix_refl text

/-- A line without its terminator is a beginning of the piece, by both characters that may go. -/
theorem unterminated_isPrefix (piece : List Char)
    : unterminated piece <+: piece :=
  (withoutLast_isPrefix _ _).trans (withoutLast_isPrefix _ _)

/-- No line feed is left in a line without its terminator. -/
theorem notMem_unterminated {text piece : List Char} (member : piece ∈ pieces text)
    : '\n' ∉ unterminated piece := by
  intro inside
  have fed := (withoutLast_isPrefix '\r' _).subset inside
  rcases terminated_or_notMem member with ⟨line, absent, rfl⟩ | absent
  · rw [withoutLast_concat] at fed
    exact absent fed
  · exact absent ((withoutLast_isPrefix '\n' _).subset fed)

/-- Returns are added in front of a place and behind it apart, by splitting the text there. -/
theorem withReturns_split (n : Nat) (text : List Char)
    : withReturns text = withReturns (text.take n) ++ withReturns (text.drop n) := by
  rw [← withReturns_append, List.take_append_drop]

/-- A slice of the text, between the places that its bounds have behind the carriage returns. -/
theorem withReturns_slice (text : List Char) (start stop : Nat)
    : ((withReturns text).take (withReturns (text.take stop)).length).drop
          (withReturns (text.take start)).length
      = withReturns ((text.take stop).drop start) := by
  have front : (withReturns text).take (withReturns (text.take stop)).length
      = withReturns (text.take stop) := by
    rw [withReturns_split stop text, List.take_left]
  rw [front]
  rcases Nat.le_total start stop with ordered | crossed
  · have shared : (text.take stop).take start = text.take start := by
      rw [List.take_take, Nat.min_eq_left ordered]
    rw [withReturns_split start (text.take stop), shared, List.drop_left]
  · have shared : (text.take start).take stop = text.take stop := by
      rw [List.take_take, Nat.min_eq_left crossed]
    have nothing : (text.take stop).drop start = [] :=
      List.drop_eq_nil_of_le (Nat.le_trans (List.length_take_le _ _) crossed)
    rw [nothing]
    apply List.drop_eq_nil_of_le
    rw [withReturns_split stop (text.take start), shared, List.length_append]
    exact Nat.le_add_right _ _

end Text

/-- The excerpt with a carriage return in front of every line feed of its text. -/
def Excerpt.withReturns (excerpt : Excerpt) : Excerpt :=
  { excerpt with text := String.ofList (Text.withReturns excerpt.text.toList) }

/-- The numbers in a frame do not depend on its text. -/
theorem Frame.numbers_withReturns (excerpt : Excerpt) (totalLines : Nat) (sourceName : String)
    : (Frame.ofExcerpt? excerpt.withReturns totalLines sourceName).map
          (fun frame => (frame.lineCount, frame.firstLine))
      = (Frame.ofExcerpt? excerpt totalLines sourceName).map
          (fun frame => (frame.lineCount, frame.firstLine)) := by
  by_cases few : Frame.countLines excerpt.since excerpt.before totalLines < 1 <;>
    simp [Frame.ofExcerpt?, Excerpt.withReturns, few]

namespace Document

/-- The document with a carriage return in front of every line feed. -/
def withReturns (doc : Document) : Document :=
  ⟨doc.name, String.ofList (Text.withReturns doc.chars)⟩

/-- The characters of the document with returns are those with returns added. -/
theorem chars_withReturns (doc : Document)
    : doc.withReturns.chars = Text.withReturns doc.chars := by
  simp [withReturns, chars]

/-- The pieces of the document with returns are its pieces with returns added, by the pieces of a
text. -/
theorem pieces_withReturns (doc : Document)
    : doc.withReturns.pieces = doc.pieces.map Text.withReturns := by
  rw [pieces, chars_withReturns, Text.pieces_withReturns, pieces]

/-- Adding returns adds no line, by counting the pieces. -/
theorem lineCount_withReturns (doc : Document)
    : doc.withReturns.lineCount = doc.lineCount := by
  rw [lineCount, pieces_withReturns, List.length_map, lineCount]

/-- Adding returns changes no line, by taking the terminators off the pieces. -/
theorem lines_withReturns {doc : Document} (plain : '\r' ∉ doc.chars)
    : doc.withReturns.lines = doc.lines := by
  rw [lines, pieces_withReturns, List.map_map, lines]
  refine List.map_congr_left fun piece member => ?_
  rw [Function.comp_apply, Text.unterminated_withReturns plain member]

/-- The text between two lines gets the returns of its lines, by the pieces between them. -/
theorem toList_textBetween_withReturns (doc : Document) (since before : Nat)
    : (doc.withReturns.textBetween since before).toList
      = Text.withReturns (doc.textBetween since before).toList := by
  rw [toList_textBetween, toList_textBetween, Text.withReturns_flatten, Text.run, Text.run,
    chars_withReturns, Text.pieces_withReturns, List.map_drop, List.map_take]

-----------------------------------------------------------------------------------------
-- Places in a line
-----------------------------------------------------------------------------------------

/-- The text up to a place in a line consists of the lines above and of the line up to there. -/
theorem take_lineStart_add {doc : Document} {n places : Nat} {piece : List Char}
    (there : doc.pieces[n]? = some piece) (within : places ≤ piece.length)
    : doc.chars.take (doc.lineStart n + places)
      = (doc.pieces.take n).flatten ++ piece.take places := by
  have inside := (List.getElem?_eq_some_iff.mp there).1
  have rest : doc.pieces.drop n = piece :: doc.pieces.drop (n + 1) := by
    rw [List.drop_eq_getElem_cons inside, (List.getElem?_eq_some_iff.mp there).2]
  have whole : doc.chars
      = (doc.pieces.take n).flatten ++ (piece ++ (doc.pieces.drop (n + 1)).flatten) := by
    rw [← List.flatten_cons, ← rest]
    exact doc.chars_eq_append n
  rw [whole, lineStart, List.take_length_add_append, List.take_append_of_le_length within]

/-- A position has the same text in front of it in both documents, each with its line endings. -/
theorem offset_withReturns {doc : Document} (plain : '\r' ∉ doc.chars) (position : Position)
    : doc.withReturns.offset position
      = (Text.withReturns (doc.chars.take (doc.offset position))).length := by
  cases there : doc.pieces[position.line]? with
  | none =>
      have past : doc.lineCount ≤ position.line := List.getElem?_eq_none_iff.mp there
      rw [offset_past doc past, offset_past _ (by rwa [lineCount_withReturns]), List.take_length,
        chars_withReturns]
  | some piece =>
      have member : piece ∈ doc.pieces := List.mem_of_getElem? there
      have returned : doc.withReturns.pieces[position.line]? = some (Text.withReturns piece) := by
        rw [pieces_withReturns, List.getElem?_map, there, Option.map_some]
      have start : doc.withReturns.lineStart position.line
          = (Text.withReturns (doc.pieces.take position.line).flatten).length := by
        rw [lineStart, pieces_withReturns, ← List.map_take, Text.withReturns_flatten]
      have head := List.prefix_iff_eq_take.mp (Text.unterminated_isPrefix piece)
      have columns := Nat.min_le_right position.character (Text.unterminated piece).length
      have short := (Text.unterminated_isPrefix piece).length_le
      -- The columns of a line end in front of its terminator, so nothing is put in among them.
      have unfed
          : '\n' ∉ piece.take (min position.character (Text.unterminated piece).length) := by
        intro inside
        apply Text.notMem_unterminated member
        rw [head]
        exact (List.take_prefix_take_left columns).subset inside
      simp only [offset, there, returned, Text.unterminated_withReturns plain member]
      rw [take_lineStart_add there (Nat.le_trans columns short), Text.withReturns_append,
        Text.withReturns_of_notMem unfed, List.length_append, List.length_take, start,
        Nat.min_eq_left (Nat.le_trans columns short)]

/-- A selection covers the same text in both documents, each with its line endings. -/
theorem toList_selectedText_withReturns {doc : Document} (plain : '\r' ∉ doc.chars)
    (selection : Selection)
    : (doc.withReturns.selectedText selection).toList
      = Text.withReturns (doc.selectedText selection).toList := by
  rw [toList_selectedText, toList_selectedText, ← List.drop_take, ← List.drop_take,
    offset_withReturns plain, offset_withReturns plain, chars_withReturns, Text.withReturns_slice]

-----------------------------------------------------------------------------------------
-- Excerpts and frames
-----------------------------------------------------------------------------------------

/-- The excerpt of the whole document gets the returns of its lines. -/
theorem whole_withReturns (doc : Document)
    : doc.withReturns.whole = doc.whole.withReturns := by
  rw [whole, lineCount_withReturns, whole]
  rfl

/-- The excerpts of both documents have the same bounds, and each has its own line endings. -/
theorem excerpt_withReturns {doc : Document} (plain : '\r' ∉ doc.chars)
    (range : Option LineRange) (selection : Option Selection)
    : doc.withReturns.excerpt range selection = (doc.excerpt range selection).withReturns := by
  cases range with
  | some range =>
      have text (since before : Nat)
          : doc.withReturns.textBetween since before
            = String.ofList (Text.withReturns (doc.textBetween since before).toList) := by
        rw [← toList_textBetween_withReturns, String.ofList_toList]
      simp only [excerpt, lineCount_withReturns, text]
      rfl
  | none =>
      cases selection with
      | none => exact doc.whole_withReturns
      | some selection =>
          have text : doc.withReturns.selectedText selection
              = String.ofList (Text.withReturns (doc.selectedText selection).toList) := by
            rw [← toList_selectedText_withReturns plain, String.ofList_toList]
          by_cases empty : doc.selectedText selection = ""
          · have emptied : doc.withReturns.selectedText selection = "" := by
              rw [text, empty]
              rfl
            simp [excerpt, empty, emptied, whole_withReturns]
          · have kept : doc.withReturns.selectedText selection ≠ "" := by
              intro emptied
              apply empty
              apply String.toList_inj.mp
              apply Text.withReturns_eq_nil_iff.mp
              rw [← toList_selectedText_withReturns plain, emptied, String.toList_empty]
            rw [excerpt_selection _ kept, excerpt_selection _ empty, text]
            rfl

/-- A document without carriage returns and the one with a carriage return in front of every line
feed have the same lines, the same offers and listings, and the same excerpts up to their line
endings, which are framed with the same numbers or not at all. -/
theorem line_endings_irrelevant (doc : Document) (plain : '\r' ∉ doc.text.toList)
    : doc.withReturns.lineCount = doc.lineCount
      ∧ doc.withReturns.lines = doc.lines
      ∧ Offer.ofLines doc.withReturns.lines = Offer.ofLines doc.lines
      ∧ Offer.listAll (Offer.ofLines doc.withReturns.lines)
        = Offer.listAll (Offer.ofLines doc.lines)
      ∧ Offer.listAllJson (Offer.ofLines doc.withReturns.lines)
        = Offer.listAllJson (Offer.ofLines doc.lines)
      ∧ ∀ range selection name,
          (doc.withReturns.excerpt range selection).since = (doc.excerpt range selection).since
          ∧ (doc.withReturns.excerpt range selection).before
            = (doc.excerpt range selection).before
          ∧ (doc.withReturns.excerpt range selection).text.toList
            = Text.withReturns (doc.excerpt range selection).text.toList
          ∧ (doc.withReturns.frame? name range selection).map
                (fun frame => (frame.lineCount, frame.firstLine))
            = (doc.frame? name range selection).map
                (fun frame => (frame.lineCount, frame.firstLine)) := by
  have same := lines_withReturns plain
  refine ⟨doc.lineCount_withReturns, same, by rw [same], by rw [same], by rw [same], ?_⟩
  intro range selection name
  have excerpted := excerpt_withReturns plain range selection
  refine ⟨by rw [excerpted]; rfl, by rw [excerpted]; rfl, ?_, ?_⟩
  · rw [excerpted, Excerpt.withReturns, String.toList_ofList]
  · rw [frame?, frame?, excerpted, lineCount_withReturns, Frame.numbers_withReturns]

/-- A selection that stops behind the end of an empty line stops in front of the carriage return
there. -/
theorem line_endings_irrelevant_selection
    : ∃ doc : Document, ∃ selection : Selection,
        doc.text = "# %%\nĐa\n\nb"
        ∧ '\r' ∉ doc.text.toList
        ∧ doc.withReturns.text = "# %%\r\nĐa\r\n\r\nb"
        ∧ selection = ⟨⟨1, 1⟩, ⟨2, 7⟩⟩
        ∧ doc.withReturns.lineCount = 4
        ∧ (doc.withReturns.excerpt none (some selection)).before = 3
        ∧ (doc.withReturns.excerpt none (some selection)).text.toList = "a\r\n".toList
        ∧ (doc.withReturns.frame? "demo" none (some selection)).map
              (fun frame => (frame.lineCount, frame.firstLine))
          = some (2, 2) := by
  have plain : '\r' ∉ (⟨"demo", "# %%\nĐa\n\nb"⟩ : Document).text.toList := by decide
  obtain ⟨count, _, _, _, _, excerpts⟩ := line_endings_irrelevant _ plain
  obtain ⟨_, before, text, numbers⟩ := excerpts none (some ⟨⟨1, 1⟩, ⟨2, 7⟩⟩) "demo"
  exact ⟨_, _, rfl, plain, by decide, rfl, count.trans (by decide), before.trans (by decide),
    text.trans (by decide), numbers.trans (by decide)⟩

end Document

end CellRunner
