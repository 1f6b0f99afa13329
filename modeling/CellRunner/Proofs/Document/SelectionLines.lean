import CellRunner.Proofs.Document.SelectedText

/-!
The lines of a selection's excerpt. They enclose the selected text as tightly as lines can: in
front of it they hold only the columns of its first line that are not selected, and behind it only
the rest of its last line, or nothing if it stops in front of a line's first character.
-/

namespace CellRunner

namespace Document

/-- A line starts at the place of its column zero, also behind the end of the text. -/
theorem offset_column_zero (doc : Document) (n : Nat)
    : doc.offset ⟨n, 0⟩ = doc.lineStart n := by
  cases there : doc.pieces[n]? with
  | none =>
      have past : doc.lineCount ≤ n := List.getElem?_eq_none_iff.mp there
      have whole : doc.pieces.take n = doc.pieces := List.take_of_length_le past
      have joined : doc.pieces.flatten = doc.chars := Text.flatten_pieces doc.chars
      rw [doc.offset_past past, lineStart, whole, joined]
  | some piece => rw [offset_of_line there, Nat.zero_min, Nat.add_zero]

/-- The text up to the start of a line is that of the lines above it. -/
theorem take_lineStart (doc : Document) (n : Nat)
    : doc.chars.take (doc.lineStart n) = (doc.pieces.take n).flatten := by
  rw [chars_eq_append doc n, lineStart, List.take_left]

/-- From line to line, a selection covers the text between the lines. -/
theorem selectedText_lines (doc : Document) (since before : Nat)
    : doc.selectedText ⟨⟨since, 0⟩, ⟨before, 0⟩⟩ = doc.textBetween since before := by
  apply String.toList_inj.mp
  rw [toList_selectedText, offset_column_zero, offset_column_zero, ← List.drop_take, take_lineStart]
  rcases Nat.le_total since before with ordered | crossed
  · rw [flatten_take_before doc ordered, lineStart, List.drop_left]
  · have behind : (doc.pieces.take before).flatten.length ≤ doc.lineStart since :=
      doc.lineStart_mono crossed
    rw [List.drop_eq_nil_of_le behind, toList_textBetween, Text.run_eq_nil (.inl crossed),
      List.flatten_nil]

/-- A line has no line feed but the one at its end. -/
theorem notMem_dropLast_line (doc : Document) (n : Nat)
    : '\n' ∉ (doc.textBetween n (n + 1)).toList.dropLast := by
  rw [toList_textBetween, Text.run_single]
  cases there : (Text.pieces doc.chars)[n]? with
  | none => simp
  | some piece =>
      rw [Option.toList_some, List.flatten_singleton]
      rcases Text.terminated_or_notMem (List.mem_of_getElem? there)
        with ⟨line, absent, rfl⟩ | absent
      · rwa [List.dropLast_concat]
      · exact fun inside => absent (List.dropLast_prefix piece |>.subset inside)

-----------------------------------------------------------------------------------------
-- Selections in their lines
-----------------------------------------------------------------------------------------

/-- Lines that enclose a selection: they hold its text between a `front` and a `back`, which are
parts of the first and of the last one of them. -/
structure Encloses (doc : Document) (selection : Selection) (since before : Nat)
    (front back : String)
    : Prop where
  whole : doc.textBetween since before = front ++ doc.selectedText selection ++ back
  first : since = selection.start.line
  /-- In front of the selection are the columns of the first line up to its start. -/
  columns
    : ∃ line,
        doc.line? since = some line
        ∧ front.toList = line.toList.take selection.start.character
  unfed : '\n' ∉ front.toList
  /-- Behind the selection is the end of the last line, which may hold its line feed. -/
  last : back.toList <:+ (doc.textBetween (before - 1) before).toList
  terminator : '\n' ∉ back.toList.dropLast
  /-- A line that the selection does not reach into is not among the lines. -/
  column_zero : selection.stop.character = 0 → back = ""

theorem line?_notMem {doc : Document} {n : Nat} {line : String} (there : doc.line? n = some line)
    : '\n' ∉ line.toList := by
  rw [line?_eq] at there
  obtain ⟨piece, found, rfl⟩ := Option.map_eq_some_iff.mp there
  rw [String.toList_ofList]
  exact Text.notMem_unterminated (List.mem_of_getElem? found)

/-- A selection to the start of the next line covers the rest of the line, which is nothing if the
position is in front of its first character. -/
theorem rest_of_line (doc : Document) (position : Position) {before : Nat}
    (next : before = position.line + if 0 < position.character then 1 else 0)
    : let rest := doc.selectedText ⟨position, ⟨before, 0⟩⟩
      (position.character = 0 → rest = "")
      ∧ rest.toList <:+ (doc.textBetween (before - 1) before).toList
      ∧ '\n' ∉ rest.toList.dropLast := by
  intro rest
  by_cases zero : position.character = 0
  · have same : position = ⟨before, 0⟩ := by
      rw [next, if_neg (by omega), Nat.add_zero, ← zero]
    have nothing : rest = "" := by
      apply String.toList_inj.mp
      rw [toList_selectedText, ← same, Nat.sub_self, List.take_zero, String.toList_empty]
    simp [nothing]
  · have line : before = position.line + 1 := by
      rw [next, if_pos (Nat.pos_of_ne_zero zero)]
    have opens : (⟨position.line, 0⟩ : Position) ≤ position := by simp [Position.le_def]
    have closes : position ≤ ⟨position.line + 1, 0⟩ := by simp [Position.le_def]
    have cut := doc.selectedText_append opens closes
    rw [selectedText_lines, ← line] at cut
    have suffix : rest.toList <:+ (doc.textBetween (before - 1) before).toList := by
      rw [line, Nat.add_sub_cancel, ← line, ← cut, String.toList_append]
      exact List.suffix_append _ _
    refine ⟨fun h => absurd h zero, suffix, fun inside => ?_⟩
    have single := doc.notMem_dropLast_line position.line
    rw [← line, ← cut, String.toList_append, List.dropLast_append_of_ne_nil] at single
    · exact single (List.mem_append_right _ inside)
    · exact List.ne_nil_of_mem (List.dropLast_prefix _ |>.subset inside)

/-- The lines up to the one behind an ordered selection with a text enclose it. -/
theorem exists_encloses {doc : Document} {start stop : Position} (ordered : start ≤ stop)
    (nonempty : doc.selectedText ⟨start, stop⟩ ≠ "")
    (word : stop.line + 1 < Text.Decimal.wordLimit)
    : ∃ front back,
        doc.Encloses ⟨start, stop⟩ start.line (lineAfter ⟨start, stop⟩) front back := by
  obtain ⟨before, after⟩ : ∃ before, lineAfter ⟨start, stop⟩ = before := ⟨_, rfl⟩
  have next : before = stop.line + if 0 < stop.character then 1 else 0 :=
    after.symm.trans (lineAfter_eq word)
  have opens : (⟨start.line, 0⟩ : Position) ≤ start := by simp [Position.le_def]
  have closes : stop ≤ ⟨before, 0⟩ := by
    rw [next, Position.le_def]
    split
    · simp
    · simp only
      omega
  have onward : start ≤ ⟨before, 0⟩ := by
    rw [Position.le_def] at ordered closes ⊢
    omega
  obtain ⟨line, there⟩ := doc.exists_line? (start_of_nonempty nonempty).1
  have columns := toList_selectedText_line there 0 start.character
  rw [List.drop_zero] at columns
  obtain ⟨zero, last, terminator⟩ := doc.rest_of_line stop next
  rw [after]
  exact ⟨doc.selectedText ⟨⟨start.line, 0⟩, start⟩, doc.selectedText ⟨stop, ⟨before, 0⟩⟩, {
    whole := by
      rw [String.append_assoc, doc.selectedText_append ordered closes,
        doc.selectedText_append opens onward, selectedText_lines]
    first := rfl
    columns := ⟨line, there, columns⟩
    unfed := by
      intro inside
      rw [columns] at inside
      exact line?_notMem there (List.mem_of_mem_take inside)
    last := last
    terminator := terminator
    column_zero := zero
  }⟩

/-- The excerpt of a selection with a text is this text, between bounds that enclose it tightly;
the excerpt of a selection without a text is the whole document. -/
theorem selection_lines_enclose (doc : Document) (a b : Position)
    : let selection := Selection.between a b
      let excerpt := doc.excerpt none (some selection)
      (doc.selectedText selection = "" → excerpt = ⟨0, doc.lineCount, doc.text⟩)
      ∧ (doc.selectedText selection ≠ ""
          → selection.stop.line + 1 < Text.Decimal.wordLimit
          → excerpt.text = doc.selectedText selection
            ∧ ∃ front back, doc.Encloses selection excerpt.since excerpt.before front back) := by
  intro selection excerpt
  refine ⟨?_, ?_⟩
  · intro empty
    simp [excerpt, Document.excerpt, empty, Document.whole]
  · intro nonempty word
    have covered : excerpt = _ := doc.excerpt_selection nonempty
    rw [covered]
    exact ⟨rfl, exists_encloses (Selection.between_ordered a b) nonempty word⟩

/-- A selection that is given backwards, from the middle of a line to behind the columns of a line
above it; and one that covers only what is not there, behind the columns of a line. -/
theorem selection_lines_enclose_middle
    : ∃ doc : Document, ∃ a b c d : Position, ∃ front back,
        doc.text = "Đa\r\nbé c\r\n\nd"
        ∧ a = ⟨1, 2⟩
        ∧ b = ⟨0, 1⟩
        ∧ doc.selectedText (.between a b) ≠ ""
        ∧ (Selection.between a b).stop.line + 1 < Text.Decimal.wordLimit
        ∧ doc.excerpt none (some (.between a b)) = ⟨0, 2, "a\r\nbé"⟩
        ∧ doc.Encloses (.between a b) 0 2 front back
        ∧ c = ⟨0, 2⟩
        ∧ d = ⟨0, 7⟩
        ∧ doc.selectedText (.between c d) = ""
        ∧ doc.excerpt none (some (.between c d)) = ⟨0, 4, doc.text⟩ := by
  have covers : (⟨"demo", "Đa\r\nbé c\r\n\nd"⟩ : Document).selectedText
      (.between ⟨1, 2⟩ ⟨0, 1⟩) ≠ "" := by decide
  have nothing : (⟨"demo", "Đa\r\nbé c\r\n\nd"⟩ : Document).selectedText
      (.between ⟨0, 2⟩ ⟨0, 7⟩) = "" := by decide
  have word : (Selection.between ⟨1, 2⟩ ⟨0, 1⟩).stop.line + 1 < Text.Decimal.wordLimit := by decide
  obtain ⟨_, front, back, encloses⟩ := (selection_lines_enclose _ ⟨1, 2⟩ ⟨0, 1⟩).2 covers word
  have whole := (selection_lines_enclose _ ⟨0, 2⟩ ⟨0, 7⟩).1 nothing
  exact ⟨_, ⟨1, 2⟩, ⟨0, 1⟩, ⟨0, 2⟩, ⟨0, 7⟩, front, back, rfl, rfl, rfl, covers, word, by decide,
    encloses, rfl, rfl, nothing, whole⟩

end Document

end CellRunner
