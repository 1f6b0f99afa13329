import CellRunner.Proofs.Document.RangeFrame

/-!
Bounds behind the end of a document. The text of an excerpt ends with the document, but its
bounds are counted as they are stated, so a frame is the one for the clamped bounds only if no
line is counted that the document does not have.
-/

namespace CellRunner

namespace Document

/-- The frame of a part of a document, as it is planned from the bounds of the part's excerpt. -/
abbrev frame? (doc : Document) (name : String) (range : Option LineRange)
    (selection : Option Selection) : Option Frame :=
  Frame.ofExcerpt? (doc.excerpt range selection) doc.lineCount name

-----------------------------------------------------------------------------------------
-- Line ranges
-----------------------------------------------------------------------------------------

/-- The range with both bounds moved into the document. -/
def clampedLines (doc : Document) (since before : Nat) : LineRange :=
  .lines (min since doc.lineCount) (min before doc.lineCount)

/-- The text between two lines does not change when they are moved into the document. -/
theorem textBetween_clamped (doc : Document) (since before : Nat)
    : doc.textBetween (min since doc.lineCount) (min before doc.lineCount)
      = doc.textBetween since before := by
  have stop : doc.pieces.take (min before doc.lineCount) = doc.pieces.take before := by
    rw [lineCount, List.take_eq_take_iff]
    omega
  have start : (doc.pieces.take before).drop (min since doc.lineCount)
      = (doc.pieces.take before).drop since := by
    rcases Nat.le_total since doc.lineCount with inside | past
    · rw [Nat.min_eq_left inside]
    · have short : (doc.pieces.take before).length ≤ doc.lineCount := List.length_take_le' before _
      rw [Nat.min_eq_right past, List.drop_eq_nil_of_le short,
        List.drop_eq_nil_of_le (Nat.le_trans short past)]
  rw [textBetween, textBetween, stop, start]

/-- A range is framed like the clamped one exactly if it stops in the document, or if it would
hold no line anyway. -/
theorem frame?_lines_eq_clamped_iff (doc : Document) (name : String) {since before : Nat}
    (few : doc.lineCount < 2 ^ 63) (hs : since < 2 ^ 63) (hb : before < 2 ^ 63)
    (selection : Option Selection)
    : doc.frame? name (some (.lines since before)) selection
        = doc.frame? name (some (doc.clampedLines since before)) selection
      ↔ before ≤ doc.lineCount ∨ before ≤ since + 1 := by
  have clamped : doc.excerpt (some (doc.clampedLines since before)) selection
      = ⟨min since doc.lineCount, min before doc.lineCount, doc.textBetween since before⟩ := by
    rw [← textBetween_clamped]
    rfl
  have stated : doc.excerpt (some (.lines since before)) selection
      = ⟨since, before, doc.textBetween since before⟩ :=
    rfl
  unfold frame?
  rw [clamped, stated, Frame.ofExcerpt?_eq _ _ _ hs hb,
    Frame.ofExcerpt?_eq _ _ _ (by omega) (by omega)]
  rcases Nat.lt_or_ge doc.lineCount before with past | inside
  · -- Both bounds count as the end, so the counts differ by the lines behind the document.
    rw [Nat.min_eq_right (Nat.le_of_lt past), if_pos (Nat.le_of_lt past), if_pos (Nat.le_refl _)]
    constructor
    · intro same
      split at same
      · next few => exact .inr few
      · split at same
        · cases same
        · have counts := congrArg Frame.lineCount (Option.some.inj same)
          simp only at counts
          omega
    · intro none
      rw [if_pos (by omega), if_pos (by omega)]
  · -- Only `since` may be moved, and then neither range has a line.
    rw [Nat.min_eq_left inside]
    refine iff_of_true ?_ (.inl inside)
    rcases Nat.le_total since doc.lineCount with front | behind
    · rw [Nat.min_eq_left front]
    · rw [Nat.min_eq_right behind, if_pos (by omega), if_pos (by omega)]

/-- A range behind the end that would hold a line in a longer document is framed with that line,
whatever text there is. -/
theorem frame?_lines_past (doc : Document) (name : String) {since before : Nat}
    (hs : since < 2 ^ 63) (hb : before < 2 ^ 63) (past : doc.lineCount < before)
    (counts : since + 1 < before) (selection : Option Selection)
    : doc.frame? name (some (.lines since before)) selection
      = some ⟨before - since - 1, since + 1, name, doc.textBetween since before⟩ := by
  refine (Frame.ofExcerpt?_eq (doc.textBetween since before) _ _ hs hb).trans ?_
  rw [if_pos (Nat.le_of_lt past), if_neg (by omega)]

/-- A frame of a range that stops in the document has a text, and it announces no more lines than
its text has. -/
theorem lineCount_le_of_inside (doc : Document) (name : String) {since before : Nat}
    (few : doc.lineCount < 2 ^ 63) (hs : since < 2 ^ 63) (inside : before ≤ doc.lineCount)
    (selection : Option Selection) {frame : Frame}
    (planned
      : doc.frame? name (some (.lines since before)) selection
        = some frame)
    : frame.text ≠ "" ∧ frame.lineCount ≤ (Text.outputLines frame.text.toList).length := by
  have carried := carries_of_ofExcerpt? few hs inside planned
  have counted : frame.lineCount = frame.text.toList.count '\n' := by
    rw [carried.text, carried.lineCount]
  have positive := Frame.lineCount_pos planned
  refine ⟨?_, ?_⟩
  · rintro nothing
    simp [nothing] at counted
    omega
  · rw [counted, Text.length_outputLines]
    exact Nat.le_add_right _ _

-----------------------------------------------------------------------------------------
-- Selections
-----------------------------------------------------------------------------------------

/-- The end of the last line. -/
def lastPosition (doc : Document) : Position :=
  ⟨doc.lineCount - 1, ((doc.line? (doc.lineCount - 1)).getD "").length⟩

/-- A carriage return at the end of the text is not a part of the last line, and no line feed
follows it either. -/
def EndsInReturn (doc : Document) : Prop :=
  doc.chars.getLast? = some '\r'

instance (doc : Document) : Decidable doc.EndsInReturn :=
  inferInstanceAs (Decidable (_ = _))

theorem toList_selectedText (doc : Document) (selection : Selection)
    : (doc.selectedText selection).toList
      = (doc.chars.drop (doc.offset selection.start)).take
          (doc.offset selection.stop - doc.offset selection.start) := by
  rw [selectedText, String.toList_ofList]

theorem offset_past (doc : Document) {position : Position}
    (past : doc.lineCount ≤ position.line)
    : doc.offset position = doc.chars.length := by
  rw [offset, List.getElem?_eq_none past]

/-- The end of the last line is the end of the text, or in front of the carriage return there. -/
theorem offset_lastPosition (doc : Document)
    : doc.offset doc.lastPosition
      = doc.chars.length - if doc.EndsInReturn then 1 else 0 := by
  obtain ⟨full, last, cut, terminated, absent⟩ := Text.exists_pieces doc.chars
  have whole : doc.chars = full.flatten ++ last := Text.eq_flatten_append cut
  have total : doc.lineCount = full.length + 1 := by
    simp [lineCount, pieces, cut]
  have final : doc.pieces[full.length]? = some last := by
    simp [pieces, cut]
  have unfed : Text.unterminated last = Text.withoutLast '\r' last := by
    rw [Text.unterminated, Text.withoutLast_of_notMem absent]
  have returns : doc.EndsInReturn ↔ last.getLast? = some '\r' := by
    rw [EndsInReturn, whole]
    rcases List.eq_nil_or_concat last with rfl | ⟨init, c, rfl⟩
    · have closed := (Text.closed_flatten_append terminated absent).mpr rfl
      rcases closed with none | ends
      · simp [none]
      · rw [ends]
        simp
    · simp
  have line : doc.line? full.length = some (String.ofList (Text.unterminated last)) := by
    rw [line?_eq, final, Option.map_some]
  have start : doc.lineStart full.length = full.flatten.length := by
    simp [lineStart, pieces, cut]
  simp only [lastPosition, total, Nat.add_sub_cancel, line, Option.getD_some, String.length_ofList,
    offset, final, start, Nat.min_self, unfed, Text.withoutLast, returns, whole,
    List.length_append]
  split
  · next ends =>
      have nonempty : 0 < last.length := List.length_pos_of_mem (List.mem_of_getLast? ends)
      rw [List.length_dropLast]
      omega
  · omega

/-- The selection with its end moved to the end of the last line. -/
def pulledBack (doc : Document) (selection : Selection) : Selection :=
  ⟨selection.start, doc.lastPosition⟩

theorem excerpt_selection (doc : Document) {selection : Selection}
    (nonempty : doc.selectedText selection ≠ "")
    : doc.excerpt none (some selection)
      = ⟨selection.start.line, lineAfter selection, doc.selectedText selection⟩ := by
  simp [excerpt, nonempty]

/-- A selection with a text starts in the document. -/
theorem start_of_nonempty {doc : Document} {selection : Selection}
    (nonempty : doc.selectedText selection ≠ "")
    : selection.start.line < doc.lineCount
      ∧ doc.offset selection.start < doc.chars.length := by
  have long : doc.offset selection.start < doc.chars.length := by
    apply Nat.lt_of_not_le
    intro behind
    apply nonempty
    apply String.toList_inj.mp
    rw [toList_selectedText, List.drop_eq_nil_of_le behind]
    simp
  refine ⟨?_, long⟩
  apply Nat.lt_of_not_le
  intro behind
  exact absurd (offset_past doc behind) (Nat.ne_of_lt long)

theorem toList_selectedText_past {doc : Document} {selection : Selection}
    (past : doc.lineCount ≤ selection.stop.line)
    : (doc.selectedText selection).toList = doc.chars.drop (doc.offset selection.start) := by
  rw [toList_selectedText, offset_past doc past, ← List.length_drop, List.take_length]

theorem toList_selectedText_pulledBack (doc : Document) (selection : Selection)
    : (doc.selectedText (doc.pulledBack selection)).toList
      = (doc.chars.drop (doc.offset selection.start)).take
          (doc.chars.length - (if doc.EndsInReturn then 1 else 0)
            - doc.offset selection.start) := by
  rw [toList_selectedText, pulledBack, offset_lastPosition]

/-- Without a carriage return at the end, a selection of the rest of the text covers the same. -/
theorem selectedText_pulledBack {doc : Document} {selection : Selection}
    (past : doc.lineCount ≤ selection.stop.line) (unreturned : ¬ doc.EndsInReturn)
    : doc.selectedText (doc.pulledBack selection) = doc.selectedText selection := by
  apply String.toList_inj.mp
  rw [toList_selectedText_past past, toList_selectedText_pulledBack, if_neg unreturned,
    Nat.sub_zero, ← List.length_drop, List.take_length]

theorem lineAfter_eq {selection : Selection}
    (word : selection.stop.line + 1 < Text.Decimal.wordLimit)
    : lineAfter selection
      = selection.stop.line + if 0 < selection.stop.character then 1 else 0 := by
  unfold lineAfter
  split
  · exact Nat.mod_eq_of_lt word
  · rfl

/-- The frame of a selection that stops behind the end counts up to the line where it stops. -/
theorem frame?_selection_past {doc : Document} {selection : Selection} (name : String)
    (nonempty : doc.selectedText selection ≠ "") (past : doc.lineCount ≤ selection.stop.line)
    (word : selection.stop.line + 1 < 2 ^ 63)
    : doc.frame? name none (some selection)
      = if lineAfter selection ≤ selection.start.line + 1 then none
        else
          some
            ⟨lineAfter selection - selection.start.line - 1, selection.start.line + 1, name,
              doc.selectedText selection⟩ := by
  have start := (start_of_nonempty nonempty).1
  have after : doc.lineCount ≤ lineAfter selection ∧ lineAfter selection < 2 ^ 63 := by
    rw [lineAfter_eq (Text.Decimal.lt_wordLimit (Nat.le_of_lt word))]
    split <;> omega
  unfold frame?
  rw [excerpt_selection doc nonempty, Frame.ofExcerpt?_eq _ _ _ (by omega) after.2,
    if_pos after.1]

/-- The frame of a selection that stops at the end of the last line counts all lines in front of
the last one. -/
theorem frame?_selection_pulledBack {doc : Document} {selection : Selection} (name : String)
    (few : doc.lineCount < 2 ^ 63) (start : selection.start.line < doc.lineCount)
    (nonempty : doc.selectedText (doc.pulledBack selection) ≠ "")
    : doc.frame? name none (some (doc.pulledBack selection))
      = if doc.lineCount ≤ selection.start.line + 1 then none
        else
          some
            ⟨doc.lineCount - selection.start.line - 1, selection.start.line + 1, name,
              doc.selectedText (doc.pulledBack selection)⟩ := by
  have positive := doc.lineCount_pos
  have after : lineAfter (doc.pulledBack selection) = doc.lineCount
      ∨ lineAfter (doc.pulledBack selection) = doc.lineCount - 1 := by
    have stopped : (doc.pulledBack selection).stop.line = doc.lineCount - 1 := rfl
    rw [lineAfter_eq (Text.Decimal.lt_wordLimit (by omega)), stopped]
    by_cases inner : 0 < (doc.pulledBack selection).stop.character
    · exact .inl (by rw [if_pos inner]; omega)
    · exact .inr (by rw [if_neg inner]; omega)
  have start' : (doc.pulledBack selection).start = selection.start := rfl
  unfold frame?
  rw [excerpt_selection doc nonempty, start']
  rcases after with end_ | front
  · rw [end_, Frame.ofExcerpt?_eq _ _ _ (by omega) few, if_pos (Nat.le_refl _)]
  · -- Nothing but the stop is on the last line, which then needs no correction.
    rw [front, Frame.ofExcerpt?_eq _ _ _ (by omega) (by omega),
      if_neg (show ¬ doc.lineCount ≤ doc.lineCount - 1 by omega)]
    have none : doc.lineCount - 1 ≤ selection.start.line + 0
        ↔ doc.lineCount ≤ selection.start.line + 1 := by
      omega
    have count : doc.lineCount - 1 - selection.start.line - 0
        = doc.lineCount - selection.start.line - 1 := by
      omega
    simp only [none, count]

/-- The frame of the selection that is moved back, which is the whole document's if only the
carriage return at the end was selected. Where that carriage return is left out, a frame does not
hold the same text. -/
theorem exists_frame?_pulledBack {doc : Document} {selection : Selection} (name : String)
    (few : doc.lineCount < 2 ^ 63) (nonempty : doc.selectedText selection ≠ "")
    (past : doc.lineCount ≤ selection.stop.line)
    : ∃ since text,
        since ≤ selection.start.line
        ∧ doc.frame? name none (some (doc.pulledBack selection))
          = (if doc.lineCount ≤ since + 1 then none
              else some ⟨doc.lineCount - since - 1, since + 1, name, text⟩)
        ∧ (¬ doc.EndsInReturn
            → since = selection.start.line ∧ text = doc.selectedText selection)
        ∧ (doc.EndsInReturn → text = doc.selectedText selection → doc.lineCount ≤ since + 1) := by
  obtain ⟨start, long⟩ := start_of_nonempty nonempty
  have stated := congrArg List.length (toList_selectedText_past past)
  have back := congrArg List.length (doc.toList_selectedText_pulledBack selection)
  simp only [List.length_take, List.length_drop] at stated back
  by_cases remains : doc.selectedText (doc.pulledBack selection) = ""
  · have whole : doc.excerpt none (some (doc.pulledBack selection))
        = ⟨0, doc.lineCount, doc.text⟩ := by
      simp [excerpt, remains, Document.whole]
    refine ⟨0, doc.text, Nat.zero_le _, ?_, ?_, ?_⟩
    · unfold frame?
      rw [whole, Frame.ofExcerpt?_eq _ _ _ (by omega) few, if_pos (Nat.le_refl _)]
    · intro unreturned
      rw [selectedText_pulledBack past unreturned] at remains
      exact absurd remains nonempty
    · -- The whole text is a carriage return, so there is only one line.
      intro returned same
      have total : doc.chars.length = doc.chars.length - doc.offset selection.start := by
        rw [← stated, ← same]
        rfl
      rw [remains, if_pos returned] at back
      have single : doc.chars.length = 1 := by
        simp only [String.toList_empty, List.length_nil] at back
        omega
      obtain ⟨c, only⟩ := List.length_eq_one_iff.mp single
      have feeds : doc.lineCount = doc.chars.count '\n' + 1 := Text.length_pieces doc.chars
      rw [EndsInReturn, only] at returned
      obtain rfl := Option.some.inj returned
      rw [feeds, only]
      decide
  · refine ⟨selection.start.line, _, Nat.le_refl _,
      frame?_selection_pulledBack name few start remains, ?_, ?_⟩
    · exact fun unreturned => ⟨rfl, selectedText_pulledBack past unreturned⟩
    · intro returned same
      rw [same, stated, if_pos returned] at back
      omega

/-- A selection that stops behind the end is framed like the one that is moved back exactly if it
stops right behind the last line, and if the text has no carriage return there that would be left
out of a frame. -/
theorem frame?_selection_eq_pulledBack_iff (doc : Document) (name : String)
    (few : doc.lineCount < 2 ^ 63) {selection : Selection}
    (nonempty : doc.selectedText selection ≠ "") (past : doc.lineCount ≤ selection.stop.line)
    (word : selection.stop.line + 1 < 2 ^ 63)
    : doc.frame? name none (some selection)
        = doc.frame? name none (some (doc.pulledBack selection))
      ↔ selection.stop = ⟨doc.lineCount, 0⟩
        ∧ (¬ doc.EndsInReturn
            ∨ doc.frame? name none (some (doc.pulledBack selection)) = none) := by
  have start := (start_of_nonempty nonempty).1
  have reach : doc.lineCount ≤ lineAfter selection := by
    rw [lineAfter_eq (Text.Decimal.lt_wordLimit (Nat.le_of_lt word))]
    omega
  have behind : lineAfter selection = doc.lineCount ↔ selection.stop = ⟨doc.lineCount, 0⟩ := by
    rw [lineAfter_eq (Text.Decimal.lt_wordLimit (Nat.le_of_lt word))]
    rcases selection with ⟨_, ⟨line, character⟩⟩
    simp only [Position.mk.injEq] at past ⊢
    split <;> omega
  obtain ⟨since, text, front, back, unreturned, returned⟩ :=
    exists_frame?_pulledBack name few nonempty past
  rw [frame?_selection_past name nonempty past word, back, ← behind]
  constructor
  · intro same
    split at same
    · next none => exact ⟨by omega, .inr same.symm⟩
    · split at same
      · cases same
      · next counts =>
          obtain ⟨counted, first, _, covered⟩ := Frame.mk.inj (Option.some.inj same)
          exact ⟨by omega, .inl (fun ends => counts (returned ends covered.symm))⟩
  · rintro ⟨stop, unreturned' | none⟩
    · obtain ⟨rfl, rfl⟩ := unreturned unreturned'
      rw [stop]
    · split at none
      · next few => rw [if_pos (by omega), if_pos few]
      · cases none

-----------------------------------------------------------------------------------------
-- Bounds behind the end
-----------------------------------------------------------------------------------------

/-- Bounds behind the end of a document are framed as if they were clamped exactly where they
count no line behind the end, and frames within the document never announce more than they hold.
All other ranges are framed with every line up to their bound. -/
theorem clamped_frame_iff (doc : Document) (name : String) (few : doc.lineCount < 2 ^ 63)
    : (∀ since before selection,
        since < 2 ^ 63
        → before < 2 ^ 63
        → (doc.frame? name (some (.lines since before)) selection
              = doc.frame? name (some (doc.clampedLines since before)) selection
            ↔ before ≤ doc.lineCount ∨ before ≤ since + 1)
          ∧ (before ≤ doc.lineCount
              → ∀ frame,
                  doc.frame? name (some (.lines since before)) selection = some frame
                  → frame.text ≠ ""
                    ∧ frame.lineCount ≤ (Text.outputLines frame.text.toList).length)
          ∧ (doc.lineCount < before
              → since + 1 < before
              → doc.frame? name (some (.lines since before)) selection
                  = some ⟨before - since - 1, since + 1, name, doc.textBetween since before⟩))
      ∧ ∀ selection,
          doc.selectedText selection ≠ ""
          → doc.lineCount ≤ selection.stop.line
          → selection.stop.line + 1 < 2 ^ 63
          → (doc.frame? name none (some selection)
                = doc.frame? name none (some (doc.pulledBack selection))
              ↔ selection.stop = ⟨doc.lineCount, 0⟩
                ∧ (¬ doc.EndsInReturn
                    ∨ doc.frame? name none (some (doc.pulledBack selection)) = none)) := by
  refine ⟨?_, ?_⟩
  · intro since before selection hs hb
    exact ⟨frame?_lines_eq_clamped_iff doc name few hs hb selection,
      fun inside _ planned => lineCount_le_of_inside doc name few hs inside selection planned,
      fun past counts => frame?_lines_past doc name hs hb past counts selection⟩
  · intro selection nonempty past word
    exact frame?_selection_eq_pulledBack_iff doc name few nonempty past word

/-- A selection that stops right behind an unterminated last line is framed like the one that
stops at its end, and a range to the end of the document has nothing to clamp. -/
theorem clamped_frame_unterminated
    : ∃ doc : Document, ∃ selection : Selection,
        doc.text = "ab\ncd"
        ∧ selection = ⟨⟨0, 1⟩, ⟨2, 0⟩⟩
        ∧ doc.lineCount < 2 ^ 63
        ∧ doc.selectedText selection ≠ ""
        ∧ doc.lineCount ≤ selection.stop.line
        ∧ selection.stop.line + 1 < 2 ^ 63
        ∧ doc.frame? doc.name none (some selection)
            = doc.frame? doc.name none (some (doc.pulledBack selection))
        ∧ doc.frame? doc.name (some (.lines 0 2)) none
            = doc.frame? doc.name (some (doc.clampedLines 0 2)) none := by
  have lines : (⟨"demo", "ab\ncd"⟩ : Document).lineCount = 2 := by decide
  have few : (⟨"demo", "ab\ncd"⟩ : Document).lineCount < 2 ^ 63 := by simp [lines]
  have covers : (⟨"demo", "ab\ncd"⟩ : Document).selectedText ⟨⟨0, 1⟩, ⟨2, 0⟩⟩ ≠ "" := by decide
  have past : (⟨"demo", "ab\ncd"⟩ : Document).lineCount ≤ 2 := by simp [lines]
  have clamped := clamped_frame_iff ⟨"demo", "ab\ncd"⟩ "demo" few
  exact ⟨_, _, rfl, rfl, few, covers, past, by decide,
    (clamped.2 ⟨⟨0, 1⟩, ⟨2, 0⟩⟩ covers past (by decide)).mpr (by decide),
    (clamped.1 0 2 none (by decide) (by decide)).1.mpr (by decide)⟩

/-- A bound far behind the end of a document of two lines announces lines that there are not. -/
theorem past_bound_announced
    : ¬ ∀ doc : Document, ∀ since before,
          doc.lineCount < 2 ^ 63
          → since < 2 ^ 63
          → before < 2 ^ 63
          → doc.frame? doc.name (some (.lines since before)) none
            = doc.frame? doc.name (some (doc.clampedLines since before)) none := by
  intro all
  have lines : (⟨"a.edh", "a\nb\n"⟩ : Document).lineCount = 3 := by decide
  have same := all ⟨"a.edh", "a\nb\n"⟩ 0 99 (by simp [lines]) (by decide) (by decide)
  exact absurd same (by decide)

end Document

end CellRunner
