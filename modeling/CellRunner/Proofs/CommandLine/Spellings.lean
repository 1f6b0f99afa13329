import CellRunner.Proofs.CommandLine.SentRange
import CellRunner.Proofs.Document.SelectedText

/-!
The spellings of numbers, range ends and selections on the command line. An argument is read as
a value exactly if it spells that value; a value may have several spellings, and the printed one
is among them.
-/

namespace CellRunner

namespace Text.Decimal

/-- One digit or more, which make up a number. -/
structure Digits (text : List Char) (n : Nat) : Prop where
  nonempty : text ≠ []
  digits : ∀ c ∈ text, isDigit c = true
  value : value text = n

/-- Digits for a number below the word limit, with a plus sign in front of them or not. -/
structure Numeral (text : List Char) (n : Nat) : Prop where
  signed : ∃ digits, (text = digits ∨ text = '+' :: digits) ∧ Digits digits n
  word : n < wordLimit

theorem read?_eq_some_iff {text : List Char} {n : Nat}
    : read? text = some n ↔ Digits text n := by
  constructor
  · intro read
    obtain ⟨⟨nonempty, digits⟩, value⟩ : (text ≠ [] ∧ ∀ c ∈ text, isDigit c = true)
        ∧ Decimal.value text = n := by
      simpa [read?] using read
    exact ⟨nonempty, digits, value⟩
  · rintro ⟨nonempty, digits, value⟩
    have all : text.all isDigit = true := List.all_eq_true.mpr digits
    simp [read?, nonempty, all, value]

theorem readWord?_eq_some_iff {s : String} {n : Nat}
    : readWord? s = some n ↔ Numeral s.toList n := by
  have plus : isDigit '+' = false := by decide
  rw [readWord?]
  split
  · next rest signed =>
      simp only [Option.filter_eq_some_iff, decide_eq_true_eq, signed, read?_eq_some_iff]
      constructor
      · rintro ⟨number, word⟩
        exact ⟨⟨rest, .inr rfl, number⟩, word⟩
      · rintro ⟨⟨digits, spelled, number⟩, word⟩
        rcases spelled with rfl | same
        · -- A plus sign is no digit, so it cannot be the first of them.
          have digit := number.digits '+' List.mem_cons_self
          rw [plus] at digit
          contradiction
        · obtain rfl : rest = digits := by simpa using same
          exact ⟨number, word⟩
  · next unsigned =>
      simp only [Option.filter_eq_some_iff, decide_eq_true_eq, read?_eq_some_iff]
      constructor
      · rintro ⟨number, word⟩
        exact ⟨⟨_, .inl rfl, number⟩, word⟩
      · rintro ⟨⟨digits, spelled, number⟩, word⟩
        rcases spelled with same | signed
        · exact ⟨same ▸ number, word⟩
        · exact absurd signed (unsigned digits)

theorem Numeral.write {n : Nat} (word : n < wordLimit)
    : Numeral (write n).toList n :=
  readWord?_eq_some_iff.mp (readWord?_write word)

/-- A numeral holds digits and perhaps a plus sign, so nothing that separates numerals. -/
theorem Numeral.notMem {text : List Char} {n : Nat} (h : Numeral text n) {c : Char}
    (other : isDigit c = false) (notPlus : c ≠ '+')
    : c ∉ text := by
  obtain ⟨digits, spelled, number⟩ := h.signed
  have notDigit : c ∉ digits := by
    intro inside
    rw [number.digits c inside] at other
    contradiction
  rcases spelled with rfl | rfl
  · exact notDigit
  · simp [notDigit, notPlus]

end Text.Decimal

namespace CommandLine

open Text.Decimal (Numeral)

def SpellsNumber (text : String) (n : Nat) : Prop :=
  Numeral text.toList n

/-- The end of a range is spelled as a line's number, or as one of two words for the end of the
document. -/
inductive SpellsEnd : String → RangeEnd → Prop where
  | line {text n} (number : SpellsNumber text n) : SpellsEnd text (.line n)
  | word : SpellsEnd "end" .endOfDocument
  | sign : SpellsEnd "-1" .endOfDocument

/-- A line and a character with a colon between them. -/
def SpellsPosition (text : List Char) (position : Position) : Prop :=
  ∃ line character,
    text = line ++ ':' :: character
    ∧ Numeral line position.line
    ∧ Numeral character position.character

/-- Two positions with a dash between them, for the selection that is between them. -/
def SpellsSelection (text : String) (selection : Selection) : Prop :=
  ∃ first second a b,
    text.toList = first ++ '-' :: second
    ∧ SpellsPosition first a
    ∧ SpellsPosition second b
    ∧ selection = .between a b

theorem readRangeEnd?_eq_some_iff {text : String} {stop : RangeEnd}
    : readRangeEnd? text = some stop ↔ SpellsEnd text stop := by
  have name : Text.Decimal.readWord? "end" = none := by decide
  have sign : Text.Decimal.readWord? "-1" = none := by decide
  constructor
  · intro read
    simp only [readRangeEnd?, Bool.or_eq_true, decide_eq_true_eq] at read
    split at read
    · next special =>
        obtain rfl := Option.some.inj read
        rcases special with rfl | rfl
        · exact .word
        · exact .sign
    · obtain ⟨n, number, rfl⟩ := Option.map_eq_some_iff.mp read
      exact .line (Text.Decimal.readWord?_eq_some_iff.mp number)
  · rintro (number | _ | _)
    · have read := Text.Decimal.readWord?_eq_some_iff.mpr number
      have numeral : ¬ (text = "end" ∨ text = "-1") := by
        rintro (rfl | rfl)
        · simp [name] at read
        · simp [sign] at read
      simp only [readRangeEnd?, Bool.or_eq_true, decide_eq_true_eq, numeral, if_false, read,
        Option.map_some]
    · decide
    · decide

theorem readPosition?_eq_some_iff {text : List Char} {position : Position}
    : readPosition? text = some position ↔ SpellsPosition text position := by
  simp only [readPosition?, bind, pure, Option.bind_eq_some_iff, Prod.exists]
  constructor
  · rintro ⟨line, character, cut, n, readLine, m, readCharacter, same⟩
    obtain rfl := Option.some.inj same
    refine ⟨line, character, (Text.cutAt_eq_some_iff.mp cut).1, ?_, ?_⟩
    · simpa using Text.Decimal.readWord?_eq_some_iff.mp readLine
    · simpa using Text.Decimal.readWord?_eq_some_iff.mp readCharacter
  · rintro ⟨line, character, rfl, spelledLine, spelledCharacter⟩
    have separate : ':' ∉ line := spelledLine.notMem (by decide) (by decide)
    refine ⟨line, character, Text.cutAt_eq_some_iff.mpr ⟨rfl, separate⟩, position.line, ?_,
      position.character, ?_, rfl⟩
    · exact Text.Decimal.readWord?_eq_some_iff.mpr (by simpa using spelledLine)
    · exact Text.Decimal.readWord?_eq_some_iff.mpr (by simpa using spelledCharacter)

/-- A position holds no dash, so the first dash is the one between the positions. -/
theorem SpellsPosition.notMem_dash {text : List Char} {position : Position}
    (h : SpellsPosition text position)
    : '-' ∉ text := by
  obtain ⟨line, character, rfl, spelledLine, spelledCharacter⟩ := h
  have inLine : '-' ∉ line := spelledLine.notMem (by decide) (by decide)
  have inCharacter : '-' ∉ character := spelledCharacter.notMem (by decide) (by decide)
  simp [inLine, inCharacter]

theorem readSelection?_eq_some_iff {text : String} {selection : Selection}
    : readSelection? text = some selection ↔ SpellsSelection text selection := by
  simp only [readSelection?, bind, pure, Option.bind_eq_some_iff, Prod.exists]
  constructor
  · rintro ⟨first, second, cut, a, readFirst, b, readSecond, same⟩
    exact ⟨first, second, a, b, (Text.cutAt_eq_some_iff.mp cut).1,
      readPosition?_eq_some_iff.mp readFirst, readPosition?_eq_some_iff.mp readSecond,
      (Option.some.inj same).symm⟩
  · rintro ⟨first, second, a, b, whole, spelledFirst, spelledSecond, rfl⟩
    exact ⟨first, second, Text.cutAt_eq_some_iff.mpr ⟨whole, spelledFirst.notMem_dash⟩, a,
      readPosition?_eq_some_iff.mpr spelledFirst, b, readPosition?_eq_some_iff.mpr spelledSecond,
      rfl⟩

-----------------------------------------------------------------------------------------
-- Printed values
-----------------------------------------------------------------------------------------

/-- The numbers of a position are machine words. -/
structure PositionFits (position : Position) : Prop where
  line : position.line < Text.Decimal.wordLimit
  character : position.character < Text.Decimal.wordLimit

def positionText (position : Position) : String :=
  Text.Decimal.write position.line ++ ":" ++ Text.Decimal.write position.character

def selectionText (selection : Selection) : String :=
  positionText selection.start ++ "-" ++ positionText selection.stop

theorem spellsPosition_text {position : Position} (fits : PositionFits position)
    : SpellsPosition (positionText position).toList position := by
  refine ⟨_, _, ?_, .write fits.line, .write fits.character⟩
  simp [positionText]

/-- A selection whose positions are in order is spelled by the text that shows it. -/
theorem spellsSelection_text {selection : Selection} (start : PositionFits selection.start)
    (stop : PositionFits selection.stop) (ordered : selection.start ≤ selection.stop)
    : SpellsSelection (selectionText selection) selection := by
  have uncrossed : ¬ selection.stop.isBefore selection.start :=
    fun crossed => Position.isBefore_iff.mp crossed ordered
  refine ⟨_, _, selection.start, selection.stop, ?_, spellsPosition_text start,
    spellsPosition_text stop, ?_⟩
  · simp [selectionText]
  · rw [Selection.between, if_neg uncrossed]

end CommandLine

end CellRunner
