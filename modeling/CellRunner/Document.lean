import CellRunner.Cell.Range
import CellRunner.Text.Decimal
import CellRunner.Text.Lines

/-!
A source document is a named text seen by lines. An excerpt is the part of it that a request
covers: a line range, a selection between two positions, or the whole text.
-/

namespace CellRunner

/-- A line and a number of characters within it, both from zero. -/
structure Position where
  line : Nat
  character : Nat
deriving DecidableEq, Repr

/-- The order in the text: by line, then by character. -/
def Position.isBefore (a b : Position) : Bool :=
  a.line < b.line || (a.line == b.line && a.character < b.character)

structure Selection where
  start : Position
  stop : Position
deriving DecidableEq, Repr

/-- The selection between two positions given in either order. -/
def Selection.between (a b : Position) : Selection :=
  if b.isBefore a then ⟨b, a⟩ else ⟨a, b⟩

/-- Text with the half-open bounds of the lines that it comes from. -/
structure Excerpt where
  since : Nat
  before : Nat
  text : String
deriving DecidableEq, Repr

structure Document where
  name : String
  text : String
deriving DecidableEq, Repr

namespace Document

def chars (doc : Document) : List Char :=
  doc.text.toList

/-- The lines with their terminators. -/
def pieces (doc : Document) : List (List Char) :=
  Text.pieces doc.chars

/-- A text that ends in a line feed has an empty last line, which counts. -/
def lineCount (doc : Document) : Nat :=
  doc.pieces.length

/-- The lines without their terminators. -/
def lines (doc : Document) : List String :=
  doc.pieces.map (fun piece => String.ofList (Text.unterminated piece))

def line? (doc : Document) (n : Nat) : Option String :=
  doc.lines[n]?

/-- The place of a line's first character in the text; past the last line, the text's end. -/
def lineStart (doc : Document) (n : Nat) : Nat :=
  (doc.pieces.take n).flatten.length

/-- The text of the lines `since` to `before`, the latter excluded, as far as they exist. -/
def textBetween (doc : Document) (since before : Nat) : String :=
  String.ofList ((doc.pieces.take before).drop since).flatten

/-- The place of a position in the text. A position past the end of its line is the end of
the line, in front of its terminator, and one past the last line is the end of the text. -/
def offset (doc : Document) (position : Position) : Nat :=
  match doc.pieces[position.line]? with
  | none => doc.chars.length
  | some piece =>
      doc.lineStart position.line + min position.character (Text.unterminated piece).length

def selectedText (doc : Document) (selection : Selection) : String :=
  let start := doc.offset selection.start
  String.ofList ((doc.chars.drop start).take (doc.offset selection.stop - start))

/-- The line behind a selection. A selection that stops in front of a line's first character
does not reach into that line. -/
def lineAfter (selection : Selection) : Nat :=
  if 0 < selection.stop.character then
    (selection.stop.line + 1) % Text.Decimal.wordLimit
  else selection.stop.line

def whole (doc : Document) : Excerpt :=
  ⟨0, doc.lineCount, doc.text⟩

/-- A range goes before a selection, and an empty selection counts as none. -/
def excerpt (doc : Document) (range : Option LineRange) (selection : Option Selection)
    : Excerpt :=
  match range, selection with
  | some range, _ =>
      let bounds := range.resolve doc.lineCount
      ⟨bounds.1, bounds.2, doc.textBetween bounds.1 bounds.2⟩
  | none, some selection =>
      let text := doc.selectedText selection
      if text.isEmpty then doc.whole
      else ⟨selection.start.line, lineAfter selection, text⟩
  | none, none => doc.whole

end Document

end CellRunner
