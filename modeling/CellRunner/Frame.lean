import CellRunner.Document

/-!
The message that is pasted into a session: a header with the number of lines, the number of
the first one and the source's name, and then the text. Reading a message back takes its first
line as the header and everything after it as the text.
-/

namespace CellRunner

structure Frame where
  lineCount : Nat
  /-- The number of the first line, counted from one. -/
  firstLine : Nat
  sourceName : String
  text : String
deriving DecidableEq, Repr

namespace Frame

/-- The two's-complement value of a difference of line numbers. It wraps around as in a release
build; a debug build panics instead. -/
def signedWord (n : Int) : Int :=
  Int.bmod n Text.Decimal.wordLimit

/-- The number of lines between two bounds in the signed 64-bit arithmetic of a release build,
which wraps around where a debug build panics. A range that reaches the end of the document counts
one line fewer, for the empty line behind the last terminator. -/
def countLines (since before totalLines : Nat) : Int :=
  signedWord (before - since - if totalLines ≤ before then 1 else 0)

/-- The frame of an excerpt, or nothing when it counts less than one line. -/
def ofExcerpt? (excerpt : Excerpt) (totalLines : Nat) (sourceName : String) : Option Frame :=
  let count := countLines excerpt.since excerpt.before totalLines
  if count < 1 then none
  else
    some
      { lineCount := count.toNat,
        firstLine := (excerpt.since + 1) % Text.Decimal.wordLimit,
        sourceName := sourceName,
        text := excerpt.text }

def header (frame : Frame) : String :=
  "%%paste " ++ Text.Decimal.write frame.lineCount ++ " " ++ Text.Decimal.write frame.firstLine
    ++ " " ++ frame.sourceName

def render (frame : Frame) : String :=
  frame.header ++ "\n" ++ frame.text

/-- Reads a message: the header is split at its first three blanks only, so a source name
may hold blanks. -/
def read? (message : String) : Option Frame := do
  let (head, text) ← Text.cutAt '\n' message.toList
  match Text.fieldsUpTo ' ' 3 head with
  | [tag, count, first, name] =>
      if tag = "%%paste".toList then
        return ⟨← Text.Decimal.read? count, ← Text.Decimal.read? first, String.ofList name,
          String.ofList text⟩
      else none
  | _ => none

end Frame

end CellRunner
