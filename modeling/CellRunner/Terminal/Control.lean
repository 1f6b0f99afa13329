import CellRunner.Text.Decimal

/-!
What a program writes to a terminal: text, and control sequences that move the cursor, set
colours and switch modes. Every sequence begins with the escape character.
-/

namespace CellRunner

structure Color where
  red : Nat
  green : Nat
  blue : Nat
deriving DecidableEq, Repr

inductive Output where
  | text (s : String)
  /-- Column and row are counted from zero. -/
  | moveTo (column row : Nat)
  | background (color : Color)
  | foreground (color : Color)
  | resetColors
  | clear
  | showCursor
  | hideCursor
  | enterAlternateScreen
  | leaveAlternateScreen
deriving DecidableEq, Repr

namespace Output

def sequence (body : String) : String :=
  "\x1b[" ++ body

def Color.parameters (color : Color) : String :=
  ";".intercalate ([color.red, color.green, color.blue].map Text.Decimal.write)

/-- The characters that are written. Rows and columns count from one on the wire, the row
first. -/
def encode : Output → String
  | .text s => s
  | .moveTo column row =>
      sequence (Text.Decimal.write (row + 1) ++ ";" ++ Text.Decimal.write (column + 1) ++ "H")
  | .background color => sequence ("48;2;" ++ Color.parameters color ++ "m")
  | .foreground color => sequence ("38;2;" ++ Color.parameters color ++ "m")
  | .resetColors => sequence "0m"
  | .clear => sequence "2J"
  | .showCursor => sequence "?25h"
  | .hideCursor => sequence "?25l"
  | .enterAlternateScreen => sequence "?1049h"
  | .leaveAlternateScreen => sequence "?1049l"

def encodeAll (outputs : List Output) : String :=
  String.join (outputs.map encode)

end Output

end CellRunner
