import CellRunner.Picker.Basic
import CellRunner.Terminal.Control
import CellRunner.Text.Width

/-!
The picker drawn as a box in the middle of the terminal: a title row, the query, a separator,
the visible items and a row of help. Every row is as wide as the box whatever its texts are,
and nothing is drawn on a terminal too small for the box. How wide the characters are is up to
the terminal.
-/

namespace CellRunner.Picker

structure Colors where
  background : Color := ⟨0, 0, 139⟩
  foreground : Color := ⟨255, 255, 255⟩
  selectedBackground : Color := ⟨255, 255, 255⟩
  selectedForeground : Color := ⟨0, 0, 0⟩
  query : Color := ⟨200, 200, 0⟩
  hint : Color := ⟨150, 150, 150⟩

def colors : Colors := {}

/-- Where the box lies. -/
structure Box where
  left : Nat
  top : Nat
  width : Nat
  height : Nat
deriving DecidableEq, Repr

/-- The box takes at most 72 columns and a row for every item and four more, and leaves two
columns and one row free on each side. -/
def box? (picker : Picker) (columns rows : Nat) : Option Box :=
  let width := min 72 (columns - 4)
  let height := min (picker.maxVisible + 4) (rows - 2)
  if width < 16 || height < 5 then none
  else some ⟨(columns - width) / 2, (rows - height) / 2, width, height⟩

namespace Box

/-- The row of the box's bottom border. -/
def bottom (box : Box) : Nat :=
  box.top + box.height - 1

end Box

variable (widths : Text.Widths)

/-- Fits a text, and gives its width besides. -/
def fitText (s : String) (limit : Nat) : String × Nat :=
  let fitted := widths.fit s.toList limit
  (String.ofList fitted.1, fitted.2)

def blanks (n : Nat) : String :=
  String.ofList (List.replicate n ' ')

def rule (n : Nat) : String :=
  String.ofList (List.replicate n '─')

/-- The columns in front of the query. -/
def queryIndent : Nat := 4

def titleRow (picker : Picker) (box : Box) : List Output :=
  let (title, width) := fitText widths picker.menu.title (box.width - 6)
  [.moveTo box.left box.top, .text ("┌─ " ++ title ++ " "),
    .text (rule (box.width - (width + 5)) ++ "┐")]

/-- The query, or the placeholder while there is none, as far as it fits. -/
def shownQuery (picker : Picker) (box : Box) : String × Nat :=
  fitText widths (if picker.query.isEmpty then picker.placeholder else picker.query)
    (box.width - (queryIndent + 1))

def queryRow (picker : Picker) (box : Box) : List Output :=
  let (shown, width) := picker.shownQuery widths box
  [.moveTo box.left (box.top + 1), .text "│ > ",
    .foreground (if picker.query.isEmpty then colors.hint else colors.query), .text shown,
    .foreground colors.foreground,
    .text (blanks (box.width - (queryIndent + width + 1)) ++ "│")]

def separatorRow (box : Box) : List Output :=
  [.moveTo box.left (box.top + 2), .text ("├" ++ rule (box.width - 2) ++ "┤")]

/-- The left border with the item's number, five columns in all. -/
def itemMargin : Option Nat → String
  | some number => "│ " ++ Text.Decimal.write number ++ ". "
  | none => "│    "

/-- The entered item shows the placeholder while nothing is entered. -/
def itemLabel (picker : Picker) (item : Item) : String :=
  if item.kind = .entered && item.label.isEmpty then picker.placeholder else item.label

/-- The description of an item after its label, where at least one column is left for it
behind two blanks. -/
def descriptionPart (item : Item) (isSelected : Bool) (used limit : Nat)
    : List Output × Nat :=
  if !item.description.isEmpty && used + 2 < limit then
    let (description, width) := fitText widths item.description (limit - used - 2)
    ((if isSelected then [] else [.foreground colors.hint]) ++ [.text ("  " ++ description)],
      width + 2)
  else ([], 0)

def itemRow (picker : Picker) (box : Box) (row : Nat) (item : Item) (index : Nat)
    : List Output :=
  let isSelected := index = picker.selected
  let limit := box.width - 6
  let (label, used) := fitText widths (picker.itemLabel item) limit
  let (description, more) := descriptionPart widths item isSelected used limit
  [.moveTo box.left row]
    ++ (if isSelected then
          [.background colors.selectedBackground, .foreground colors.selectedForeground]
        else [])
    ++ [.text (itemMargin (picker.numberAt index)), .text label]
    ++ description
    ++ [.text (blanks (limit - (used + more))), .background colors.background,
        .foreground colors.foreground, .text "│"]

def emptyRow (box : Box) (row : Nat) : List Output :=
  [.moveTo box.left row, .text ("│" ++ blanks (box.width - 2) ++ "│")]

/-- The rows between separator and bottom border, for which there are items or not. -/
def itemRows (picker : Picker) (box : Box) : List Output :=
  let rows := box.height - 4
  let shown := picker.visible.take rows
  (shown.zipIdx.flatMap
      (fun entry => picker.itemRow widths box (box.top + 3 + entry.2) entry.1.1 entry.1.2))
    ++ (List.range' shown.length (min picker.maxVisible rows - shown.length)).flatMap
        (fun row => emptyRow box (box.top + 3 + row))

def helpRow (box : Box) : List Output :=
  let (help, width) := fitText widths "Enter:Start Tab:Edit 1-9:Pick Esc:Cancel" (box.width - 4)
  [.moveTo box.left box.bottom, .text ("└ " ++ help ++ " "),
    .text (rule (box.width - (width + 4)) ++ "┘")]

/-- The column of the cursor, which stands behind the query. -/
def cursorColumn (picker : Picker) (box : Box) : Nat :=
  box.left + queryIndent + if picker.query.isEmpty then 0 else (picker.shownQuery widths box).2

def drawBox (picker : Picker) (box : Box) : List Output :=
  [.background colors.background, .foreground colors.foreground]
    ++ picker.titleRow widths box ++ picker.queryRow widths box ++ separatorRow box
    ++ picker.itemRows widths box ++ helpRow widths box
    ++ [.resetColors, .moveTo (picker.cursorColumn widths box) (box.top + 1), .showCursor]

/-- What is drawn on a terminal of the given size and with the given widths of characters. -/
def drawWith (picker : Picker) (columns rows : Nat) : List Output :=
  match picker.box? columns rows with
  | none => []
  | some box => picker.drawBox widths box

def draw (picker : Picker) (columns rows : Nat) : List Output :=
  picker.drawWith Text.Widths.terminal columns rows

end CellRunner.Picker
