import CellRunner.Session.Menu
import CellRunner.Text.Decimal

/-!
The picker's state: a query that is typed, and a list of items of which one is selected. The
first item stands for the query as entered and the menu's candidates follow it; a window of
limited height scrolls over the list so that the selected item stays inside.
-/

namespace CellRunner

namespace Picker

inductive ItemKind where
  | entered
  | candidate
deriving DecidableEq, Repr

structure Item where
  kind : ItemKind
  label : String
  description : String
deriving DecidableEq, Repr

def Item.ofCandidate (candidate : Candidate) : Item where
  kind := .candidate
  label := candidate.command
  description := candidate.description.getD ""

end Picker

structure Picker where
  menu : CommandMenu
  query : String
  /-- The first item, which has to be brought in line with the query when that changes. -/
  entered : Picker.Item
  /-- The other items. -/
  candidates : List Picker.Item
  /-- The index of the selected item. -/
  selected : Nat
  /-- The index of the first visible item. -/
  scroll : Nat
  /-- How many items are visible at most. -/
  maxVisible : Nat
deriving DecidableEq, Repr

namespace Picker

def items (picker : Picker) : List Item :=
  picker.entered :: picker.candidates

/-- Shown in place of an empty query. -/
def placeholder (picker : Picker) : String :=
  picker.menu.defaultCommand

/-- Has the first item show the query, and what accepting the query would run. -/
def refresh (picker : Picker) : Picker :=
  let command := if Text.allBlank picker.query then picker.menu.defaultCommand else picker.query
  { picker with
    entered :=
      { picker.entered with
        label := picker.query,
        description := "Run: " ++ picker.menu.launcherHint ++ " " ++ command } }

/-- Eight items are visible unless the opener asks for another height. -/
def ofMenu (menu : CommandMenu) : Picker :=
  let fresh : Picker :=
    { menu := menu,
      query := "",
      entered := ⟨.entered, "", ""⟩,
      candidates := menu.candidates.map Item.ofCandidate,
      selected := 0,
      scroll := 0,
      maxVisible := 8 }
  fresh.refresh

/-- Puts `query` in place of the query and selects the entered item. -/
def withQuery (picker : Picker) (query : String) : Picker :=
  { picker with query := query, selected := 0, scroll := 0 }.refresh

def input (picker : Picker) (c : Char) : Picker :=
  picker.withQuery (picker.query.push c)

/-- Removes the query's last character; the selection stays. -/
def backspace (picker : Picker) : Picker :=
  { picker with query := String.ofList picker.query.toList.dropLast }.refresh

/-- Scrolls as little as it takes to have the selected item in the window. -/
def adjustScroll (picker : Picker) : Picker :=
  if picker.selected < picker.scroll then { picker with scroll := picker.selected }
  else if picker.scroll + picker.maxVisible ≤ picker.selected then
    { picker with scroll := picker.selected - picker.maxVisible + 1 }
  else picker

def up (picker : Picker) : Picker :=
  if 0 < picker.selected then { picker with selected := picker.selected - 1 }.adjustScroll
  else picker

def down (picker : Picker) : Picker :=
  if picker.selected + 1 < picker.items.length then
    { picker with selected := picker.selected + 1 }.adjustScroll
  else picker

/-- Copies a selected candidate into the query, to be edited there. -/
def complete (picker : Picker) : Picker :=
  match picker.items[picker.selected]? with
  | some ⟨.candidate, label, _⟩ => picker.withQuery label
  | _ => picker

/-- What is accepted now: a selected candidate, else the query. -/
def accept (picker : Picker) : String :=
  match picker.items[picker.selected]? with
  | some ⟨.candidate, label, _⟩ => label
  | _ => picker.query

/-- The items in the window, with their indexes. -/
def visible (picker : Picker) : List (Item × Nat) :=
  (picker.items.zipIdx.drop picker.scroll).take picker.maxVisible

/-- The index of the visible candidate with a number; candidates are numbered from one. -/
def numberedIndex (picker : Picker) (number : Nat) : Option Nat :=
  if number = 0 then none
  else
    ((picker.visible.filter (fun item => item.1.kind = .candidate))[number - 1]?).map (·.2)

/-- The number shown at an item, from one to nine. -/
def numberAt (picker : Picker) (index : Nat) : Option Nat :=
  (List.range' 1 9).find? (fun number => picker.numberedIndex number = some index)

/-- Selects the visible candidate with a number and accepts it, if there is one. -/
def selectNumber (picker : Picker) (number : Nat) : Picker × Option String :=
  match picker.numberedIndex number with
  | none => (picker, none)
  | some index =>
      let picked := { picker with selected := index }
      (picked, some picked.accept)

end Picker

end CellRunner
