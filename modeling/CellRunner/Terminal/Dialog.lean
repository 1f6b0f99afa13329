import CellRunner.Picker.Drawing
import CellRunner.Picker.Keys

/-!
The picker run as a dialog on a terminal: raw mode and the alternate screen are entered, every
key press and every change of the size is followed by a new drawing until the choice is settled,
and then the terminal is put back. Any operation of the terminal may fail, at any point.
-/

namespace CellRunner

inductive TerminalEvent where
  | key (press : KeyPress)
  | resize
  /-- Any other event, such as the release of a key. -/
  | other
deriving DecidableEq, Repr

/-- A terminal that a dialog can take over. A failure is the text of what went wrong. -/
structure DialogTerminal (m : Type → Type) where
  enableRawMode : ExceptT String m Unit
  disableRawMode : ExceptT String m Unit
  /-- Columns and rows. -/
  size : ExceptT String m (Nat × Nat)
  /-- Writes all of the outputs, and flushes them. -/
  write (outputs : List Output) : ExceptT String m Unit
  readEvent : ExceptT String m TerminalEvent

namespace Dialog

variable {m : Type → Type} [Monad m]

def openScreen (terminal : DialogTerminal m) : ExceptT String m Unit := do
  terminal.enableRawMode
  terminal.write [.enterAlternateScreen, .clear]

def closeScreen (terminal : DialogTerminal m) : ExceptT String m Unit := do
  terminal.write [.resetColors, .showCursor, .leaveAlternateScreen]
  terminal.disableRawMode

def drawPicker (terminal : DialogTerminal m) (picker : Picker) : ExceptT String m Unit := do
  let (columns, rows) ← terminal.size
  terminal.write [.hideCursor, .resetColors, .clear]
  terminal.write (picker.draw columns rows)

/-- Reads at most `events` events. A dialog that has not settled by then fails. -/
def settle (terminal : DialogTerminal m) (picker : Picker)
    : (events : Nat) → ExceptT String m Choice
  | 0 => throw "The dialog was left open."
  | events + 1 => do
      match ← terminal.readEvent with
      | .key press =>
          match picker.press press with
          | (_, some choice) => return choice
          | (next, none) =>
              drawPicker terminal next
              settle terminal next events
      | .resize =>
          drawPicker terminal picker
          settle terminal picker events
      | .other => settle terminal picker events

/-- What is done while the screen is open. -/
def converse (terminal : DialogTerminal m) (patience : Nat) (menu : CommandMenu)
    : ExceptT String m Choice := do
  drawPicker terminal (.ofMenu menu)
  settle terminal (.ofMenu menu) patience

/-- Whether the dialog fails, is dismissed or is answered, the screen is closed once; where
that fails it is tried a second time, and the first failure is reported. A screen that could
not be opened is not closed. -/
def run (terminal : DialogTerminal m) (patience : Nat) (menu : CommandMenu)
    : ExceptT String m Choice := do
  openScreen terminal
  let outcome ← ExceptT.lift (converse terminal patience menu).run
  match ← ExceptT.lift (closeScreen terminal).run with
  | .ok () =>
      match outcome with
      | .ok choice => return choice
      | .error cause => throw cause
  | .error cause =>
      let _ ← ExceptT.lift (closeScreen terminal).run
      throw cause

def chooser (terminal : DialogTerminal m) (patience : Nat) : CommandChooser m where
  choose := run terminal patience

end Dialog

end CellRunner
