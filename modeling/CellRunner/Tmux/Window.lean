import CellRunner.Host.Basic
import CellRunner.Text.Decimal
import CellRunner.Text.Lines

/-!
The window listing of tmux has one line a window, with five fields between tabs. The name comes
last, so it may itself hold tabs; a dead window gives the exit status of its process.
-/

namespace CellRunner.Tmux

structure Window where
  terminal : Terminal
  active : Bool
deriving DecidableEq, Repr

namespace Window

/-- The listing's fields: the window's id, whether its process is dead, the exit status,
whether the window is active, and its name. -/
def format : String :=
  "\t".intercalate
    [ "#\x7bwindow_id\x7d", "#\x7bpane_dead\x7d", "#\x7bpane_dead_status\x7d",
      "#\x7bwindow_active\x7d", "#\x7bwindow_name\x7d" ]

/-- A process killed by a signal leaves its status blank, which reads as `-1`. -/
def readStatus (dead status : List Char) : Option Int :=
  if dead = ['1'] then some ((Text.Decimal.readInt32? (Text.trim status)).getD (-1)) else none

def ofLine? (line : List Char) : Option Window :=
  match Text.fieldsUpTo '\t' 4 line with
  | [id, dead, status, active, name] =>
      if id.head? = some '@' then
        some ⟨⟨String.ofList id, String.ofList name, readStatus dead status⟩, active = ['1']⟩
      else none
  | _ => none

def parseLine (line : List Char) : Except HostError Window :=
  match ofLine? line with
  | some window => .ok window
  | none => .error (.unexpectedOutput (String.ofList line))

/-- The listing's lines; blank ones do not count. -/
def listingLines (output : List Char) : List (List Char) :=
  (Text.outputLines output).filter (fun line => !line.all Text.isBlank)

/-- Reads a listing, or gives the first line that describes no window. -/
def parseList (output : String) : Except HostError (List Window) :=
  (listingLines output.toList).mapM parseLine

/-- The line of a window in the listing. -/
def line (window : Window) : List Char :=
  let dead := match window.terminal.exitStatus with
    | none => "0\t"
    | some status => "1\t" ++ Text.Decimal.writeInt status
  window.terminal.id.toList ++ '\t' :: dead.toList ++ '\t' :: (if window.active then '1' else '0')
    :: '\t' :: window.terminal.name.toList

end Window

end CellRunner.Tmux
