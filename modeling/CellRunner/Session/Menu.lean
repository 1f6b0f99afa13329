/-!
The question for a session's command: the candidates on offer, and the command that an empty
answer stands for. A chooser answers it, or dismisses it.
-/

namespace CellRunner

structure Candidate where
  command : String
  description : Option String
deriving DecidableEq, Repr

structure CommandMenu where
  title : String
  /-- Used when a blank answer is accepted. -/
  defaultCommand : String
  /-- The fixed arguments of the launcher, as shown in descriptions. -/
  launcherHint : String
  candidates : List Candidate
deriving DecidableEq, Repr

inductive Choice where
  | accepted (command : String)
  | cancelled
deriving DecidableEq, Repr

/-- Answers menus; a failure is the text of what went wrong. -/
structure CommandChooser (m : Type → Type) where
  choose (menu : CommandMenu) : ExceptT String m Choice

end CellRunner
