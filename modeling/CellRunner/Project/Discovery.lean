import CellRunner.Ignore.Walk
import CellRunner.Project.Commands

/-!
The project files of a workspace are the files of the right name at or below its root that no
ignore rule hides.
-/

namespace CellRunner.Project

def isProjectFile (path : String) : Bool :=
  (Path.components path).getLast? = some (.name fileName)

variable {m : Type → Type} [Monad m]

def readFile (files : FileAccess m) (path : String) : m (String × Option String) := do
  return (path, (← (files.readText path).run).toOption)

/-- The commands of the project files that a walk finds. -/
def discoverBy (files : FileAccess m) (walk : m (List String)) : m (List String) := do
  let paths := (← walk).filter isProjectFile
  return collect (← paths.mapM (readFile files))

/-- The commands that a workspace offers. -/
def discover (files : FileAccess m) (root : String) (userRules : Ignore.UserRules := {})
    : m (List String) :=
  discoverBy files (Ignore.listFiles files root userRules)

end CellRunner.Project
