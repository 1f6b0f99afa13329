import CellRunner.Ignore.Scope

/-!
Finding the files below a directory that no ignore rule hides. Names that begin with a dot are
hidden unless a rule shows them, and the ignore files of the directories above count as well.
-/

namespace CellRunner.Ignore

structure Walk where
  /-- The path at which the walk begins. -/
  root : String
  realRoot : String
  /-- The scopes of the directories above the root, the nearest one first. -/
  above : List Scope
  userRules : UserRules

namespace Walk

/-- The absolute path of what the walk calls `path`. -/
def absolute (walk : Walk) (path : String) : String :=
  let path := Path.withoutDot path
  if Path.components walk.root = [.current] then Path.join walk.realRoot path
  else
    let inside := (Path.withoutPrefix (Path.withoutDot walk.root) path).getD path
    Path.join walk.realRoot ((Path.withoutPrefix "/" inside).getD inside)

/-- Whether an entry is left out, given the scopes from its directory up to the root. -/
def hides (walk : Walk) (scopes : List Scope) (path name : String) (isDirectory : Bool)
    : Bool :=
  let placed := scopes.map (·, path) ++ walk.above.map (·, walk.absolute path)
  let verdict? :=
    Scope.verdict? placed isDirectory
      <|> Scope.userVerdict? walk.userRules (scopes ++ walk.above) path isDirectory
  match verdict? with
  | some .hidden => true
  | some .shown => false
  | none => name.toList.head? = some '.'

variable {m : Type → Type} [Monad m]

def below (walk : Walk) (files : FileAccess m)
    : (depth : Nat) → (scopes : List Scope) → (directory : String) → m (List String)
  | 0, _, _ => return []
  | depth + 1, outer, directory => do
      let scopes := (← Scope.read files directory) :: outer
      let found ← (← files.names directory).mapM fun name => do
        let path := Path.join directory name
        match ← files.kind path with
        | none => return []
        | some kind =>
            if walk.hides scopes path name (kind = .directory) then return []
            else
              match kind with
              | .file => return [path]
              | .directory => below walk files depth scopes path
      return found.flatten

/-- A path of more components is longer than a path may be. -/
def depthLimit : Nat :=
  2048

end Walk

variable {m : Type → Type} [Monad m]

/-- The files at or below a path, in no particular order. The path itself is never hidden. A
lone dash stands for the standard input, where there are no files. -/
def listFiles (files : FileAccess m) (root : String) (userRules : UserRules)
    : m (List String) := do
  if root = "-" then return []
  match ← files.kind root with
  | none => return []
  | some .file => return [root]
  | some .directory =>
      let realRoot := (← files.realPath root).getD root
      let above ← (Path.ancestors realRoot).mapM (Scope.read files)
      Walk.below ⟨root, realRoot, above, userRules⟩ files Walk.depthLimit [] root

end CellRunner.Ignore
