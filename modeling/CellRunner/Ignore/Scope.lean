import CellRunner.Ignore.UserRules

/-!
The ignore files of a directory govern what is below it. Rules of nearer directories go before
those of farther ones, rules for any tool before those of a repository, and these before the
user's own. The rules of a repository and of its user apply inside a repository only.
-/

namespace CellRunner.Ignore

structure Scope where
  /-- The directory that patterns are relative to. -/
  base : String
  /-- The rules of the directory's `.ignore` file. -/
  general : List Rule
  /-- The rules of its `.gitignore` file. -/
  repository : List Rule
  /-- The rules of the exclude file of the repository in it. -/
  excludes : List Rule
  /-- Whether the directory is the top of a repository, of either kind that is known. -/
  isRepository : Bool

/-- A path as patterns that are relative to `base` see it. -/
def relativeTo (base path : String) : String :=
  let path := Path.withoutDot path
  if base = "." || !path.toList.contains '/' then path
  else
    match Path.withoutPrefix base path with
    | none => path
    | some inside => (Path.withoutPrefix "/" inside).getD inside

namespace Scope

/-- The scopes up to the first that is a repository; none if none is. -/
def insideRepository (scopes : List (Scope × String)) : List (Scope × String) :=
  if scopes.any (·.1.isRepository) then
    let inner := scopes.takeWhile (fun scope => !scope.1.isRepository)
    inner ++ (scopes.drop inner.length).take 1
  else []

def verdictBy? (rules : Scope → List Rule) (isDirectory : Bool)
    (scopes : List (Scope × String)) : Option Verdict :=
  scopes.findSome? fun scope =>
    Rules.verdict? (rules scope.1) (relativeTo scope.1.base scope.2) isDirectory

/-- The verdict of scopes, the nearest one first, on a path given for each of them. -/
def verdict? (scopes : List (Scope × String)) (isDirectory : Bool) : Option Verdict :=
  let versioned := insideRepository scopes
  verdictBy? general isDirectory scopes
    <|> verdictBy? repository isDirectory versioned
    <|> verdictBy? excludes isDirectory versioned

/-- The verdict of a user's own rules, on a path inside the scopes. -/
def userVerdict? (userRules : UserRules) (scopes : List Scope) (path : String)
    (isDirectory : Bool) : Option Verdict :=
  if scopes.any isRepository then
    Rules.verdict? userRules.rules (relativeTo userRules.base path) isDirectory
  else none

variable {m : Type → Type} [Monad m]

/-- The first line of a text file. -/
def readFirstLine (files : FileAccess m) (path : String) : m (Option (List Char)) := do
  match ← (files.readText path).run with
  | .ok text => return (Text.outputLines text.toList).head?
  | .error _ => return none

/-- The directory in which a repository keeps its files. A linked working tree has a file that
names another directory, which in turn names the one that is shared. -/
def commonDirectory (files : FileAccess m) (directory : String) (entry : FileKind)
    : m (Option String) := do
  let marker := Path.join directory ".git"
  match entry with
  | .directory => return some marker
  | .file =>
      let some line ← readFirstLine files marker | return none
      let some linked := Path.withoutPrefix "gitdir: " (String.ofList line) | return none
      let some shared ← readFirstLine files (Path.join linked "commondir") | return none
      return some
        (if shared.head? = some '.' then Path.join linked (String.ofList shared)
        else String.ofList shared)

def read (files : FileAccess m) (directory : String) : m Scope := do
  let marker ← files.kind (Path.join directory ".git")
  let excludes ←
    match marker with
    | none => pure []
    | some entry =>
        match ← commonDirectory files directory entry with
        | none => pure []
        | some common => Rules.read files (Path.join common "info/exclude")
  let otherMarker ← files.kind (Path.join directory ".jj")
  return {
    base := Path.withoutDot directory,
    general := ← Rules.read files (Path.join directory ".ignore"),
    repository := ← Rules.read files (Path.join directory ".gitignore"),
    excludes := excludes,
    isRepository := marker.isSome || otherMarker.isSome }

end Scope

end CellRunner.Ignore
