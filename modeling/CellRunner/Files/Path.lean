import CellRunner.Text.Fields

/-!
Paths are texts with slashes. Their order compares them component by component, where empty
components and single dots inside a path do not count.
-/

namespace CellRunner.Path

inductive Component where
  | root
  | current
  | parent
  | name (s : String)
deriving DecidableEq, Repr

/-- The root goes before a leading dot, which goes before two dots and these before names. -/
def Component.rank : Component → Nat
  | .root => 0
  | .current => 1
  | .parent => 2
  | .name _ => 3

def Component.text : Component → String
  | .name s => s
  | _ => ""

/-- Names are ordered by their code points. -/
def Component.order (a b : Component) : Ordering :=
  (compare a.rank b.rank).then (compare a.text b.text)

/-- The texts between the slashes. -/
def segments (path : String) : List String :=
  (Text.fields (· == '/') path.toList).map String.ofList

def isAbsolute (path : String) : Bool :=
  path.toList.head? == some '/'

def components (path : String) : List Component :=
  let named := (segments path).filterMap fun segment =>
    if segment.isEmpty || segment = "." then none
    else some (if segment = ".." then .parent else .name segment)
  if isAbsolute path then .root :: named
  else if (segments path).head? = some "." then .current :: named
  else named

def orderComponents : List Component → List Component → Ordering
  | [], [] => .eq
  | [], _ :: _ => .lt
  | _ :: _, [] => .gt
  | a :: as, b :: bs => (a.order b).then (orderComponents as bs)

/-- Paths with fewer components go first. -/
def depthOrder (a b : String) : Ordering :=
  let as := components a
  let bs := components b
  (compare as.length bs.length).then (orderComponents as bs)

/-- The path of `name` seen from `base`. -/
def join (base name : String) : String :=
  if base.isEmpty || isAbsolute name then name
  else if base.toList.getLast? = some '/' then base ++ name
  else base ++ "/" ++ name

def withoutPrefix (start path : String) : Option String :=
  if start.toList.isPrefixOf path.toList then
    some (String.ofList (path.toList.drop start.length))
  else none

/-- A path without one leading `./`. -/
def withoutDot (path : String) : String :=
  (withoutPrefix "./" path).getD path

/-- The directories above an absolute path in its plainest form, the nearest one first. -/
def ancestors (path : String) : List String :=
  let names := (segments path).filter (fun segment => !segment.isEmpty)
  ((List.range names.length).map
    (fun n => "/" ++ "/".intercalate (names.take n))).reverse

end CellRunner.Path
