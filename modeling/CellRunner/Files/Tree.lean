import CellRunner.Files.Access

/-!
A tree of files held in memory. Looking up a path takes one step for each segment, and every
step but the last has to arrive at a directory.
-/

namespace CellRunner

inductive FileTree where
  | file (content : ByteArray)
  | directory (entries : List (String × FileTree))

namespace FileTree

def empty : FileTree :=
  .directory []

def kind : FileTree → FileKind
  | .file _ => .file
  | .directory _ => .directory

def entries : FileTree → List (String × FileTree)
  | .file _ => []
  | .directory entries => entries

def child? (tree : FileTree) (name : String) : Option FileTree :=
  (tree.entries.find? (·.1 == name)).map (·.2)

def find? (tree : FileTree) : List String → Option FileTree
  | [] => some tree
  | name :: rest => (tree.child? name).bind (·.find? rest)

/-- Puts `tree` at `name` into a list of entries. -/
def replaceEntry (entries : List (String × FileTree)) (name : String) (tree : FileTree)
    : List (String × FileTree) :=
  if entries.any (·.1 == name) then
    entries.map (fun entry => if entry.1 == name then (name, tree) else entry)
  else entries ++ [(name, tree)]

/-- Puts `leaf` at a place, with directories on the way to it. -/
def insert (leaf : FileTree) : List String → FileTree → FileTree
  | [], _ => leaf
  | name :: rest, tree =>
      .directory
        (replaceEntry tree.entries name (insert leaf rest ((tree.child? name).getD empty)))

def remove : List String → FileTree → FileTree
  | [], tree => tree
  | _, .file content => .file content
  | [name], .directory entries => .directory (entries.filter (·.1 != name))
  | name :: rest, .directory entries =>
      .directory
        (entries.map (fun entry =>
          if entry.1 == name then (name, remove rest entry.2) else entry))

mutual
/-- The paths of all files, each beginning with `above`. -/
def filePaths (above : String) : FileTree → List String
  | .file _ => [above]
  | .directory entries => entryPaths above entries

def entryPaths (above : String) : List (String × FileTree) → List String
  | [] => []
  | (name, tree) :: rest => filePaths (Path.join above name) tree ++ entryPaths above rest
end

/-- Follows segments from a directory, given by its names from the root. -/
def follow (tree : FileTree) (place : List String)
    : List String → Except FileError (List String)
  | [] => .ok place
  | segment :: rest =>
      match tree.find? place with
      | none => .error .notFound
      | some (.file _) => .error .notDirectory
      | some (.directory _) =>
          if segment.isEmpty || segment = "." then follow tree place rest
          else if segment = ".." then follow tree place.dropLast rest
          else if 255 < segment.utf8ByteSize then .error .nameTooLong
          else follow tree (place ++ [segment]) rest

/-- The names that lead from the root to what is at a path. -/
def locate (tree : FileTree) (workingDirectory : List String) (path : String)
    : Except FileError (List String) :=
  if path.toList.contains (Char.ofNat 0) then .error .invalidName
  else if path.isEmpty then .error .notFound
  else if 4095 < path.utf8ByteSize then .error .nameTooLong
  else
    follow tree (if Path.isAbsolute path then [] else workingDirectory) (Path.segments path)

def lookup (tree : FileTree) (workingDirectory : List String) (path : String)
    : Except FileError FileTree := do
  match tree.find? (← tree.locate workingDirectory path) with
  | some found => return found
  | none => throw .notFound

/-- Access to the files of the tree that `current` gives. -/
def access {m : Type → Type} [Monad m] (current : m FileTree) (workingDirectory : List String)
    : FileAccess m where
  read path := do
    match (← current).lookup workingDirectory path with
    | .ok (.file content) => return content
    | .ok (.directory _) => throw .isDirectory
    | .error error => throw error
  kind path := do
    return ((← current).lookup workingDirectory path).toOption.map kind
  names directory := do
    let found := ((← current).lookup workingDirectory directory).toOption
    return ((found.map entries).getD []).map (·.1)
  realPath path := do
    let tree ← current
    let place := (tree.locate workingDirectory path).toOption
    return (place.filter (fun place => (tree.find? place).isSome)).map
      (fun place => "/" ++ "/".intercalate place)

end FileTree

end CellRunner
