import CellRunner.Files.Access
import CellRunner.Ignore.GlobReader
import CellRunner.Text.Lines

/-!
Ignore files hold one rule a line. A rule hides the paths that its pattern fits, or shows them
again after an exclamation mark; of several rules for a path the last one decides.
-/

namespace CellRunner.Ignore

structure Rule where
  glob : Glob
  /-- The rule shows what it fits. -/
  shows : Bool
  /-- The rule fits directories only. -/
  directoriesOnly : Bool
deriving Repr

inductive Verdict where
  | hidden
  | shown
deriving DecidableEq, Repr

namespace Rule

/-- A blank at the end counts if a backslash stands in front of it. -/
def withoutTrailingBlanks (line : List Char) : List Char :=
  if ['\\', ' '].isSuffixOf line then line else Text.trimEnd line

/-- The text after an exclamation mark and a leading slash, and whether they were there. A
backslash makes a leading exclamation mark or hash part of the pattern. -/
def readHead (line : List Char) : List Char × Bool × Bool :=
  match line with
  | '\\' :: '!' :: rest => ('!' :: rest, false, false)
  | '\\' :: '#' :: rest => ('#' :: rest, false, false)
  | '!' :: '/' :: rest => (rest, true, true)
  | '!' :: rest => (rest, true, false)
  | '/' :: rest => (rest, false, true)
  | _ => (line, false, false)

/-- The text without a slash at its end, which may be escaped, and whether there was one. -/
def readTail (line : List Char) : List Char × Bool :=
  if line.getLast? = some '/' then (Text.withoutLast '\\' line.dropLast, true)
  else (line, false)

/-- A pattern without a slash fits names at any depth, and one that ends in a double star fits
what is inside a directory but not the directory. -/
def completed (pattern : List Char) (anchored : Bool) : List Char :=
  let free := !anchored && !pattern.contains '/' && pattern != "**".toList
  let deep := if free then "**/".toList ++ pattern else pattern
  if "/**".toList.isSuffixOf deep then deep ++ "/*".toList else deep

/-- Comments, blank lines and malformed patterns hold no rule. -/
def ofLine? (line : List Char) : Option Rule :=
  if line.head? = some '#' then none
  else
    let line := withoutTrailingBlanks line
    if line.isEmpty then none
    else
      let (body, shows, anchored) := readHead line
      let (pattern, directoriesOnly) := readTail body
      (GlobReader.read? (completed pattern anchored)).map (⟨·, shows, directoriesOnly⟩)

def verdict (rule : Rule) : Verdict :=
  if rule.shows then .shown else .hidden

def fits (rule : Rule) (path : String) (isDirectory : Bool) : Bool :=
  (isDirectory || !rule.directoriesOnly) && rule.glob.fits path

end Rule

namespace Rules

/-- The lines of a file of bytes, with their terminators. -/
def byteLines (content : List UInt8) : List (List UInt8) :=
  content.foldr
    (fun b rest =>
      if b = 0x0A then [b] :: rest
      else
        match rest with
        | [] => [[b]]
        | line :: more => (b :: line) :: more)
    []

def decode? (line : List UInt8) : Option (List Char) :=
  (String.fromUTF8? line.toByteArray).map String.toList

/-- The rules of an ignore file, as far as it is UTF-8. Byte order marks at its start do not
count. -/
def ofContent (content : ByteArray) : List Rule :=
  let lines :=
    (((byteLines content.toList).map decode?).takeWhile Option.isSome).filterMap
      (fun line => line.map Text.outputLine)
  match lines with
  | [] => []
  | first :: rest =>
      (first.dropWhile (·.toNat == 0xFEFF) :: rest).filterMap Rule.ofLine?

/-- The rules of the file at a path; none if it cannot be read. -/
def read {m : Type → Type} [Monad m] (files : FileAccess m) (path : String)
    : m (List Rule) := do
  match ← (files.read path).run with
  | .ok content => return ofContent content
  | .error _ => return []

/-- The verdict of the last rule that fits. -/
def verdict? (rules : List Rule) (path : String) (isDirectory : Bool) : Option Verdict :=
  (rules.reverse.find? (·.fits path isDirectory)).map Rule.verdict

end Rules

end CellRunner.Ignore
