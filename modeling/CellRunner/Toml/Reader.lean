import CellRunner.Toml.Quoted
import CellRunner.Toml.Scalar
import CellRunner.Toml.Table

/-!
Reading TOML documents: a document is a sequence of statements, one a line, which open tables
and assign values to keys. A document with any mistake has no value.
-/

namespace CellRunner.Toml

/-- Opens a table, opens an element of an array of tables, or assigns a value. -/
inductive Statement where
  | table (path : List String)
  | element (path : List String)
  | assign (path : List String) (value : Value)
deriving Repr

namespace Reader

def skipBlanks (text : List Char) : List Char :=
  text.dropWhile Quoted.isBlankChar

/-- Skips blanks, line ends and comments. -/
def skipLayout (inComment : Bool) : List Char → List Char
  | [] => []
  | '\n' :: rest => skipLayout false rest
  | '\r' :: '\n' :: rest => skipLayout false rest
  | c :: rest =>
      if inComment then
        if Quoted.isPlainChar c then skipLayout true rest else c :: rest
      else if Quoted.isBlankChar c then skipLayout false rest
      else if c = '#' then skipLayout true rest
      else c :: rest

/-- The end of a statement's line: blanks, a comment, and a line end or the end of the text. -/
def readLineEnd (text : List Char) : Option (List Char) :=
  let text :=
    match skipBlanks text with
    | '#' :: rest => rest.dropWhile Quoted.isPlainChar
    | text => text
  match text with
  | [] => some []
  | '\n' :: rest => some rest
  | '\r' :: '\n' :: rest => some rest
  | _ => none

def isBareKeyChar (c : Char) : Bool :=
  Text.Decimal.isDigit c || ('a' ≤ c && c ≤ 'z') || ('A' ≤ c && c ≤ 'Z') || c = '-' || c = '_'

def readKey (text : List Char) : Option (String × List Char) :=
  match text with
  | '"' :: rest => Quoted.readLine '"' rest
  | '\'' :: rest => Quoted.readLine '\'' rest
  | _ =>
      let key := text.takeWhile isBareKeyChar
      if key.isEmpty then none else some (String.ofList key, text.dropWhile isBareKeyChar)

/-- Keys with dots between them, and blanks around them. -/
def readKeys (fuel : Nat) (text : List Char) : Option (List String × List Char) :=
  match fuel with
  | 0 => none
  | fuel + 1 => do
      let (key, rest) ← readKey (skipBlanks text)
      match skipBlanks rest with
      | '.' :: rest => do
          let (keys, rest) ← readKeys fuel rest
          return (key :: keys, rest)
      | rest => return ([key], rest)

/-- One more than the greatest length of a key path. -/
def pathLimit : Nat :=
  80

def readPath (text : List Char) : Option (List String × List Char) := do
  let (keys, rest) ← readKeys (text.length + 1) text
  if keys.length < pathLimit then return (keys, rest) else none

def isScalarChar (c : Char) : Bool :=
  isBareKeyChar c || c = '+' || c = '.' || c = ':'

/-- A scalar is a run of characters; one blank may stand between a date and a time. -/
def readScalar (text : List Char) : Option (Value × List Char) :=
  let run := text.takeWhile isScalarChar
  let rest := text.dropWhile isScalarChar
  let timed : Option (Value × List Char) :=
    match rest with
    | ' ' :: rest =>
        let time := rest.takeWhile isScalarChar
        if Scalar.isDate run && Scalar.isTimeWithOffset time then
          some (.dateTime (String.ofList (run ++ ' ' :: time)), rest.dropWhile isScalarChar)
        else none
    | _ => none
  timed <|> (Scalar.read? run).map (·, rest)

mutual
/-- `depth` is the number of arrays and tables that may still be nested. -/
def readValue (fuel depth : Nat) (text : List Char) : Option (Value × List Char) :=
  match fuel with
  | 0 => none
  | fuel + 1 =>
      match text with
      | '"' :: _ => (Quoted.read '"' text).map (fun read => (.string read.1, read.2))
      | '\'' :: _ => (Quoted.read '\'' text).map (fun read => (.string read.1, read.2))
      | '[' :: rest =>
          match depth with
          | 0 => none
          | depth + 1 => readItems fuel depth [] (skipLayout false rest)
      | '\x7b' :: rest =>
          match depth with
          | 0 => none
          | depth + 1 =>
              match skipBlanks rest with
              | '\x7d' :: rest => some (.table [], rest)
              | rest => readPairs fuel depth [] rest
      | _ => readScalar text

/-- The items of an array up to its closing bracket; a comma may stand behind the last. -/
def readItems (fuel depth : Nat) (items : List Value) (text : List Char)
    : Option (Value × List Char) :=
  match fuel with
  | 0 => none
  | fuel + 1 =>
      match text with
      | ']' :: rest => some (.array items.reverse, rest)
      | _ => do
          let (item, rest) ← readValue fuel depth text
          match skipLayout false rest with
          | ',' :: rest => readItems fuel depth (item :: items) (skipLayout false rest)
          | ']' :: rest => return (.array (item :: items).reverse, rest)
          | _ => none

/-- The pairs of an inline table up to its closing brace, on one line and without a comma
behind the last. -/
def readPairs (fuel depth : Nat) (entries : Entries) (text : List Char)
    : Option (Value × List Char) :=
  match fuel with
  | 0 => none
  | fuel + 1 => do
      let (path, rest) ← readPath text
      match rest with
      | '=' :: rest => do
          let (value, rest) ← readValue fuel depth (skipBlanks rest)
          let entries ← entries.assign value path
          match skipBlanks rest with
          | ',' :: rest => readPairs fuel depth entries rest
          | '\x7d' :: rest => return (.table entries.toValues, rest)
          | _ => none
      | _ => none
end

/-- The number of arrays and inline tables that may be nested. -/
def depthLimit : Nat :=
  79

/-- Every second step of reading a value takes a character. -/
def readWholeValue (text : List Char) : Option (Value × List Char) :=
  readValue (2 * text.length + 2) depthLimit text

def readHeader (text : List Char) : Option (Statement × List Char) :=
  match text with
  | '[' :: rest => do
      let (path, rest) ← readPath rest
      match rest with
      | ']' :: ']' :: rest => return (.element path, rest)
      | _ => none
  | _ => do
      let (path, rest) ← readPath text
      match rest with
      | ']' :: rest => return (.table path, rest)
      | _ => none

def readAssignment (text : List Char) : Option (Statement × List Char) := do
  let (path, rest) ← readPath text
  match rest with
  | '=' :: rest => do
      let (value, rest) ← readWholeValue (skipBlanks rest)
      return (.assign path value, rest)
  | _ => none

/-- The statement in a text that begins with neither blanks nor a comment. -/
def readStatement (text : List Char) : Option (Statement × List Char) :=
  match text with
  | '[' :: rest => readHeader rest
  | _ => readAssignment text

def readStatements (fuel : Nat) (text : List Char) : Option (List Statement) :=
  match fuel with
  | 0 => none
  | fuel + 1 =>
      match readLineEnd text with
      | some [] => some []
      | some rest => readStatements fuel rest
      | none => do
          let (statement, rest) ← readStatement (skipBlanks text)
          let rest ← readLineEnd rest
          let statements ← if rest.isEmpty then some [] else readStatements fuel rest
          return statement :: statements

end Reader

/-- The document's table so far, and the path of the table that is open. -/
structure Building where
  entries : Entries
  table : List String

namespace Building

def add (building : Building) : Statement → Option Building
  | .table path => do
      let key ← path.getLast?
      let entries ← Entries.modifyAt (Entries.openTable key) path.dropLast building.entries
      return ⟨entries, path⟩
  | .element path => do
      let key ← path.getLast?
      let entries ← Entries.modifyAt (Entries.openElement key) path.dropLast building.entries
      return ⟨entries, path⟩
  | .assign path value => do
      let entries ← Entries.modifyAt (Entries.assign value path) building.table building.entries
      return ⟨entries, building.table⟩

end Building

/-- The entries of a document. A byte order mark at its start does not count. -/
def parse? (text : String) : Option (List (String × Value)) := do
  let chars :=
    match text.toList with
    | c :: rest => if c.toNat = 0xFEFF then rest else c :: rest
    | [] => []
  let statements ← Reader.readStatements (chars.length + 1) chars
  let building ← statements.foldlM Building.add ⟨[], []⟩
  return building.entries.toValues

end CellRunner.Toml
