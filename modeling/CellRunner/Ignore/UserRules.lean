import CellRunner.Files.Access
import CellRunner.Ignore.Rule

/-!
A user may keep rules for all repositories in one file. The settings of the user's version
control name that file; unless they do, it is at its usual place.
-/

namespace CellRunner.Ignore

/-- Where a user's settings may be. -/
structure UserPlaces where
  home : Option String := none
  configDirectory : Option String := none

structure UserRules where
  /-- The directory that patterns are relative to. -/
  base : String := "."
  rules : List Rule := []

namespace UserRules

/-! ### The setting that names the file, in bytes -/

def isBlank (b : UInt8) : Bool :=
  b = 0x20 || (0x09 ≤ b && b ≤ 0x0D)

def quote : UInt8 :=
  0x22

/-- Whether nothing but blanks is left of the line. -/
def endsLine (text : List UInt8) : Bool :=
  (text.takeWhile isBlank).contains 0x0A || text.all isBlank

/-- Whether nothing but blanks and a quote is left of the line. -/
def closesLine (text : List UInt8) : Bool :=
  endsLine text ||
    (match text.dropWhile isBlank with
    | [] => true
    | b :: rest => b = quote && endsLine rest)

/-- A word that is the last of its line. A quote at its end does not belong to it. -/
def readWord? (text : List UInt8) : Option (List UInt8) :=
  let word := text.takeWhile (fun b => !isBlank b)
  let rest := text.drop word.length
  if 2 ≤ word.length && word.getLast? = some quote && endsLine rest then some word.dropLast
  else if !word.isEmpty && closesLine rest then some word
  else none

/-- A quote in front of a value does not belong to it, unless there would be no value. -/
def readValue? (text : List UInt8) : Option (List UInt8) :=
  let text := text.dropWhile isBlank
  let quoted :=
    if text.head? = some quote then readWord? ((text.drop 1).dropWhile isBlank) else none
  quoted <|> readWord? text

def settingName : List Char :=
  "excludesfile".toList

/-- The value of the setting, of which the text may begin with the name in any case. -/
def readSetting? (text : List UInt8) : Option (List UInt8) :=
  let text := text.dropWhile isBlank
  let name := (text.take settingName.length).map (fun b => (Char.ofNat b.toNat).toLower)
  match (text.drop settingName.length).dropWhile isBlank with
  | [] => none
  | b :: rest => if name = settingName && b = 0x3D then readValue? rest else none

/-- What follows each line feed. -/
def laterLines : List UInt8 → List (List UInt8)
  | [] => []
  | b :: rest => if b = 0x0A then rest :: laterLines rest else laterLines rest

/-- The value that settings give first. -/
def findSetting? (content : ByteArray) : Option String :=
  let text := content.toList
  ((text :: laterLines text).findSome? readSetting?).bind
    (fun value => String.fromUTF8? value.toByteArray)

/-- Every tilde stands for the home directory. -/
def expand (home : Option String) (path : String) : String :=
  match home with
  | none => path
  | some home =>
      home.intercalate ((Text.fields (· == '~') path.toList).map String.ofList)

/-! ### The file -/

variable {m : Type → Type} [Monad m]

def readSettings (files : FileAccess m) (home : Option String) (path : String)
    : m (Option String) := do
  match ← (files.read path).run with
  | .ok content => return (findSetting? content).map (expand home)
  | .error _ => return none

/-- The settings in the home directory go before those in the configuration directory. -/
def location? (files : FileAccess m) (places : UserPlaces) : m (Option String) := do
  let settings :=
    (places.home.map (Path.join · ".gitconfig")).toList
      ++ (places.configDirectory.map (Path.join · "git/config")).toList
  match (← settings.mapM (readSettings files places.home)).findSome? id with
  | some path => return some path
  | none => return places.configDirectory.map (Path.join · "git/ignore")

def read (files : FileAccess m) (places : UserPlaces) (base : String) : m UserRules := do
  let some path ← location? files places | return {}
  return ⟨base, ← Rules.read files path⟩

end UserRules

end CellRunner.Ignore
