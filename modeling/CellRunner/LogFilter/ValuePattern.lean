import CellRunner.Text.Alphanumeric
import CellRunner.Text.Decimal
import CellRunner.Text.Fields

/-!
The value of a span's field is given as a regular expression, of which only the soundness is
decided here. A pattern stands between an equals sign and a comma or a closing brace, so it
never holds a comma, an equals sign or a closing brace.
-/

namespace CellRunner.LogFilter

inductive PatternError where
  | malformed
  /-- The pattern asks for word boundaries between characters of all scripts. -/
  | wordBoundary
deriving DecidableEq, Repr

def PatternError.message : PatternError → String
  | .malformed => "error building NFA"
  | .wordBoundary =>
      "unsupported regex feature for DFAs: cannot build DFAs for regexes with Unicode word "
        ++ "boundaries; switch to ASCII word boundaries, or heuristically enable Unicode word "
        ++ "boundaries or use a different regex engine"

namespace ValuePattern

/-- How a part of a pattern is meant. -/
structure Mode where
  caseless : Bool := false
  unicode : Bool := true
deriving DecidableEq, Repr

/-- The letter cases of all scripts are not known, so they cannot be ignored. -/
def Mode.comparesCases (mode : Mode) : Bool :=
  !mode.caseless || !mode.unicode

/-! ### Escapes -/

inductive Escape where
  | literal (c : Char)
  /-- Digits, blanks or word characters, or all others. -/
  | shorthand (negated : Bool)
  | edge
  | wordBoundary
deriving DecidableEq, Repr

def isHexDigit (c : Char) : Bool :=
  Text.Decimal.isDigit c || ('a' ≤ c && c ≤ 'f') || ('A' ≤ c && c ≤ 'F')

def hexDigitValue (c : Char) : Nat :=
  if Text.Decimal.isDigit c then Text.Decimal.digitValue c
  else if 'a' ≤ c then c.toNat - 'a'.toNat + 10
  else c.toNat - 'A'.toNat + 10

def hexValue (digits : List Char) : Nat :=
  digits.foldl (fun n c => n * 16 + hexDigitValue c) 0

/-- A code point in exactly so many hexadecimal digits. -/
def readCodePoint? (size : Nat) (text : List Char) : Option (Escape × List Char) :=
  let digits := text.take size
  if digits.length = size && digits.all isHexDigit && (hexValue digits).isValidChar then
    some (.literal (Char.ofNat (hexValue digits)), text.drop size)
  else none

/-- The control characters that have a letter. -/
def control? (c : Char) : Option Char :=
  ("aftnrv".toList.zip [7, 12, 9, 10, 13, 11]).findSome?
    (fun (letter, code) => if c = letter then some (Char.ofNat code) else none)

/-- Reads what stands behind a backslash. Marks stand for themselves, but for angle brackets. -/
def readEscape? : List Char → Option (Escape × List Char)
  | [] => none
  | c :: rest =>
      if c = 'x' then readCodePoint? 2 rest
      else if c = 'u' then readCodePoint? 4 rest
      else if c = 'U' then readCodePoint? 8 rest
      else if "dsw".toList.contains c then some (.shorthand false, rest)
      else if "DSW".toList.contains c then some (.shorthand true, rest)
      else if "Az".toList.contains c then some (.edge, rest)
      else if "bB<>".toList.contains c then some (.wordBoundary, rest)
      else if c.toNat < 0x80 && !c.isAlphanum then some (.literal c, rest)
      else (control? c).map (fun code => (.literal code, rest))

/-- Classes of all scripts are not known; without them a pattern may only ask for ASCII. -/
def Mode.allowsShorthand (mode : Mode) (negated : Bool) : Bool :=
  !mode.unicode && !negated

/-! ### Classes in brackets -/

/-- A character by itself, or nothing for a shorthand. -/
def readClassItem? (mode : Mode) : List Char → Option (Option Char × List Char)
  | [] => none
  | '\\' :: rest =>
      match readEscape? rest with
      | some (.literal c, rest) => some (some c, rest)
      | some (.shorthand negated, rest) =>
          if mode.allowsShorthand negated then some (none, rest) else none
      | _ => none
  | c :: rest => some (some c, rest)

/-- Skips an item, or two characters in order with a dash between them. -/
def skipClassRange? (mode : Mode) (text : List Char) : Option (List Char) := do
  let (first, rest) ← readClassItem? mode text
  match rest with
  | '-' :: ']' :: _ | '-' :: '-' :: _ => return rest
  | '-' :: after =>
      let (last, rest) ← readClassItem? mode after
      if (← first) ≤ (← last) then return rest else none
  | _ => return rest

def classNames : List String :=
  ["alnum", "alpha", "ascii", "blank", "cntrl", "digit", "graph", "lower", "print", "punct",
    "space", "upper", "word", "xdigit"]

/-- Skips a named class, behind its opening bracket. -/
def skipNamedClass? (text : List Char) : Option (List Char) :=
  match text with
  | ':' :: rest =>
      match Text.cutAt ':' (if rest.head? = some '^' then rest.drop 1 else rest) with
      | some (name, ']' :: rest) =>
          if classNames.contains (String.ofList name) then some rest else none
      | _ => none
  | _ => none

/-- Skips the negation of a class, and the dashes or the bracket that stand for themselves right
behind its opening. -/
def skipClassOpening (text : List Char) : List Char :=
  let text := if text.head? = some '^' then text.drop 1 else text
  let rest := text.dropWhile (· == '-')
  if rest.length = text.length && rest.head? = some ']' then rest.drop 1 else rest

/-- Skips the rest of a class inside `depth` others; `limit` is at least the text's length. -/
def skipClassBody? (mode : Mode) : (limit depth : Nat) → List Char → Option (List Char)
  | 0, _, _ | _, _, [] => none
  | limit + 1, depth, c :: rest =>
      match c, rest with
      | '[', _ =>
          match skipNamedClass? rest with
          | some rest => skipClassBody? mode limit depth rest
          | none => skipClassBody? mode limit (depth + 1) (skipClassOpening rest)
      | ']', _ => if depth = 0 then some rest else skipClassBody? mode limit (depth - 1) rest
      | '&', '&' :: rest | '-', '-' :: rest | '~', '~' :: rest =>
          skipClassBody? mode limit depth rest
      | _, _ =>
          match skipClassRange? mode (c :: rest) with
          | some rest => skipClassBody? mode limit depth rest
          | none => none

/-- Skips a class behind its opening bracket. Without Unicode a class must not be negated. -/
def skipClass? (mode : Mode) (text : List Char) : Option (List Char) :=
  if mode.comparesCases && (mode.unicode || text.head? != some '^') then
    skipClassBody? mode text.length 0 (skipClassOpening text)
  else none

/-! ### Groups -/

/-- Sets the flags in front of a dash and clears those behind it. -/
def Mode.apply (mode : Mode) (flags : List Char) : Mode :=
  let set := flags.takeWhile (· != '-')
  let clear := flags.drop set.length
  { caseless := (mode.caseless || set.contains 'i') && !clear.contains 'i',
    unicode := (mode.unicode || set.contains 'u') && !clear.contains 'u' }

/-- Flags do not repeat, and a dash stands in front of some. -/
def areFlags (flags : List Char) : Bool :=
  flags.all "imsUuRx-".toList.contains && flags.Nodup && flags.getLast? != some '-'

/-- The flags in front of a colon or a closing parenthesis, that mark, and what follows it. -/
def readFlags? (text : List Char) : Option (List Char × Char × List Char) :=
  let flags := text.takeWhile (fun c => c != ':' && c != ')')
  match text.drop flags.length with
  | stop :: rest => if areFlags flags then some (flags, stop, rest) else none
  | [] => none

def isGroupName : List Char → Bool
  | [] => false
  | c :: rest =>
      (c = '_' || Text.isAlphanumeric c && !Text.Decimal.isDigit c)
        && rest.all (fun c => "_.[]".toList.contains c || Text.isAlphanumeric c)

/-! ### Patterns -/

/-- What has been read of a pattern. -/
structure Reading where
  mode : Mode := {}
  /-- The modes around the open groups, that of the innermost first. -/
  outer : List Mode := []
  groupNames : List (List Char) := []
  /-- Whether there is something in front that can be repeated. -/
  repeatable : Bool := false
  wordBoundary : Bool := false
deriving Repr

def Reading.item (reading : Reading) : Reading :=
  { reading with repeatable := true }

def Reading.openGroup (reading : Reading) (mode : Mode) : Reading :=
  { reading with mode := mode, outer := reading.mode :: reading.outer, repeatable := false }

/-- Reads what stands behind an opening parenthesis. -/
def Reading.readGroup? (reading : Reading) (text : List Char)
    : Option (Reading × List Char) :=
  let named (text : List Char) : Option (Reading × List Char) := do
    let (name, rest) ← Text.cutAt '>' text
    if isGroupName name && !reading.groupNames.contains name then
      return ({ reading with groupNames := name :: reading.groupNames }.openGroup reading.mode,
        rest)
    else none
  match text with
  | '?' :: 'P' :: '<' :: rest | '?' :: '<' :: rest => named rest
  | '?' :: rest => do
      let (flags, stop, rest) ← readFlags? rest
      let mode := reading.mode.apply flags
      if stop = ':' then return (reading.openGroup mode, rest)
      else if flags.isEmpty then none
      else return ({ reading with mode := mode, repeatable := false }, rest)
  | _ => some (reading.openGroup reading.mode, text)

def Reading.readEscape? (reading : Reading) (text : List Char)
    : Option (Reading × List Char) := do
  let (escape, rest) ← ValuePattern.readEscape? text
  match escape with
  | .literal _ => if reading.mode.comparesCases then return (reading.item, rest) else none
  | .shorthand negated =>
      if reading.mode.allowsShorthand negated then return (reading.item, rest) else none
  | .edge => return (reading.item, rest)
  | .wordBoundary =>
      return ({ reading.item with
        wordBoundary := reading.wordBoundary || reading.mode.unicode }, rest)

/-- Takes one character into account, and those behind it that belong to it. A counted
repetition would need a closing brace. -/
def Reading.step? (reading : Reading) (c : Char) (rest : List Char)
    : Option (Reading × List Char) :=
  match c with
  | '(' => reading.readGroup? rest
  | ')' =>
      match reading.outer with
      | [] => none
      | mode :: outer => some ({ reading.item with mode := mode, outer := outer }, rest)
  | '|' => some ({ reading with repeatable := false }, rest)
  | '[' => (skipClass? reading.mode rest).map (reading.item, ·)
  | '?' | '*' | '+' =>
      if reading.repeatable then
        some (reading, if rest.head? = some '?' then rest.drop 1 else rest)
      else none
  | '\x7b' => none
  | '\\' => reading.readEscape? rest
  | '.' => if reading.mode.unicode then some (reading.item, rest) else none
  | '^' | '$' => some (reading.item, rest)
  | _ => if reading.mode.comparesCases then some (reading.item, rest) else none

/-- Reads to the end; `limit` is at least the text's length. -/
def Reading.readAll? (reading : Reading) : (limit : Nat) → List Char → Option Reading
  | _, [] => if reading.outer.isEmpty then some reading else none
  | 0, _ => none
  | limit + 1, c :: rest =>
      match reading.step? c rest with
      | none => none
      | some (next, rest) => next.readAll? limit rest

/-! ### Values -/

/-- Numerals with a sign in front would be malformed patterns, but are numbers. -/
def isSignedNumber (text : List Char) : Bool :=
  match text with
  | '+' :: unsigned =>
      let lower := unsigned.map Char.toLower
      let (mantissa, exponent) := (Text.cutAt 'e' lower).getD (lower, ['0'])
      let places := if (Text.cutAt '.' mantissa).isSome then mantissa.erase '.' else mantissa
      let power :=
        match exponent with
        | '+' :: digits | '-' :: digits => digits
        | digits => digits
      ["inf", "infinity", "nan"].contains (String.ofList lower)
        || (Text.Decimal.read? places).isSome && (Text.Decimal.read? power).isSome
  | _ => false

/-- What is wrong with a pattern, if anything is. -/
def error? (text : List Char) : Option PatternError :=
  if isSignedNumber text then none
  else
    match Reading.readAll? {} text.length text with
    | none => some .malformed
    | some reading => if reading.wordBoundary then some .wordBoundary else none

end ValuePattern

end CellRunner.LogFilter
