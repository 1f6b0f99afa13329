import CellRunner.Json.Numeral

/-!
JSON text cut into tokens, one character at a time. Strings are decoded on the way; an escape
that gives a surrogate needs its partner in the next escape.
-/

namespace CellRunner.Json

inductive Token where
  | openArray
  | closeArray
  | openObject
  | closeObject
  | colon
  | comma
  | null
  | boolean (b : Bool)
  | number (numeral : String)
  | string (s : String)
deriving DecidableEq, Repr

namespace Token

/-- What the characters so far leave unfinished. Characters are kept with the latest one
first. -/
inductive Mode where
  | between
  | word (letters : List Char)
  | numeral (chars : List Char)
  /-- Inside a string; `high` is the first half of a surrogate pair. -/
  | text (chars : List Char) (high : Option Nat)
  | escape (chars : List Char) (high : Option Nat)
  /-- Inside an escape by code unit, with `due` hexadecimal digits to come. -/
  | unit (chars : List Char) (high : Option Nat) (due : Nat) (value : Nat)
deriving Repr

structure Scan where
  /-- The tokens so far, the latest one first. -/
  tokens : List Token
  mode : Mode
deriving Repr

def isSpace (c : Char) : Bool :=
  c = ' ' || c = '\t' || c = '\n' || c = '\r'

def isNumeralChar (c : Char) : Bool :=
  Text.Decimal.isDigit c || c = '+' || c = '-' || c = '.' || c = 'e' || c = 'E'

def isLetter (c : Char) : Bool :=
  'a' ≤ c && c ≤ 'z'

def ofWord? (letters : List Char) : Option Token :=
  match String.ofList letters with
  | "null" => some .null
  | "true" => some (.boolean true)
  | "false" => some (.boolean false)
  | _ => none

def ofNumeral? (chars : List Char) : Option Token :=
  if Numeral.isValid chars then some (.number (String.ofList chars)) else none

def punctuation? (c : Char) : Option Token :=
  match c with
  | '[' => some .openArray
  | ']' => some .closeArray
  | '\x7b' => some .openObject
  | '\x7d' => some .closeObject
  | ':' => some .colon
  | ',' => some .comma
  | _ => none

/-- A character outside of all tokens. -/
def begin? (tokens : List Token) (c : Char) : Option Scan :=
  if isSpace c then some ⟨tokens, .between⟩
  else if c = '"' then some ⟨tokens, .text [] none⟩
  else if c = '-' || Text.Decimal.isDigit c then some ⟨tokens, .numeral [c]⟩
  else if isLetter c then some ⟨tokens, .word [c]⟩
  else (punctuation? c).map (fun token => ⟨token :: tokens, .between⟩)

def hexValue? (c : Char) : Option Nat :=
  if Text.Decimal.isDigit c then some (c.toNat - '0'.toNat)
  else if 'a' ≤ c && c ≤ 'f' then some (c.toNat - 'a'.toNat + 10)
  else if 'A' ≤ c && c ≤ 'F' then some (c.toNat - 'A'.toNat + 10)
  else none

def unescape? (c : Char) : Option Char :=
  match c with
  | '"' | '\\' | '/' => some c
  | 'b' => some (Char.ofNat 8)
  | 'f' => some (Char.ofNat 12)
  | 'n' => some '\n'
  | 'r' => some '\r'
  | 't' => some '\t'
  | _ => none

def isHigh (n : Nat) : Bool :=
  0xD800 ≤ n && n ≤ 0xDBFF

def isLow (n : Nat) : Bool :=
  0xDC00 ≤ n && n ≤ 0xDFFF

/-- A complete code unit: a character of its own, one half of a pair, or an error. -/
def endUnit? (chars : List Char) (high : Option Nat) (n : Nat) : Option Mode :=
  match high with
  | none =>
      if isHigh n then some (.text chars (some n))
      else if isLow n then none
      else some (.text (Char.ofNat n :: chars) none)
  | some h =>
      if isLow n then
        some (.text (Char.ofNat (0x10000 + (h - 0xD800) * 0x400 + (n - 0xDC00)) :: chars) none)
      else none

def step? (scan : Scan) (c : Char) : Option Scan :=
  match scan.mode with
  | .between => begin? scan.tokens c
  | .word letters =>
      if isLetter c then some ⟨scan.tokens, .word (c :: letters)⟩
      else (ofWord? letters.reverse).bind (fun token => begin? (token :: scan.tokens) c)
  | .numeral chars =>
      if isNumeralChar c then some ⟨scan.tokens, .numeral (c :: chars)⟩
      else (ofNumeral? chars.reverse).bind (fun token => begin? (token :: scan.tokens) c)
  | .text chars high =>
      if c = '\\' then some ⟨scan.tokens, .escape chars high⟩
      else if high.isSome then none
      else if c = '"' then
        some ⟨.string (String.ofList chars.reverse) :: scan.tokens, .between⟩
      else if c.toNat < 0x20 then none
      else some ⟨scan.tokens, .text (c :: chars) none⟩
  | .escape chars high =>
      if c = 'u' then some ⟨scan.tokens, .unit chars high 4 0⟩
      else if high.isSome then none
      else (unescape? c).map (fun c => ⟨scan.tokens, .text (c :: chars) none⟩)
  | .unit chars high due value =>
      match hexValue? c with
      | none => none
      | some digit =>
          let value := value * 16 + digit
          if due = 1 then (endUnit? chars high value).map (⟨scan.tokens, ·⟩)
          else some ⟨scan.tokens, .unit chars high (due - 1) value⟩

def finish? (scan : Scan) : Option (List Token) :=
  match scan.mode with
  | .between => some scan.tokens.reverse
  | .word letters =>
      (ofWord? letters.reverse).map (fun token => (token :: scan.tokens).reverse)
  | .numeral chars =>
      (ofNumeral? chars.reverse).map (fun token => (token :: scan.tokens).reverse)
  | _ => none

def ofText? (text : List Char) : Option (List Token) :=
  (text.foldlM step? ⟨[], .between⟩).bind finish?

end Token

end CellRunner.Json
