import CellRunner.Text.Binary64
import CellRunner.Text.Decimal
import CellRunner.Text.Fields
import CellRunner.Toml.Value

/-!
TOML scalars other than strings: integers in four bases, floating-point numbers, booleans,
dates and times. Digits may be separated by single underscores.
-/

namespace CellRunner.Toml.Scalar

open CellRunner.Text

/-- Digits with single underscores between them, without the underscores. -/
def digits? (isDigit : Char → Bool) (text : List Char) : Option (List Char) :=
  let groups := Text.fields (· == '_') text
  if groups.all (fun group => !group.isEmpty && group.all isDigit) then some groups.flatten
  else none

def digitValue (c : Char) : Nat :=
  if Decimal.isDigit c then c.toNat - '0'.toNat
  else if 'a' ≤ c && c ≤ 'f' then c.toNat - 'a'.toNat + 10
  else c.toNat - 'A'.toNat + 10

def isHexDigit (c : Char) : Bool :=
  Decimal.isDigit c || ('a' ≤ c && c ≤ 'f') || ('A' ≤ c && c ≤ 'F')

def valueIn (base : Nat) (digits : List Char) : Nat :=
  digits.foldl (fun n c => n * base + digitValue c) 0

/-- Integers are signed 64-bit words. -/
def inRange? (n : Int) : Option Value :=
  if -0x8000000000000000 ≤ n && n < 0x8000000000000000 then some (.integer n) else none

/-- A sign, whether it is a minus, and the rest. -/
def splitSign : List Char → Bool × List Char
  | '-' :: rest => (true, rest)
  | '+' :: rest => (false, rest)
  | text => (false, text)

/-- Decimal digits without a leading zero. -/
def decimal? (text : List Char) : Option (List Char) :=
  if text.head? = some '0' && 1 < text.length then none else digits? Decimal.isDigit text

def inBase? (base : Nat) (isDigit : Char → Bool) (text : List Char) : Option Value :=
  (digits? isDigit text).bind (fun digits => inRange? (valueIn base digits))

def integer? (text : List Char) : Option Value :=
  match text with
  | '0' :: 'x' :: rest => inBase? 16 isHexDigit rest
  | '0' :: 'o' :: rest => inBase? 8 (fun c => '0' ≤ c && c ≤ '7') rest
  | '0' :: 'b' :: rest => inBase? 2 (fun c => c = '0' || c = '1') rest
  | _ =>
      let (negative, unsigned) := splitSign text
      (decimal? unsigned).bind fun digits =>
        let n : Int := Decimal.value digits
        inRange? (if negative then -n else n)

/-- The exponent after its letter. -/
def exponent? (text : List Char) : Option Int :=
  let (negative, unsigned) := splitSign text
  (digits? Decimal.isDigit unsigned).map fun digits =>
    let n : Int := Decimal.value digits
    if negative then -n else n

def isExponentMark (c : Char) : Bool :=
  c = 'e' || c = 'E'

/-- A number with a fraction or an exponent. One that is too large is infinite, which only a
negative number may be. -/
def float? (text : List Char) : Option Value :=
  let (negative, unsigned) := splitSign text
  let mantissa := unsigned.takeWhile (fun c => !isExponentMark c)
  let afterMantissa := unsigned.dropWhile (fun c => !isExponentMark c)
  let exponent := if afterMantissa.isEmpty then some 0 else exponent? (afterMantissa.drop 1)
  let parts : Option (List Char × List Char) :=
    match Text.cutAt '.' mantissa with
    | none => if afterMantissa.isEmpty then none else (decimal? mantissa).map (·, [])
    | some (whole, fraction) =>
        (decimal? whole).bind fun whole =>
          (digits? Decimal.isDigit fraction).map fun fraction => (whole, fraction)
  match parts, exponent with
  | some (whole, fraction), some exponent =>
      let overflows :=
        Binary64.overflows (Decimal.value (whole ++ fraction)) (exponent - fraction.length)
      if overflows && !negative then none else some (.float (String.ofList text))
  | _, _ => none

def special? (text : List Char) : Option Value :=
  let unsigned := (splitSign text).2
  if unsigned = "inf".toList || unsigned = "nan".toList then
    some (.float (String.ofList text))
  else none

def boolean? (text : List Char) : Option Value :=
  if text = "true".toList then some (.boolean true)
  else if text = "false".toList then some (.boolean false)
  else none

/-- A number of exactly `length` digits. -/
def fixed? (length : Nat) (text : List Char) : Option Nat :=
  if text.length = length then Decimal.read? text else none

def isLeapYear (year : Nat) : Bool :=
  year % 4 = 0 && (year % 100 != 0 || year % 400 = 0)

def daysIn (year month : Nat) : Nat :=
  if month = 2 then (if isLeapYear year then 29 else 28)
  else if month = 4 || month = 6 || month = 9 || month = 11 then 30
  else 31

def isDate (text : List Char) : Bool :=
  match Text.fields (· == '-') text with
  | [year, month, day] =>
      match fixed? 4 year, fixed? 2 month, fixed? 2 day with
      | some year, some month, some day =>
          1 ≤ month && month ≤ 12 && 1 ≤ day && day ≤ daysIn year month
      | _, _, _ => false
  | _ => false

def isSecond (text : List Char) : Bool :=
  match Text.cutAt '.' text with
  | none => (fixed? 2 text).any (· ≤ 60)
  | some (whole, fraction) =>
      (fixed? 2 whole).any (· ≤ 60) && !fraction.isEmpty
        && fraction.all Decimal.isDigit

def isHourMinute (hour minute : List Char) : Bool :=
  match fixed? 2 hour, fixed? 2 minute with
  | some hour, some minute => hour < 24 && minute < 60
  | _, _ => false

/-- A time of day; the sixtieth second is that of a leap second. -/
def isTime (text : List Char) : Bool :=
  match Text.fields (· == ':') text with
  | [hour, minute, second] => isHourMinute hour minute && isSecond second
  | _ => false

def isOffset (text : List Char) : Bool :=
  match text with
  | ['Z'] | ['z'] => true
  | sign :: rest =>
      (sign = '+' || sign = '-')
        && match Text.fields (· == ':') rest with
          | [hour, minute] => isHourMinute hour minute
          | _ => false
  | [] => false

/-- A time of day that may be followed by its offset. -/
def isTimeWithOffset (text : List Char) : Bool :=
  let isTimeChar (c : Char) : Bool := Decimal.isDigit c || c = ':' || c = '.'
  let offset := text.dropWhile isTimeChar
  isTime (text.takeWhile isTimeChar) && (offset.isEmpty || isOffset offset)

/-- A date, a time, or both with a `T` between them. -/
def dateTime? (text : List Char) : Option Value :=
  let valid :=
    isDate text || isTime text
      || (isDate (text.take 10) && (text[10]? = some 'T' || text[10]? = some 't')
        && isTimeWithOffset (text.drop 11))
  if valid then some (.dateTime (String.ofList text)) else none

/-- The value of a run of characters that can stand in a scalar. -/
def read? (text : List Char) : Option Value :=
  boolean? text <|> special? text <|> dateTime? text <|> integer? text <|> float? text

end CellRunner.Toml.Scalar
