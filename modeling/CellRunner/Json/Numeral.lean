import CellRunner.Text.Binary64
import CellRunner.Text.Decimal

/-!
JSON numerals: a sign, an integer without leading zeros, a fraction and an exponent. A numeral
whose value is no finite double-precision number is refused.
-/

namespace CellRunner.Json.Numeral

open CellRunner.Text

/-- The largest significand that is kept. Digits that would make it larger only count for the
magnitude. -/
def significandLimit : Nat :=
  Decimal.wordLimit - 1

/-- A significand times a power of ten. -/
structure Scaled where
  significand : Nat
  exponent : Int
deriving DecidableEq, Repr

/-- Once a digit of the integer part does not fit, it and the digits after it are left out. -/
def addInteger (digits : List Char) : Scaled :=
  digits.foldl
    (fun scaled c =>
      let next := scaled.significand * 10 + Decimal.digitValue c
      if scaled.exponent = 0 && next ≤ significandLimit then ⟨next, 0⟩
      else ⟨scaled.significand, scaled.exponent + 1⟩)
    ⟨0, 0⟩

/-- Digits of the fraction are taken as long as they fit. -/
def addFraction (scaled : Scaled) : List Char → Scaled
  | [] => scaled
  | c :: rest =>
      let next := scaled.significand * 10 + Decimal.digitValue c
      if next ≤ significandLimit then addFraction ⟨next, scaled.exponent - 1⟩ rest else scaled

/-- The powers of ten up to the 308th are doubles; the significand and the power are rounded
before they are multiplied. -/
def Scaled.isFinite (scaled : Scaled) : Bool :=
  scaled.significand = 0 || scaled.exponent < 0
    || (scaled.exponent ≤ 308
      && Binary64.nearest scaled.significand * Binary64.nearest (Nat.pow 10 scaled.exponent.toNat)
        < Binary64.overflow)

/-- An exponent of at most ten digits is large enough to settle every case. -/
def addExponent (scaled : Scaled) (negative : Bool) (digits : List Char) : Scaled :=
  let value : Int := min (Decimal.value digits) 0x7FFFFFFF
  ⟨scaled.significand, if negative then scaled.exponent - value else scaled.exponent + value⟩

def spanDigits (text : List Char) : List Char × List Char :=
  (text.takeWhile Decimal.isDigit, text.dropWhile Decimal.isDigit)

/-- The exponent part, or the end of the numeral. -/
def readExponent? (scaled : Scaled) : List Char → Option Scaled
  | [] => some scaled
  | e :: rest =>
      if e != 'e' && e != 'E' then none
      else
        let (negative, digits) :=
          match rest with
          | '-' :: digits => (true, digits)
          | '+' :: digits => (false, digits)
          | _ => (false, rest)
        if !digits.isEmpty && digits.all Decimal.isDigit then
          some (addExponent scaled negative digits)
        else none

def readUnsigned? (text : List Char) : Option Scaled :=
  let (integer, rest) := spanDigits text
  if integer.isEmpty || (integer.head? = some '0' && 1 < integer.length) then none
  else
    match rest with
    | '.' :: rest =>
        let (fraction, rest) := spanDigits rest
        if fraction.isEmpty then none
        else readExponent? (addFraction (addInteger integer) fraction) rest
    | _ => readExponent? (addInteger integer) rest

def isValid (text : List Char) : Bool :=
  let unsigned :=
    match text with
    | '-' :: rest => rest
    | _ => text
  ((readUnsigned? unsigned).map Scaled.isFinite).getD false

end CellRunner.Json.Numeral
