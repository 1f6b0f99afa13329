/-!
When a decimal numeral is beyond the finite double-precision numbers. All arithmetic is exact,
on natural numbers.
-/

namespace CellRunner.Text.Binary64

/-- The least number that rounds to infinity: half a unit above the largest finite number. -/
def overflow : Nat :=
  Nat.pow 2 1024 - Nat.pow 2 970

/-- The nearest number with 53 significant bits; of two nearest ones the one whose last bit
is zero. -/
def nearest (n : Nat) : Nat :=
  if n < 0x20000000000000 then n
  else
    let unit := Nat.pow 2 (Nat.log2 n - 52)
    let quotient := n / unit
    let twice := 2 * (n % unit)
    if twice < unit || (twice = unit && quotient % 2 = 0) then quotient * unit
    else (quotient + 1) * unit

/-- Whether `significand * 10 ^ exponent` rounds to infinity. The number of digits settles it
for exponents that are too large to compute with. -/
def overflows (significand : Nat) (exponent : Int) : Bool :=
  if significand = 0 then false
  else
    let magnitude : Int := (Nat.toDigits 10 significand).length + exponent
    if 310 < magnitude then true
    else if magnitude < 300 then false
    else if 0 ≤ exponent then overflow ≤ significand * Nat.pow 10 exponent.toNat
    else overflow * Nat.pow 10 (-exponent).toNat ≤ significand

end CellRunner.Text.Binary64
