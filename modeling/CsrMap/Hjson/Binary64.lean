/-!
The binary floating-point number of 64 bits that is nearest to a decimal number.

A positive number `num / den` is written as `m * 2 ^ q` with the least exponent `q` that leaves
the significand `m` 53 bits, but not below the exponent of the subnormal numbers, and `m` is
rounded to the nearest integer, a half to the even one. The pattern of bits is then `(q + 1074)
* 2 ^ 52 + m`: a carry out of the significand moves into the exponent by itself.
-/

namespace CsrMap.Hjson.Binary64

/-- The quotient rounded to the nearest integer, a half to the even one. -/
def divideToEven (num den : Nat) : Nat :=
  let quotient := num / den
  let rest := num % den
  if 2 * rest < den then quotient
  else if den < 2 * rest then quotient + 1
  else quotient + quotient % 2

/-- Numerator and denominator of `num / den / 2 ^ q`. -/
def scaled (num den : Nat) (q : Int) : Nat × Nat :=
  if 0 ≤ q then (num, den <<< q.toNat) else (num <<< (-q).toNat, den)

def leastExponent : Int := -1074

/-- The exponent of the last bit of the significand of `num / den`. -/
def exponent (num den : Nat) : Int :=
  let q := max ((num.log2 : Int) - den.log2 - 52) leastExponent
  let (n, d) := scaled num den q
  if n / d < 1 <<< 52 ∧ leastExponent < q then q - 1 else q

/-- The bits of the finite number nearest to `num / den`, if there is one. -/
def ofRatio? (num den : Nat) : Option Nat :=
  let q := exponent num den
  let (n, d) := scaled num den q
  let bits := (q - leastExponent).toNat <<< 52 + divideToEven n d
  if bits < 0x7ff <<< 52 then some bits else none

/-- The bits of the number nearest to `digits * 10 ^ power`, without its sign. -/
def ofDecimal? (digits : Nat) (power : Int) : Option Nat :=
  let magnitude : Int := (Nat.toDigits 10 digits).length + power
  if digits = 0 ∨ magnitude < -400 then some 0
  else if 400 < magnitude then none
  else if 0 ≤ power then ofRatio? (digits * Nat.pow 10 power.toNat) 1
  else ofRatio? digits (Nat.pow 10 (-power).toNat)

def signBit : Nat := 1 <<< 63

end CsrMap.Hjson.Binary64
