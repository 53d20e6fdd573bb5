/-!
# Binary floating point numbers

The finite numbers of the 64-bit binary format as exact pairs of a significand and an
exponent, and the reading of a decimal fraction: the nearest of these numbers, ties going to
the even significand.
-/

namespace UniformIter

/-- The number `significand * 2 ^ exponent`, with a sign that zero has too. -/
structure Binary64 where
  negative : Bool
  significand : Nat
  exponent : Int
  deriving Repr, DecidableEq, Inhabited

namespace Binary64

/-- Significands are below two to this power. -/
def precision : Nat := 53

/-- The exponent of the numbers next to zero. -/
def leastExponent : Int := -1074

/-- The exponent of the largest numbers. -/
def greatestExponent : Int := 971

/-- The quotient rounded to the nearest whole number, a tie going to the even one. -/
def roundDiv (n d : Nat) : Nat :=
  let q := n / d
  let r := n % d
  if 2 * r < d || (2 * r == d && q % 2 == 0) then q else q + 1

/-- The fraction `n / d` divided by two to the power `e`, as a fraction. -/
def scaled (n d : Nat) (e : Int) : Nat × Nat :=
  if 0 ≤ e then (n, d * Nat.pow 2 e.toNat) else (n * Nat.pow 2 (-e).toNat, d)

/-- The nearest number to `n / d`, or `none` if it is too large. -/
def ofFraction (negative : Bool) (n d : Nat) : Option Binary64 :=
  if n == 0 then some ⟨negative, 0, 0⟩
  else
    let low : Int := max ((n.log2 : Int) - d.log2 - precision) leastExponent
    let (a, b) := scaled n d low
    let e := if a / b < Nat.pow 2 precision then low else low + 1
    let (a', b') := scaled n d e
    let m := roundDiv a' b'
    let (m', e') := if m == Nat.pow 2 precision then (Nat.pow 2 (precision - 1), e + 1) else (m, e)
    if greatestExponent < e' then none
    else if m' == 0 then some ⟨negative, 0, 0⟩
    else some ⟨negative, m', e'⟩

/-- The nearest number to `digits * 10 ^ power`, or `none` if it is too large. Powers beyond
the range of the format are decided without computing them. -/
def ofDecimal (negative : Bool) (digits : Nat) (power : Int) : Option Binary64 :=
  let size : Int := (Nat.toDigits 10 digits).length
  if digits == 0 then some ⟨negative, 0, 0⟩
  else if 310 < size + power then none
  else if size + power < -330 then some ⟨negative, 0, 0⟩
  else if 0 ≤ power then ofFraction negative (digits * Nat.pow 10 power.toNat) 1
  else ofFraction negative digits (Nat.pow 10 (-power).toNat)

end Binary64

end UniformIter
