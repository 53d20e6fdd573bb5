import UniformIter.Decimal.Binary64

/-!
# Reading a number in rounded steps

A number with a fraction or an exponent may be read step by step in the binary format: its
digits are rounded, then multiplied or divided by a rounded power of ten. Each step rounds, so
the outcome need not be the nearest number.
-/

namespace UniformIter.Binary64

/-- The size of a number as a fraction. -/
def ratio (x : Binary64) : Nat × Nat :=
  (x.significand * Nat.pow 2 x.exponent.toNat, Nat.pow 2 (-x.exponent).toNat)

/-- The rounded product, or `none` if it is too large. -/
def mul (x y : Binary64) : Option Binary64 :=
  let (a, b) := x.ratio
  let (c, d) := y.ratio
  ofFraction (x.negative != y.negative) (a * c) (b * d)

/-- The rounded quotient by a number other than zero, or `none` if it is too large. -/
def div (x y : Binary64) : Option Binary64 :=
  let (a, b) := x.ratio
  let (c, d) := y.ratio
  ofFraction (x.negative != y.negative) (a * d) (b * c)

/-- The greatest power of ten that the format holds. -/
def greatestPower : Nat := 308

/-- Ten to a power, rounded. -/
def powerOfTen (n : Nat) : Option Binary64 := ofFraction false (Nat.pow 10 n) 1

/-- A number multiplied by ten to `power`, or `none` if the outcome is too large. Beyond the
greatest power the number is divided in two steps; a third one would leave nothing. -/
def scaleUp (x : Binary64) (power : Int) : Option Binary64 :=
  if x.significand == 0 then some x
  else if (greatestPower : Int) < power then none
  else if 0 ≤ power then (powerOfTen power.toNat).bind x.mul
  else
    let divide (y : Binary64) (n : Nat) : Option Binary64 := (powerOfTen n).bind y.div
    let n := (-power).toNat
    if n ≤ greatestPower then divide x n
    else if n ≤ 2 * greatestPower then
      (divide x greatestPower).bind fun y => divide y (n - greatestPower)
    else some ⟨x.negative, 0, 0⟩

/-- The number `digits * 10 ^ power`, read in rounded steps. -/
def ofScaled (negative : Bool) (digits : Nat) (power : Int) : Option Binary64 :=
  ((ofFraction false digits 1).bind fun x => x.scaleUp power).map fun x => { x with negative }

end UniformIter.Binary64
