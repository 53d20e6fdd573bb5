import UniformIter.Decimal.Binary64

/-!
# Shortest decimals

The text of a binary number: the fewest decimal digits that read back as the same number,
and of these the nearest to it. Where a tie between two of them goes, and which numbers are
written with an exponent, is for the format that holds the number.
-/

namespace UniformIter.Binary64

/-- Where a tie between two decimals goes: away from zero, or to the one that ends in an even
digit. -/
inductive Tie where
  | away
  | even
  deriving Repr, DecidableEq

/-- Whether half way behind `lower` the smaller decimal is taken. -/
def Tie.takesLower (tie : Tie) (lower : Nat) : Bool := tie == .even && lower % 2 == 0

/-- How a format writes numbers. -/
structure NumberForm where
  tie : Tie
  /-- The exponents of the first digit, both ends included, of the numbers that are written
  without an exponent; no bounds if all are. -/
  positional : Option (Int × Int)
  deriving Repr, DecidableEq

/-- Whether a number whose first digit has this exponent is written without one. -/
def NumberForm.isPositional (form : NumberForm) (exponent : Int) : Bool :=
  match form.positional with
  | none => true
  | some (low, high) => low ≤ exponent && exponent ≤ high

/-- A decimal fraction `digits * 10 ^ power`. -/
structure Decimal where
  digits : Nat
  power : Int
  deriving Repr, DecidableEq

/-- The numbers that round to a given one, on a common scale with it and with a decimal grid:
the number itself, both ends of the interval, and the step of the grid. -/
structure Scale where
  value : Nat
  low : Nat
  high : Nat
  step : Nat

/-- The scale of a number against the grid of multiples of `10 ^ power`. The lower neighbour
of a power of two is only half as far away. -/
def scale (x : Binary64) (power : Int) : Scale :=
  -- In quarters of the last place the bounds are whole numbers.
  let e := x.exponent - 2
  let unit := Nat.pow 2 e.toNat * Nat.pow 10 (-power).toNat
  let atPower := x.significand == Nat.pow 2 (precision - 1) && leastExponent < x.exponent
  let below := if atPower then 1 else 2
  { value := 4 * x.significand * unit
    low := (4 * x.significand - below) * unit
    high := (4 * x.significand + 2) * unit
    step := Nat.pow 10 power.toNat * Nat.pow 2 (-e).toNat }

/-- Whether a point of the scale rounds to the number. The ends do when its significand is
even. -/
def Scale.holds (s : Scale) (even : Bool) (point : Nat) : Bool :=
  if even then s.low ≤ point && point ≤ s.high else s.low < point && point < s.high

/-- The grid point nearest to the number, of the two beside it, among those that round to
it. -/
def nearestOnGrid (x : Binary64) (tie : Tie) (power : Int) : Option Decimal :=
  let s := x.scale power
  let even := x.significand % 2 == 0
  let lower := s.value / s.step
  let fitsLower := s.holds even (lower * s.step)
  let fitsUpper := s.holds even ((lower + 1) * s.step)
  let part := 2 * (s.value % s.step)
  let lowerIsNearer := part < s.step || (part == s.step && tie.takesLower lower)
  if fitsLower && (!fitsUpper || lowerIsNearer) then some ⟨lower, power⟩
  else if fitsUpper then some ⟨lower + 1, power⟩
  else none

/-- How many digits a number has before its decimal point, or minus the number of zeros after
it. -/
def magnitude (x : Binary64) : Int :=
  let places : Nat := 400
  let scaledUp := x.significand * Nat.pow 10 places * Nat.pow 2 x.exponent.toNat /
    Nat.pow 2 (-x.exponent).toNat
  ((Nat.toDigits 10 scaledUp).length : Int) - places

/-- The shortest decimal that reads back as the number: the first grid with a point that
does, from one digit on. -/
def shortest (x : Binary64) (tie : Tie) : Decimal :=
  if x.significand == 0 then ⟨0, 0⟩
  else
    let k := x.magnitude
    ((List.range 17).findSome? fun n : Nat =>
      x.nearestOnGrid tie (k - ((n : Int) + 1))).getD ⟨0, 0⟩

/-- Digits without the zeros at their end. -/
def trimmed (digits : List Char) : List Char :=
  (digits.reverse.dropWhile (· == '0')).reverse

/-- A decimal without exponent, with at least one digit on both sides of the point. -/
def Decimal.positional (d : Decimal) : String :=
  let digits := Nat.toDigits 10 d.digits
  if 0 ≤ d.power then
    let zeros := if d.digits == 0 then 0 else d.power.toNat
    String.ofList (digits ++ List.replicate zeros '0') ++ ".0"
  else
    let places := (-d.power).toNat
    let padded := List.replicate (places + 1 - digits.length) '0' ++ digits
    let whole := padded.take (padded.length - places)
    let fraction := trimmed (padded.drop (padded.length - places))
    String.ofList (whole ++ '.' :: (if fraction.isEmpty then ['0'] else fraction))

/-- The exponent of the first digit. -/
def Decimal.exponent (d : Decimal) : Int :=
  (Nat.toDigits 10 d.digits).length - 1 + d.power

/-- A decimal with one digit before the point and a signed exponent. A point that nothing
follows is left out. -/
def Decimal.scientific (d : Decimal) : String :=
  let (first, rest) := (Nat.toDigits 10 d.digits).splitAt 1
  let fraction := trimmed rest
  let point := if fraction.isEmpty then [] else ['.']
  let sign := if d.exponent < 0 then '-' else '+'
  String.ofList (first ++ point ++ fraction ++ ['e', sign]) ++ toString d.exponent.natAbs

/-- The text of a number. -/
def text (x : Binary64) (form : NumberForm) : String :=
  let d := x.shortest form.tie
  (if x.negative then "-" else "") ++
    if form.isPositional d.exponent then d.positional else d.scientific

end UniformIter.Binary64
