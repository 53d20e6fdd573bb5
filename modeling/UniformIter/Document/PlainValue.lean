import UniformIter.Decimal.Binary64

/-!
# What plain scalars stand for

A scalar without quotes may stand for nothing, a truth value, an integer or a fraction;
otherwise it is text. The writer quotes a string exactly when its plain form would not be
text.
-/

namespace UniformIter.Document

/-- What a plain scalar stands for. -/
inductive PlainValue where
  | null
  | boolean (value : Bool)
  | integer (value : Int)
  | finite (value : Binary64)
  | infinite (negative : Bool)
  | notANumber
  | text
  deriving Repr, DecidableEq

namespace PlainValue

/-- The words for nothing. -/
def isNull (s : String) : Bool :=
  s == "null" || s == "Null" || s == "NULL" || s == "~"

/-- The words for the truth values. -/
def boolean? (s : String) : Option Bool :=
  if s == "true" || s == "True" || s == "TRUE" then some true
  else if s == "false" || s == "False" || s == "FALSE" then some false
  else none

/-- The value of a digit in base 16 or below. -/
def digit? (base : Nat) (c : Char) : Option Nat :=
  let v? :=
    if c.isDigit then some (c.toNat - 48)
    else if 'a' ≤ c ∧ c ≤ 'f' then some (c.toNat - 87)
    else if 'A' ≤ c ∧ c ≤ 'F' then some (c.toNat - 55)
    else none
  v?.filter (· < base)

/-- The number that a string of digits writes; there has to be at least one. -/
def digits? (base : Nat) : List Char → Option Nat
  | [] => none
  | s => s.foldlM (fun n c => (digit? base c).map fun d => base * n + d) 0

/-- The text after one sign. -/
def unsigned : List Char → List Char
  | '+' :: r => r
  | '-' :: r => r
  | s => s

/-- Several digits with a leading zero, which are text and no number. -/
def isZeroPadded (s : List Char) : Bool :=
  match unsigned s with
  | '0' :: c :: r => (c :: r).all Char.isDigit
  | _ => false

/-- The size of an integer without sign: in base 16, 8 or 2 after a mark, else in base 10. -/
def magnitude? : List Char → Option Nat
  | '0' :: 'x' :: r => digits? 16 r
  | '0' :: 'o' :: r => digits? 8 r
  | '0' :: 'b' :: r => digits? 2 r
  | s => digits? 10 s

/-- The integer that a scalar writes, within 128 bits. -/
def integer? (s : List Char) : Option Int :=
  if isZeroPadded s then none
  else
    match s with
    | '-' :: r => (magnitude? r).bind fun n =>
      if n ≤ Nat.pow 2 127 then some (-(n : Int)) else none
    | _ => (magnitude? (unsigned s)).bind fun n =>
      if n < Nat.pow 2 128 then some (n : Int) else none

/-- The exponent at the end of a fraction. -/
def exponent? : List Char → Option Int
  | [] => some 0
  | c :: r =>
    if c == 'e' || c == 'E' then
      match r with
      | '-' :: r' => (digits? 10 r').map fun n => -(n : Int)
      | _ => (digits? 10 (if r.head? == some '+' then r.tail else r)).map fun n => (n : Int)
    else none

/-- The fraction that a scalar without sign writes, if it is not too large. -/
def fraction? (negative : Bool) (s : List Char) : Option Binary64 := do
  let whole := s.takeWhile Char.isDigit
  let r := s.dropWhile Char.isDigit
  let (part, r') := match r with
    | '.' :: r' => (r'.takeWhile Char.isDigit, r'.dropWhile Char.isDigit)
    | _ => ([], r)
  let digits ← digits? 10 (whole ++ part)
  let e ← exponent? r'
  Binary64.ofDecimal negative digits (e - part.length)

/-- The words for infinity, without sign. -/
def isInfinity (s : List Char) : Bool :=
  s == ".inf".toList || s == ".Inf".toList || s == ".INF".toList

/-- The words for what is not a number. -/
def isNotANumber (s : List Char) : Bool :=
  s == ".nan".toList || s == ".NaN".toList || s == ".NAN".toList

/-- The fraction, the infinity or the lack of a number that a scalar writes. -/
def float? (s : List Char) : Option PlainValue :=
  if isInfinity (unsigned s) then some (.infinite (s.head? == some '-'))
  else if isNotANumber s then some .notANumber
  else (fraction? (s.head? == some '-') (unsigned s)).map .finite

/-- What a plain scalar stands for. The empty one stands for nothing. -/
def of (s : String) : PlainValue :=
  let cs := s.toList
  if s.isEmpty || isNull s then .null
  else
    match boolean? s with
    | some b => .boolean b
    | none =>
      match integer? cs with
      | some n => .integer n
      | none => if isZeroPadded cs then .text else (float? cs).getD .text

end PlainValue

/-- Whether a string needs quotes, because its plain form stands for something else or looks
like a padded number. -/
def isAmbiguous (s : String) : Bool :=
  PlainValue.of s != .text || PlainValue.isZeroPadded s.toList

end UniformIter.Document
