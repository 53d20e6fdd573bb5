/-!
# Text from bytes

Bytes read as UTF-8, with a replacement character for each run of bytes that begins a
character but does not end it, and for each byte that cannot begin one.
-/

namespace UniformIter.Text

/-- What stands for bytes that are no character. -/
def replacement : Char := '\uFFFD'

/-- A byte that goes on with a character. -/
def isTail (b : UInt8) : Bool := 0x80 ≤ b && b ≤ 0xBF

/-- The bits that a tail adds to a code point. -/
def extend (n : Nat) (b : UInt8) : Nat := n * 64 + (b.toNat - 0x80)

/-- The bytes that may come second behind a first byte of three. -/
def isSecondOfThree (a b : UInt8) : Bool :=
  isTail b && (a != 0xE0 || 0xA0 ≤ b) && (a != 0xED || b ≤ 0x9F)

/-- The bytes that may come second behind a first byte of four. -/
def isSecondOfFour (a b : UInt8) : Bool :=
  isTail b && (a != 0xF0 || 0x90 ≤ b) && (a != 0xF4 || b ≤ 0x8F)

/-- The characters of bytes. -/
def characters : List UInt8 → List Char
  | [] => []
  | a :: r =>
    if a < 0x80 then Char.ofNat a.toNat :: characters r
    else if 0xC2 ≤ a && a ≤ 0xDF then
      match r with
      | b :: r₁ =>
        if isTail b then Char.ofNat (extend (a.toNat - 0xC0) b) :: characters r₁
        else replacement :: characters (b :: r₁)
      | [] => [replacement]
    else if 0xE0 ≤ a && a ≤ 0xEF then
      match r with
      | b :: c :: r₂ =>
        if isSecondOfThree a b then
          if isTail c then
            Char.ofNat (extend (extend (a.toNat - 0xE0) b) c) :: characters r₂
          else replacement :: characters (c :: r₂)
        else replacement :: characters (b :: c :: r₂)
      | [b] => if isSecondOfThree a b then [replacement] else replacement :: characters [b]
      | [] => [replacement]
    else if 0xF0 ≤ a && a ≤ 0xF4 then
      match r with
      | b :: c :: d :: r₃ =>
        if isSecondOfFour a b then
          if isTail c then
            if isTail d then
              Char.ofNat (extend (extend (extend (a.toNat - 0xF0) b) c) d) :: characters r₃
            else replacement :: characters (d :: r₃)
          else replacement :: characters (c :: d :: r₃)
        else replacement :: characters (b :: c :: d :: r₃)
      | [b, c] =>
        if isSecondOfFour a b then
          if isTail c then [replacement] else replacement :: characters [c]
        else replacement :: characters [b, c]
      | [b] => if isSecondOfFour a b then [replacement] else replacement :: characters [b]
      | [] => [replacement]
    else replacement :: characters r
termination_by s => s.length

/-- The text of bytes. -/
def ofBytes (bytes : List UInt8) : String := String.ofList (characters bytes)

end UniformIter.Text
