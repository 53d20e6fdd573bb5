/-!
# Numeric addresses

Hosts that are numbers: up to four of them with points between, the last one filling whatever
places are left, or in brackets eight groups of hexadecimal digits with colons between, of
which a double colon may leave out some.
-/

namespace UniformIter.Iri

/-- The parts of a text between points. -/
def labels : List Char → List (List Char)
  | [] => [[]]
  | c :: r =>
    if c == '.' then [] :: labels r
    else
      match labels r with
      | l :: more => (c :: l) :: more
      | [] => [[c]]

/-- The value of a hexadecimal digit. -/
def hexDigit? (c : Char) : Option Nat :=
  if c.isDigit then some (c.toNat - 48)
  else if 'a' ≤ c && c ≤ 'f' then some (c.toNat - 87)
  else if 'A' ≤ c && c ≤ 'F' then some (c.toNat - 55)
  else none

/-- The number that digits of a base write. -/
def numeral? (base : Nat) (digits : List Char) : Option Nat :=
  digits.foldlM (fun n c =>
    (hexDigit? c).bind fun d => if d < base then some (base * n + d) else none) 0

/-- The number that a part of an address writes: hexadecimal behind `0x`, octal behind another
zero, otherwise decimal. -/
def partValue? : List Char → Option Nat
  | [] => none
  | '0' :: 'x' :: r => numeral? 16 r
  | '0' :: 'X' :: r => numeral? 16 r
  | '0' :: c :: r => numeral? 8 (c :: r)
  | s => numeral? 10 s

/-- Whether the last part of a name is a number, so that the name has to be an address. An
empty part at the end does not count. -/
def endsInNumber (parts : List (List Char)) : Bool :=
  let isNumber (s : List Char) := (partValue? s).isSome || (!s.isEmpty && s.all Char.isDigit)
  match parts.reverse with
  | [] :: s :: _ => isNumber s
  | s :: _ => isNumber s
  | [] => false

/-- Whether parts are an address of four octets. -/
def isAddress (parts : List (List Char)) : Bool :=
  let parts := if parts.getLast? == some [] then parts.dropLast else parts
  match parts.mapM partValue? with
  | none => false
  | some numbers =>
    let before := numbers.dropLast
    before.length < 4 && before.all (· < 256) &&
      numbers.getLast?.any (· < Nat.pow 256 (4 - before.length))

/-- Whether a text is four octets in plain decimal digits. -/
def isDotted (s : List Char) : Bool :=
  let isOctet (part : List Char) : Bool :=
    (part.length == 1 || part.head? != some '0') && !part.isEmpty &&
      (numeral? 10 part).any (· < 256)
  (labels s).length == 4 && (labels s).all isOctet

/-- Whether groups may go on like this behind `count` groups. A double colon counts for one and
may come once; `gap` tells that it has. The last two groups may be four octets. -/
def isGroups (count : Nat) (gap : Bool) (s : List Char) : Bool :=
  let isWhole (count : Nat) : Bool := gap || count == 8
  if s.isEmpty then isWhole count
  else if 8 ≤ count then false
  else if s.head? == some ':' then !gap && isGroups (count + 1) true s.tail
  else
    let digits := (s.take 4).takeWhile fun c => (hexDigit? c).isSome
    match s.drop digits.length with
    | [] => isWhole (count + 1)
    | ':' :: _ =>
      let r := s.drop (digits.length + 1)
      !r.isEmpty && isGroups (count + 1) gap r
    | '.' :: _ => !digits.isEmpty && count ≤ 6 && isDotted s && isWhole (count + 2)
    | _ => false
termination_by s.length
decreasing_by
  · cases s with
    | nil => simp at *
    | cons c r => simp
  · have : 0 < s.length := by
      cases s with
      | nil => simp at *
      | cons c r => simp
    simp only [List.length_drop]
    omega

/-- Whether a text is an address of eight groups. -/
def isLongAddress (s : List Char) : Bool :=
  match s with
  | ':' :: ':' :: r => isGroups 1 true r
  | ':' :: _ => false
  | [] | [_] => false
  | _ => isGroups 0 false s

end UniformIter.Iri
