import UniformIter.Decimal.Scaled
import UniformIter.Json.Value

/-!
# Reading JSON

The strict grammar: no comments, no trailing commas, no leading zeros, no bare control
characters, no unpaired surrogates, and nothing but blanks around the value. Collections nest
at most 127 deep.
-/

namespace UniformIter.Json.Reader

/-- The blanks between tokens. -/
def isBlank (c : Char) : Bool := c == ' ' || c == '\t' || c == '\n' || c == '\x0d'

/-- The text after blanks. -/
def skip (s : List Char) : List Char := s.dropWhile isBlank

/-- The value of a hexadecimal digit. -/
def digit? (c : Char) : Option Nat :=
  if c.isDigit then some (c.toNat - 48)
  else if 'a' ≤ c ∧ c ≤ 'f' then some (c.toNat - 87)
  else if 'A' ≤ c ∧ c ≤ 'F' then some (c.toNat - 55)
  else none

/-- The number that four hexadecimal digits write. -/
def unit? (a b c d : Char) : Option Nat := do
  let a ← digit? a
  let b ← digit? b
  let c ← digit? c
  let d ← digit? d
  some (((a * 16 + b) * 16 + c) * 16 + d)

/-- The character that a single letter means after a backslash. -/
def escaped? (c : Char) : Option Char :=
  if c == '\x22' || c == '\\' || c == '/' then some c
  else if c == 'b' then some '\x08'
  else if c == 'f' then some '\x0c'
  else if c == 'n' then some '\n'
  else if c == 'r' then some '\x0d'
  else if c == 't' then some '\t'
  else none

/-- The code units of a string up to its closing quote, and the text after it. A character
beyond the quotes' own escapes is one unit. -/
def units : List Char → Option (List Nat × List Char)
  | [] => none
  | '\x22' :: r => some ([], r)
  | '\\' :: 'u' :: a :: b :: c :: d :: r => do
    let n ← unit? a b c d
    let (more, rest) ← units r
    some (n :: more, rest)
  | '\\' :: e :: r => do
    let c ← escaped? e
    let (more, rest) ← units r
    some (c.toNat :: more, rest)
  | c :: r =>
    if c.toNat < 0x20 then none
    else do
      let (more, rest) ← units r
      some (c.toNat :: more, rest)

/-- Whether a unit is the first half of a character. -/
def isLeading (n : Nat) : Bool := 0xD800 ≤ n && n < 0xDC00

/-- Whether a unit is the second half of a character. -/
def isTrailing (n : Nat) : Bool := 0xDC00 ≤ n && n < 0xE000

/-- The characters that code units stand for: a leading and a trailing half make one, and
neither may stand alone. -/
def joined : List Nat → Option (List Char)
  | [] => some []
  | n :: m :: r =>
    if isLeading n then
      if isTrailing m then
        (joined r).map (Char.ofNat (0x10000 + (n - 0xD800) * 0x400 + (m - 0xDC00)) :: ·)
      else none
    else if isTrailing n then none
    else (joined (m :: r)).map (Char.ofNat n :: ·)
  | [n] => if isLeading n || isTrailing n then none else some [Char.ofNat n]

/-- The string after an opening quote. -/
def text (s : List Char) : Option (String × List Char) := do
  let (us, rest) ← units s
  let cs ← joined us
  some (String.ofList cs, rest)

/-- The greatest number that counts as a whole one. -/
def greatestInteger : Nat := Nat.pow 2 64 - 1

/-- Digits taken up as long as the number stays within 64 bits, how many of them were taken
up, and how many more there are. -/
def gather (n : Nat) : List Char → Nat × Nat × Nat
  | [] => (n, 0, 0)
  | c :: r =>
    let m := n * 10 + (c.toNat - 48)
    if greatestInteger < m then (n, 0, r.length + 1)
    else
      let (total, taken, left) := gather m r
      (total, taken + 1, left)

/-- The exponent after its mark. -/
def exponent (s : List Char) : Option (Int × List Char) :=
  let (negative, r) := match s with
    | '-' :: r => (true, r)
    | '+' :: r => (false, r)
    | _ => (false, s)
  let digits := r.takeWhile Char.isDigit
  if digits.isEmpty then none
  else
    let n : Nat := digits.foldl (fun n c => n * 10 + (c.toNat - 48)) 0
    some (if negative then -(n : Int) else n, r.dropWhile Char.isDigit)

/-- The greatest exponent that is looked at; a larger one leaves nothing or too much. -/
def greatestExponent : Int := (Nat.pow 2 31 : Nat) - 1

/-- The fraction `n * 10 ^ power`, unless an exponent follows that changes it. -/
def fraction (negative : Bool) (n : Nat) (power : Int) (s : List Char) :
    Option (Json × List Char) :=
  match s with
  | c :: r =>
    if c == 'e' || c == 'E' then do
      let (e, rest) ← exponent r
      let x ←
        if greatestExponent < e && n != 0 then none
        else if greatestExponent < e || e < -greatestExponent then some ⟨negative, 0, 0⟩
        else Binary64.ofScaled negative n (power + e)
      some (.fraction x, rest)
    else (Binary64.ofScaled negative n power).map fun x => (.fraction x, s)
  | [] => (Binary64.ofScaled negative n power).map fun x => (.fraction x, s)

/-- The number after its sign. Digits that do not fit into 64 bits before the point count as
zeros, those after it are dropped. -/
def number (negative : Bool) (s : List Char) : Option (Json × List Char) :=
  let whole := s.takeWhile Char.isDigit
  let r := s.dropWhile Char.isDigit
  if whole.isEmpty || (whole.head? == some '0' && 1 < whole.length) then none
  else
    let (n, _, left) := gather 0 whole
    match r with
    | '.' :: r' =>
      let part := r'.takeWhile Char.isDigit
      if part.isEmpty then none
      else
        let (m, taken, _) := gather n part
        fraction negative m ((left : Int) - taken) (r'.dropWhile Char.isDigit)
    | _ =>
      if left != 0 || r.head? == some 'e' || r.head? == some 'E' then fraction negative n left r
      else if negative && (n == 0 || Nat.pow 2 63 < n) then fraction negative n 0 r
      else some (.integer (if negative then -(n : Int) else n), r)

mutual

/-- The value at the start of a text, and the text after it. `room` is how much deeper
collections may still nest. -/
def value (room : Nat) : (fuel : Nat) → List Char → Option (Json × List Char)
  | 0, _ => none
  | fuel + 1, s =>
    match s with
    | 'n' :: 'u' :: 'l' :: 'l' :: r => some (.null, r)
    | 't' :: 'r' :: 'u' :: 'e' :: r => some (.boolean true, r)
    | 'f' :: 'a' :: 'l' :: 's' :: 'e' :: r => some (.boolean false, r)
    | '\x22' :: r => (text r).map fun (t, rest) => (.string t, rest)
    | '[' :: r =>
      if room = 0 then none
      else
        match skip r with
        | ']' :: rest => some (.array [], rest)
        | r' => (items (room - 1) fuel r').map fun (xs, rest) => (.array xs, rest)
    | '\x7b' :: r =>
      if room = 0 then none
      else
        match skip r with
        | '\x7d' :: rest => some (.object [], rest)
        | r' => (entries (room - 1) fuel r').map fun (es, rest) => (.ofEntries es, rest)
    | '-' :: r => number true r
    | _ => number false s

/-- The items of an array up to its closing bracket. -/
def items (room : Nat) : (fuel : Nat) → List Char → Option (List Json × List Char)
  | 0, _ => none
  | fuel + 1, s => do
    let (x, r) ← value room fuel s
    match skip r with
    | ']' :: rest => some ([x], rest)
    | ',' :: r' =>
      let (xs, rest) ← items room fuel (skip r')
      some (x :: xs, rest)
    | _ => none

/-- The entries of an object up to its closing brace. -/
def entries (room : Nat) : (fuel : Nat) → List Char → Option (List (String × Json) × List Char)
  | 0, _ => none
  | fuel + 1, s =>
    match s with
    | '\x22' :: r => do
      let (k, r₁) ← text r
      match skip r₁ with
      | ':' :: r₂ =>
        let (x, r₃) ← value room fuel (skip r₂)
        match skip r₃ with
        | '\x7d' :: rest => some ([(k, x)], rest)
        | ',' :: r₄ =>
          let (es, rest) ← entries room fuel (skip r₄)
          some ((k, x) :: es, rest)
        | _ => none
      | _ => none
    | _ => none

end

/-- How deep collections may nest. -/
def greatestDepth : Nat := 127

end UniformIter.Json.Reader

namespace UniformIter.Json

/-- The value that a text holds. -/
def read (s : String) : Option Json :=
  let cs := Reader.skip s.toList
  match Reader.value Reader.greatestDepth (2 * cs.length + 2) cs with
  | some (v, rest) => if (Reader.skip rest).isEmpty then some v else none
  | none => none

end UniformIter.Json
