/-!
# Encoded labels

A label of a host name that holds characters beyond ASCII is written in ASCII: first its ASCII
characters, then, behind a hyphen, a number for each other character. The numbers tell in
ascending order of the code points how far the next insertion is from the last one. They are
written in base 36, each digit below a threshold of its place ending the number.
-/

namespace UniformIter.Iri

/-- The value of a digit of base 36. -/
def digit36? (c : Char) : Option Nat :=
  if c.isLower then some (c.toNat - 97)
  else if c.isUpper then some (c.toNat - 65)
  else if c.isDigit then some (c.toNat - 48 + 26)
  else none

/-- A digit that is less than this at its place ends the number. Places count in steps of 36. -/
def threshold (bias place : Nat) : Nat := min 26 (max 1 (place - bias))

/-- The bias after a distance, when the label has `length` characters. -/
def adapted (distance length : Nat) (first : Bool) : Nat :=
  let halved := distance / (if first then 700 else 2)
  settle (halved + halved / length) 0
where
  /-- Divides by 35 until the distance is small. -/
  settle (d k : Nat) : Nat :=
    if h : 455 < d then settle (d / 35) (k + 36) else k + 36 * d / (d + 38)
  termination_by d
  decreasing_by exact Nat.div_lt_self (by omega) (by omega)

/-- Reads a number from its digits, the lowest one first. -/
def readDistance (bias place weight sum : Nat) : List Char → Option (Nat × List Char)
  | [] => none
  | c :: r =>
    match digit36? c with
    | none => none
    | some d =>
      let t := threshold bias place
      if d < t then some (sum + d * weight, r)
      else readDistance bias (place + 36) (weight * (36 - t)) (sum + d * weight) r

theorem readDistance_length {bias place weight sum : Nat} {s r : List Char} {n : Nat}
    (h : readDistance bias place weight sum s = some (n, r)) : r.length < s.length := by
  induction s generalizing place weight sum with
  | nil => simp [readDistance] at h
  | cons c cs ih =>
    rw [readDistance] at h
    split at h
    next => simp at h
    next d _ =>
      dsimp only at h
      split at h
      next =>
        simp only [Option.some.injEq, Prod.mk.injEq] at h
        rw [← h.2]
        simp
      next => exact Nat.lt_succ_of_lt (ih h)

/-- Inserts the characters that numbers tell into a label. `code` is the last code point and
`index` the place behind its last insertion. -/
def insertAll (bias code index : Nat) (label : List Char) (s : List Char) :
    Option (List Char) :=
  if s.isEmpty then some label
  else
    match h : readDistance bias 36 1 0 s with
    | none => none
    | some (distance, r) =>
      let length := label.length + 1
      let code' := code + (index + distance) / length
      let place := (index + distance) % length
      if code'.isValidChar then
        insertAll (adapted distance length (index == 0)) code' (place + 1)
          (label.insertIdx place (Char.ofNat code')) r
      else none
termination_by s.length
decreasing_by exact readDistance_length h

/-- The label that is encoded as `s`. -/
def decodeLabel (s : List Char) : Option (List Char) :=
  let numbers := (s.reverse.takeWhile (· != '-')).reverse
  let plain := s.take (s.length - numbers.length - 1)
  -- A hyphen in front of everything parts nothing from the numbers, and is none of them.
  insertAll 72 128 0 plain (if plain.isEmpty then s else numbers)

end UniformIter.Iri
