/-!
# Identifiers

The names that every target language accepts as they stand: ASCII letters, digits and
underscores, with no digit at the front.
-/

namespace UniformIter

/-- The letters of ASCII. -/
def isLetter (c : Char) : Bool :=
  ('a' ≤ c && c ≤ 'z') || ('A' ≤ c && c ≤ 'Z')

/-- Whether an identifier may begin with this character. -/
def startsIdentifier (c : Char) : Bool := isLetter c || c == '_'

/-- Whether an identifier may go on with this character. -/
def continuesIdentifier (c : Char) : Bool := startsIdentifier c || c.isDigit

/-- Whether characters form an identifier. -/
def formIdentifier : List Char → Bool
  | [] => false
  | c :: r => startsIdentifier c && r.all continuesIdentifier

/-- Whether a text is an identifier. -/
def isIdentifier (s : String) : Bool := formIdentifier s.toList

@[simp] theorem formIdentifier_nil : formIdentifier [] = false := rfl

theorem formIdentifier_cons (c : Char) (r : List Char) :
    formIdentifier (c :: r) = (startsIdentifier c && r.all continuesIdentifier) := rfl

/-- A character that may begin an identifier may also stand inside one. -/
theorem continuesIdentifier_of_starts {c : Char} (h : startsIdentifier c = true) :
    continuesIdentifier c = true := by
  simp [continuesIdentifier, h]

/-- Every character of an identifier may stand inside one. -/
theorem all_continues_of_formIdentifier {s : List Char} (h : formIdentifier s = true) :
    s.all continuesIdentifier = true := by
  cases s with
  | nil => exact absurd h (by simp)
  | cons c r =>
    rw [formIdentifier_cons, Bool.and_eq_true] at h
    rw [List.all_cons, continuesIdentifier_of_starts h.1, h.2]
    rfl

/-- What may not stand inside an identifier stands in none. -/
theorem not_mem_of_isIdentifier {s : String} (h : isIdentifier s = true) {c : Char}
    (hc : continuesIdentifier c = false) : c ∉ s.toList := by
  intro hmem
  rw [List.all_eq_true.1 (all_continues_of_formIdentifier h) c hmem] at hc
  cases hc

end UniformIter
