/-!
# Characters and positions of a settings document

A settings document is YAML text, read as a list of characters. This file holds the
character classes that its lexical rules speak of and the position type that error
messages report: a line and a column, both counted in characters from zero.

`Position.past` moves a position over a piece of text; `Position.past_of_no_break` says
that within a line only the column grows.
-/

namespace UniformIter.Document

/-- A space or a tab. -/
def isBlank (c : Char) : Bool := c == ' ' || c == '\t'

/-- A character that ends a line: CR, LF, NEL and the two Unicode separators. -/
def isBreak (c : Char) : Bool :=
  c == '\n' || c == '\r' || c == '\u0085' || c == '\u2028' || c == '\u2029'

/-- A blank or a line break: what may stand between two words of a scalar. -/
def isGap (c : Char) : Bool := isBlank c || isBreak c

/-- The characters a document may hold. Any other makes the whole text unreadable. -/
def isAllowed (c : Char) : Bool :=
  let n := c.toNat
  n == 0x09 || n == 0x0A || n == 0x0D || (0x20 ≤ n && n ≤ 0x7E) || n == 0x85 ||
    (0xA0 ≤ n && n ≤ 0xD7FF) || (0xE000 ≤ n && n ≤ 0xFFFD) || 0x10000 ≤ n

/-- The mark that may open a line and stands for nothing. -/
def byteOrderMark : Char := '\uFEFF'

/-- Letters, digits, `_` and `-`: the alphabet of anchors and tag handles. -/
def isWordChar (c : Char) : Bool :=
  c.isAlphanum || c == '_' || c == '-'

/-- Whether a blank, a break or the end of the text comes next. -/
def startsGapOrEnd : List Char → Bool
  | [] => true
  | c :: _ => isGap c

/-- Where a character stands: line and column from zero. -/
structure Position where
  line : Nat
  column : Nat
  deriving Repr, DecidableEq, Inhabited

namespace Position

/-- The first character of a text. -/
def origin : Position := ⟨0, 0⟩

/-- `n` characters further on the same line. -/
def right (p : Position) (n : Nat) : Position :=
  { p with column := p.column + n }

/-- The start of the next line. -/
def nextLine (p : Position) : Position := ⟨p.line + 1, 0⟩

/-- The position after a piece of text. A carriage return with its line feed is one break. -/
def past (p : Position) : List Char → Position
  | [] => p
  | '\r' :: '\n' :: r => past p.nextLine r
  | c :: r => past (if isBreak c then p.nextLine else p.right 1) r

@[simp] theorem past_nil (p : Position) : p.past [] = p := by
  simp [past]

/-- A character that starts no two-character break moves the position by itself. -/
theorem past_cons (p : Position) {c : Char} (h : c ≠ '\r') (r : List Char) :
    p.past (c :: r) = past (if isBreak c then p.nextLine else p.right 1) r := by
  rw [past]
  intro r' hc
  exact absurd hc h

/-- Text without breaks only moves the position to the right. -/
theorem past_of_no_break (p : Position) {s : List Char} (h : ∀ c ∈ s, isBreak c = false) :
    p.past s = p.right s.length := by
  induction s generalizing p with
  | nil => simp [right]
  | cons c r ih =>
    have hc : isBreak c = false := h c (by simp)
    have hr : c ≠ '\r' := by
      rintro rfl
      simp [isBreak] at hc
    rw [past_cons p hr, hc]
    simp only [Bool.false_eq_true, if_false]
    rw [ih (p.right 1) fun d hd => h d (by simp [hd])]
    simp only [right, List.length_cons, Position.mk.injEq, true_and]
    omega

end Position

/-- The break that comes next, as the character a scalar keeps for it, and the text after it.
Every break is kept as a line feed except the two Unicode separators, which stand for
themselves. -/
def readBreak : List Char → Option (Char × List Char)
  | [] => none
  | '\r' :: '\n' :: r => some ('\n', r)
  | c :: r =>
    if isBreak c then some (if c == '\u2028' || c == '\u2029' then c else '\n', r) else none

theorem readBreak_length {s r : List Char} {b : Char} (h : readBreak s = some (b, r)) :
    r.length < s.length := by
  unfold readBreak at h
  split at h
  · simp at h
  · simp only [Option.some.injEq, Prod.mk.injEq] at h
    obtain ⟨-, rfl⟩ := h
    simp only [List.length_cons]
    omega
  · split at h
    · simp only [Option.some.injEq, Prod.mk.injEq] at h
      obtain ⟨-, rfl⟩ := h
      simp
    · simp at h

/-- The breaks of a piece of text, each as the character a scalar keeps for it. -/
def breaksOf : List Char → List Char
  | [] => []
  | '\r' :: '\n' :: r => '\n' :: breaksOf r
  | c :: r =>
    if isBreak c then (if c == '\u2028' || c == '\u2029' then c else '\n') :: breaksOf r
    else breaksOf r

/-- How many characters follow the last break of a piece of text. -/
def lastColumn (s : List Char) : Nat :=
  (s.reverse.takeWhile fun c => !isBreak c).length

/-- What a gap between two words of a flow scalar stands for. Blanks on one line are kept.
Across lines the blanks go, a single line feed becomes a space, and of several breaks
a leading line feed is dropped. -/
def foldGap (gap : List Char) : List Char :=
  match breaksOf gap with
  | [] => gap
  | ['\n'] => [' ']
  | '\n' :: more => more
  | breaks => breaks

/-- Whether the text starts with one of the marks `---` and `...` that end a document
when they open a line. -/
def startsDocumentMark : List Char → Bool
  | '-' :: '-' :: '-' :: r => startsGapOrEnd r
  | '.' :: '.' :: '.' :: r => startsGapOrEnd r
  | _ => false

end UniformIter.Document
