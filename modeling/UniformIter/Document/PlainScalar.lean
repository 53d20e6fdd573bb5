import UniformIter.Document.QuotedScalar

/-!
# Plain scalars

Reads a scalar without quotes: words separated by gaps, up to a comment, an indicator that
ends it, a line indented too little, or a document mark.
-/

namespace UniformIter.Document

/-- The characters that delimit flow collections. -/
def isFlowIndicator (c : Char) : Bool :=
  c == ',' || c == '[' || c == ']' || c == '\x7b' || c == '\x7d'

/-- Whether a plain scalar ends before `c`, with `r` after it: at a colon before a gap, and
inside flow collections also at their indicators. -/
def endsPlain (inFlow : Bool) (c : Char) (r : List Char) : Bool :=
  (c == ':' && startsGapOrEnd r) || (inFlow && isFlowIndicator c)

/-- A colon directly before a flow indicator, which no plain scalar in a flow collection may
hold. -/
def isMisplacedColon (inFlow : Bool) (c : Char) (r : List Char) : Bool :=
  inFlow && c == ':' &&
    match r with
    | d :: _ => isFlowIndicator d || d == '?'
    | [] => false

/-- Reads one word of a plain scalar onto `acc`, which holds the characters before it, last
one first. Answers the characters, the length of the word and the text after it. -/
def readWord (inFlow : Bool) (acc : List Char) (n : Nat) :
    List Char → Option (List Char × Nat × List Char)
  | [] => some (acc, n, [])
  | c :: r =>
    if isGap c then some (acc, n, c :: r)
    else if isMisplacedColon inFlow c r then none
    else if endsPlain inFlow c r then some (acc, n, c :: r)
    else readWord inFlow (c :: acc) (n + 1) r

theorem readWord_length {inFlow : Bool} {acc acc' s r : List Char} {n m : Nat}
    (h : readWord inFlow acc n s = some (acc', m, r)) : r.length ≤ s.length := by
  induction s generalizing acc n with
  | nil =>
    simp only [readWord, Option.some.injEq, Prod.mk.injEq] at h
    simp [← h.2.2]
  | cons c t ih =>
    simp only [readWord] at h
    split at h
    · simp only [Option.some.injEq, Prod.mk.injEq] at h
      simp [← h.2.2]
    · split at h
      · simp at h
      · split at h
        · simp only [Option.some.injEq, Prod.mk.injEq] at h
          simp [← h.2.2]
        · exact Nat.le_succ_of_le (ih h)

/-- Whether a tab stands left of column `limit` on a line that the gap begins. `column` is
`none` before the first break. -/
def hasTabLeftOf (limit : Nat) (column : Option Nat) : List Char → Bool
  | [] => false
  | c :: r =>
    if isBreak c then hasTabLeftOf limit (some 0) r
    else
      match column with
      | none => hasTabLeftOf limit none r
      | some n => (c == '\t' && n < limit) || hasTabLeftOf limit (some (n + 1)) r

/-- What a plain scalar reads as. -/
structure PlainResult where
  /-- The characters, last one first. -/
  reversed : List Char
  /-- Where reading stopped. -/
  stop : Position
  rest : List Char
  /-- Whether reading went on to a later line before it stopped. -/
  crossedLine : Bool
  deriving Repr, DecidableEq

/-- Whether the text after a gap is no part of the plain scalar before it. -/
def endsAfterGap (inFlow : Bool) (limit : Nat) (gap : List Char) : List Char → Bool
  | [] => true
  | c :: r =>
    (gap.any isBreak && ((!inFlow && lastColumn gap < limit) ||
      (lastColumn gap == 0 && startsDocumentMark (c :: r)))) ||
    c == '#' || (endsPlain inFlow c r && !isMisplacedColon inFlow c r)

/-- Reads a plain scalar whose later lines are indented by at least `limit` characters. The
text starts with a word. -/
def readPlain (inFlow : Bool) (limit : Nat) (acc : List Char) (p : Position) (s : List Char) :
    Option PlainResult :=
  match _hw : readWord inFlow acc 0 s with
  | none => none
  | some (acc', n, r) =>
    let p' := p.right n
    if _hg : r.takeWhile isGap = [] then some ⟨acc', p', r, false⟩
    else
      let gap := r.takeWhile isGap
      let rest := r.dropWhile isGap
      if hasTabLeftOf limit none gap then none
      else if endsAfterGap inFlow limit gap rest then
        some ⟨acc', p'.past gap, rest, gap.any isBreak⟩
      else readPlain inFlow limit ((foldGap gap).reverse ++ acc') (p'.past gap) rest
termination_by s.length
decreasing_by
  have h1 := readWord_length _hw
  have h2 : (r.takeWhile isGap).length + (r.dropWhile isGap).length = r.length := by
    rw [← List.length_append, List.takeWhile_append_dropWhile]
  have h3 := List.length_pos_iff.2 _hg
  omega

end UniformIter.Document
