import UniformIter.Document.QuotedScalar

/-!
# Block scalars

Reads the indented lines after `|` or `>`: a header that may fix the indentation and say what
happens to the final breaks, then every line that is indented as far as the first one.
-/

namespace UniformIter.Document

/-- What happens to the line breaks at the end of a block scalar. -/
inductive Chomping where
  /-- All are dropped. -/
  | strip
  /-- One is kept. -/
  | clip
  /-- All are kept. -/
  | keep
  deriving Repr, DecidableEq

/-- What the first line of a block scalar says. -/
structure BlockHeader where
  chomping : Chomping
  /-- How far the lines are indented beyond the enclosing block, if it is said. -/
  increment : Option Nat
  deriving Repr, DecidableEq

/-- The chomping that a character of the header asks for. -/
def chomping? : Char → Option Chomping
  | '+' => some .keep
  | '-' => some .strip
  | _ => none

/-- Reads the indicators of a header, in either order, and how many there are. An indentation
of zero is refused. -/
def readIndicators : List Char → Option (BlockHeader × Nat × List Char)
  | [] => some (⟨.clip, none⟩, 0, [])
  | c :: r =>
    match chomping? c with
    | some k =>
      match r with
      | d :: r' =>
        if d == '0' then none
        else if d.isDigit then some (⟨k, some (d.toNat - 48)⟩, 2, r')
        else some (⟨k, none⟩, 1, r)
      | [] => some (⟨k, none⟩, 1, [])
    | none =>
      if c == '0' then none
      else if c.isDigit then
        match r with
        | d :: r' =>
          match chomping? d with
          | some k => some (⟨k, some (c.toNat - 48)⟩, 2, r')
          | none => some (⟨.clip, some (c.toNat - 48)⟩, 1, r)
        | [] => some (⟨.clip, some (c.toNat - 48)⟩, 1, [])
      else some (⟨.clip, none⟩, 0, c :: r)

/-- The rest of a line that may hold only blanks and a comment: the position and the text
after its break. -/
def endLine? (p : Position) (s : List Char) : Option (Position × List Char) :=
  let blanks := s.takeWhile isBlank
  match s.dropWhile isBlank with
  | [] => some (p.right blanks.length, [])
  | c :: r =>
    let comment := if c == '#' then r.takeWhile (!isBreak ·) else []
    match if c == '#' then r.dropWhile (!isBreak ·) else c :: r with
    | [] => some (p.right (blanks.length + 1 + comment.length), [])
    | after => (readBreak after).map fun (_, r') => (p.nextLine, r')

/-- The spaces that open a line, at most `limit` of them if a limit is given. -/
def leadingSpaces (limit : Option Nat) (s : List Char) : Nat :=
  let n := (s.takeWhile (· == ' ')).length
  match limit with
  | some m => min n m
  | none => n

/-- Blank lines and the indentation of the line after them. -/
structure Indentation where
  /-- The breaks of the blank lines, last one first. -/
  breaks : List Char
  /-- The widest line start seen. -/
  widest : Nat
  position : Position
  rest : List Char

/-- Reads blank lines and the indentation after them. A tab in the indentation is refused. -/
def readIndentation (limit : Option Nat) (breaks : List Char) (widest : Nat) (p : Position)
    (s : List Char) : Option Indentation :=
  let n := leadingSpaces limit s
  let r := s.drop n
  let p' := p.right n
  let widest' := max widest p'.column
  let short := match limit with
    | some m => p'.column < m
    | none => true
  if short && r.head? == some '\t' then none
  else
    match _hb : readBreak r with
    | some (b, r') => readIndentation limit (b :: breaks) widest' (p'.nextLine) r'
    | none => some ⟨breaks, widest', p', r⟩
termination_by s.length
decreasing_by
  have h1 := readBreak_length _hb
  have h2 : r.length ≤ s.length := by
    simp only [r, List.length_drop]
    omega
  omega

theorem readIndentation_length {limit : Option Nat} {breaks : List Char} {widest : Nat}
    {p : Position} {s : List Char} {i : Indentation}
    (h : readIndentation limit breaks widest p s = some i) : i.rest.length ≤ s.length := by
  fun_induction readIndentation limit breaks widest p s with
  | case1 => simp at h
  | case2 breaks widest p s n r p' widest' short _ b r' hb ih =>
    have h1 := readBreak_length hb
    have h2 : r.length ≤ s.length := by
      simp only [r, List.length_drop]
      omega
    have h3 := ih h
    omega
  | case3 breaks widest p s n r p' widest' short =>
    simp only [Option.some.injEq] at h
    simp only [← h, r, List.length_drop]
    omega

/-- The text of the lines read so far and what may still be added to it. -/
structure BlockLines where
  /-- The characters, last one first. -/
  reversed : List Char
  /-- The break after the last line. -/
  lastBreak : Option Char
  /-- The breaks of the blank lines after that, last one first. -/
  blankLines : List Char
  /-- Whether the last line opens with a blank. -/
  openedBlank : Bool

/-- Adds to the text what stands for the breaks before a line. In a folded scalar one line
feed between two lines that open with no blank becomes a space, or nothing if blank lines
follow. -/
def BlockLines.joined (l : BlockLines) (literal opensBlank : Bool) : List Char :=
  let text :=
    if !literal && l.lastBreak == some '\n' && !l.openedBlank && !opensBlank then
      if l.blankLines.isEmpty then ' ' :: l.reversed else l.reversed
    else l.lastBreak.toList ++ l.reversed
  l.blankLines ++ text

/-- The text with the final breaks that the header keeps. -/
def BlockLines.chomped (l : BlockLines) : Chomping → List Char
  | .strip => l.reversed
  | .clip => l.lastBreak.toList ++ l.reversed
  | .keep => l.blankLines ++ (l.lastBreak.toList ++ l.reversed)

/-- Reads the lines of a block scalar that are indented by exactly `indent` characters. -/
def readLines (literal : Bool) (indent : Nat) (l : BlockLines) (p : Position) (s : List Char) :
    Option (BlockLines × Position × List Char) :=
  if p.column ≠ indent then some (l, p, s)
  else
    match s with
    | [] => some (l, p, [])
    | c :: r =>
      let opensBlank := isBlank c
      let line := r.takeWhile (!isBreak ·)
      let after := r.dropWhile (!isBreak ·)
      let text := line.reverse ++ (c :: l.joined literal opensBlank)
      let p' := p.right (line.length + 1)
      match _hb : readBreak after with
      | none => some (⟨text, none, [], opensBlank⟩, p', after)
      | some (b, r') =>
        match _hi : readIndentation (some indent) [] 0 (p'.nextLine) r' with
        | none => none
        | some i => readLines literal indent ⟨text, some b, i.breaks, opensBlank⟩ i.position i.rest
termination_by s.length
decreasing_by
  have h1 := readBreak_length _hb
  have h2 := readIndentation_length _hi
  have h3 : after.length ≤ r.length := length_dropWhile_le r
  simp only [List.length_cons]
  omega

/-- Reads a block scalar after its `|` or `>`. `floor` is the least column of text in the
enclosing block. -/
def readBlockScalar (literal : Bool) (floor : Nat) (p : Position) (s : List Char) :
    QuotedResult :=
  (readIndicators s).bind fun (header, n, r) =>
    (endLine? (p.right n) r).bind fun (p', r') =>
      let limit := header.increment.map fun n => floor - 1 + n
      (readIndentation limit [] 0 p' r').bind fun i =>
        let indent := limit.getD (max i.widest (max floor 1))
        (readLines literal indent ⟨[], none, i.breaks, false⟩ i.position i.rest).map
          fun (l, q, rest) => (l.chomped header.chomping, q, rest)

end UniformIter.Document
