import UniformIter.Document.Position

/-!
# Quoted scalars

Reads the text between quotes. In single quotes only the quote itself is special, and is
written twice; in double quotes a backslash starts an escape. Both fold line breaks.
-/

namespace UniformIter.Document

/-- The value of a hexadecimal digit. -/
def hexValue? (c : Char) : Option Nat :=
  if c.isDigit then some (c.toNat - 48)
  else if 'a' ≤ c ∧ c ≤ 'f' then some (c.toNat - 87)
  else if 'A' ≤ c ∧ c ≤ 'F' then some (c.toNat - 55)
  else none

/-- Reads exactly `n` hexadecimal digits onto `acc`. -/
def readHex (acc : Nat) : Nat → List Char → Option (Nat × List Char)
  | 0, s => some (acc, s)
  | _ + 1, [] => none
  | n + 1, c :: r => (hexValue? c).bind fun d => readHex (16 * acc + d) n r

/-- The character that a one-letter escape stands for. -/
def namedEscape? : Char → Option Char
  | '0' => some '\x00'
  | 'a' => some '\x07'
  | 'b' => some '\x08'
  | 't' => some '\t'
  | '\t' => some '\t'
  | 'n' => some '\n'
  | 'v' => some '\x0b'
  | 'f' => some '\x0c'
  | 'r' => some '\r'
  | 'e' => some '\x1b'
  | ' ' => some ' '
  | '\x22' => some '\x22'
  | '/' => some '/'
  | '\\' => some '\\'
  | 'N' => some '\u0085'
  | '_' => some '\u00a0'
  | 'L' => some '\u2028'
  | 'P' => some '\u2029'
  | _ => none

/-- How many hexadecimal digits a numeric escape has. -/
def numericEscape? : Char → Option Nat
  | 'x' => some 2
  | 'u' => some 4
  | 'U' => some 8
  | _ => none

/-- Reads what follows a backslash, if that is not a line break: the character meant, the
number of characters read and the text after them. -/
def readEscape : List Char → Option (Char × Nat × List Char)
  | [] => none
  | c :: r =>
    match namedEscape? c with
    | some d => some (d, 1, r)
    | none =>
      (numericEscape? c).bind fun n =>
        (readHex 0 n r).bind fun (v, r') =>
          if v.isValidChar then some (Char.ofNat v, 1 + n, r') else none

theorem readHex_length {n acc : Nat} {s r : List Char} {v : Nat}
    (h : readHex acc n s = some (v, r)) : r.length ≤ s.length := by
  induction n generalizing acc s with
  | zero =>
    simp only [readHex, Option.some.injEq, Prod.mk.injEq] at h
    obtain ⟨-, rfl⟩ := h
    exact Nat.le_refl _
  | succ n ih =>
    cases s with
    | nil => simp [readHex] at h
    | cons c r' =>
      simp only [readHex, Option.bind_eq_some_iff] at h
      obtain ⟨d, -, hd⟩ := h
      exact Nat.le_succ_of_le (ih hd)

theorem readEscape_length {s r : List Char} {c : Char} {n : Nat}
    (h : readEscape s = some (c, n, r)) : r.length < s.length := by
  cases s with
  | nil => simp [readEscape] at h
  | cons d r' =>
    simp only [readEscape] at h
    split at h
    · simp only [Option.some.injEq, Prod.mk.injEq] at h
      obtain ⟨-, -, rfl⟩ := h
      simp
    · simp only [Option.bind_eq_some_iff] at h
      obtain ⟨m, -, ⟨v, r''⟩, hx, hv⟩ := h
      have hl := readHex_length hx
      split at hv
      · simp only [Option.some.injEq, Prod.mk.injEq] at hv
        obtain ⟨-, -, rfl⟩ := hv
        simp only [List.length_cons]
        omega
      · simp at hv

theorem length_dropWhile_le {p : α → Bool} (s : List α) :
    (s.dropWhile p).length ≤ s.length :=
  (List.dropWhile_suffix p).length_le

/-- What a quoted scalar reads as: its characters in reverse, the position after the closing
quote and the text after it. -/
abbrev QuotedResult := Option (List Char × Position × List Char)

/-- Whether the text after a gap can no longer belong to a quoted scalar, because a document
mark opens the line. -/
def endsInsideQuotes (gap rest : List Char) : Bool :=
  gap.any isBreak && lastColumn gap == 0 && startsDocumentMark rest

/-- Reads a single-quoted scalar after its opening quote, onto the characters `acc` that were
read before, last one first. -/
def readSingleQuoted (acc : List Char) (p : Position) : List Char → QuotedResult
  | [] => none
  | c :: r =>
    if isGap c then
      let gap := c :: r.takeWhile isGap
      let rest := r.dropWhile isGap
      if endsInsideQuotes gap rest then none
      else readSingleQuoted ((foldGap gap).reverse ++ acc) (p.past gap) rest
    else if c == '\x27' then
      match r with
      | '\x27' :: r' => readSingleQuoted ('\x27' :: acc) (p.right 2) r'
      | _ => some (acc, p.right 1, r)
    else readSingleQuoted (c :: acc) (p.right 1) r
termination_by s => s.length
decreasing_by
  all_goals simp only [List.length_cons]
  · have := length_dropWhile_le (p := isGap) r
    omega
  · omega
  · omega

/-- Reads a double-quoted scalar after its opening quote, onto the characters `acc` that were
read before, last one first. A backslash before a line break drops that break and the blanks
around it. -/
def readDoubleQuoted (acc : List Char) (p : Position) : List Char → QuotedResult
  | [] => none
  | c :: r =>
    if isGap c then
      let gap := c :: r.takeWhile isGap
      let rest := r.dropWhile isGap
      if endsInsideQuotes gap rest then none
      else readDoubleQuoted ((foldGap gap).reverse ++ acc) (p.past gap) rest
    else if c == '\x22' then some (acc, p.right 1, r)
    else if c == '\\' then
      match _hb : readBreak r with
      | some (_, r') =>
        let gap := r.takeWhile isGap
        let rest := r'.dropWhile isGap
        if lastColumn gap == 0 && startsDocumentMark rest then none
        else
          readDoubleQuoted ((breaksOf (r'.takeWhile isGap)).reverse ++ acc)
            ((p.right 1).past gap) rest
      | none =>
        match he : readEscape r with
        | some (d, n, r') => readDoubleQuoted (d :: acc) (p.right (1 + n)) r'
        | none => none
    else readDoubleQuoted (c :: acc) (p.right 1) r
termination_by s => s.length
decreasing_by
  all_goals simp only [List.length_cons]
  · have := length_dropWhile_le (p := isGap) r
    omega
  · have := length_dropWhile_le (p := isGap) r'
    have := readBreak_length _hb
    omega
  · have := readEscape_length he
    omega
  · omega

end UniformIter.Document
