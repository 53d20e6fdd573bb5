import UniformIter.Document.QuotedScalar
import UniformIter.Document.ScalarText
import UniformIter.Proofs.Text.Runs

/-!
# Characters of a written document

What the reader of a document has to know about the characters that the writer leaves as they
are: all of them are allowed, the only gap among them within a line is the space, and the three
line breaks among them stand for themselves (`readBreak_of_printable`). The style of a string tells
where it holds which of them (`styleOf_cases`). The rest of this file is about where a position
comes to stand behind such characters.
-/

namespace UniformIter.Document

open ScalarText (isPrintable allowsPlain allowsSingle allowsLiteral styleOf)

/-- A break that is written as it is. -/
theorem eq_of_isBreak {c : Char} (hp : isPrintable c = true) (hb : isBreak c = true) :
    c = '\n' ∨ c = '\u2028' ∨ c = '\u2029' := by
  simp only [isBreak, Bool.or_eq_true, beq_iff_eq] at hb
  rcases hb with (((rfl | rfl) | rfl) | rfl) | rfl
  · exact .inl rfl
  · exact absurd hp (by decide)
  · exact absurd hp (by decide)
  · exact .inr (.inl rfl)
  · exact .inr (.inr rfl)

/-- A gap that is written as it is and ends no line. -/
theorem eq_space_of_isGap {c : Char} (hp : isPrintable c = true) (hb : isBreak c = false)
    (hg : isGap c = true) : c = ' ' := by
  simp only [isGap, isBlank, hb, Bool.or_false, Bool.or_eq_true, beq_iff_eq] at hg
  rcases hg with rfl | rfl
  · rfl
  · exact absurd hp (by decide)

theorem isGap_of_isBreak {c : Char} (h : isBreak c = true) : isGap c = true := by
  rw [isGap, h, Bool.or_true]

theorem isBreak_of_not_isGap {c : Char} (h : isGap c = false) : isBreak c = false := by
  cases hb : isBreak c with
  | false => rfl
  | true => rw [isGap_of_isBreak hb] at h; cases h

/-- What is written as it is may be read. -/
theorem isAllowed_of_isPrintable {c : Char} (h : isPrintable c = true) : isAllowed c = true := by
  simp only [isPrintable, isAllowed, Bool.or_eq_true, Bool.and_eq_true, decide_eq_true_eq,
    beq_iff_eq] at h ⊢
  omega

/-- A break that is written as it is stands for itself. -/
theorem readBreak_of_printable {c : Char} (hp : isPrintable c = true) (hb : isBreak c = true)
    (r : List Char) : readBreak (c :: r) = some (c, r) := by
  rcases eq_of_isBreak hp hb with rfl | rfl | rfl <;> rfl

theorem readBreak_eq_none {s : List Char} (h : ∀ c ∈ s.head?, isBreak c = false) :
    readBreak s = none := by
  cases s with
  | nil => rfl
  | cons c r =>
    have hc : isBreak c = false := h c rfl
    unfold readBreak
    split
    next heq => cases heq
    next heq =>
      cases heq
      exact absurd hc (by decide)
    next heq =>
      cases heq
      rw [hc]
      rfl

/-- The breaks in front of blanks are all there are. -/
theorem breaksOf_append_spaces {bs : List Char}
    (hb : ∀ c ∈ bs, isPrintable c = true ∧ isBreak c = true) (k : Nat) :
    breaksOf (bs ++ List.replicate k ' ') = bs := by
  induction bs with
  | nil =>
    induction k with
    | zero => rfl
    | succ k ih => exact ih
  | cons c bs ih =>
    have hmore := ih fun d hd => hb d (List.mem_cons_of_mem _ hd)
    obtain ⟨hp, hc⟩ := hb c List.mem_cons_self
    rcases eq_of_isBreak hp hc with rfl | rfl | rfl
    · exact congrArg ('\n' :: ·) hmore
    · exact congrArg ('\u2028' :: ·) hmore
    · exact congrArg ('\u2029' :: ·) hmore

theorem foldGap_spaces (k : Nat) : foldGap (List.replicate k ' ') = List.replicate k ' ' := by
  have h : breaksOf ([] ++ List.replicate k ' ') = [] := breaksOf_append_spaces (by simp) k
  rw [List.nil_append] at h
  rw [foldGap, h]

/-- How far the last line of a text reaches, if it is made of blanks behind a break. -/
theorem lastColumn_append_spaces {s : List Char} {b : Char} (hb : isBreak b = true) (k : Nat) :
    lastColumn (s ++ b :: List.replicate k ' ') = k := by
  have hspaces : ∀ c ∈ List.replicate k ' ', (!isBreak c) = true :=
    forall_mem_replicate (by decide) k
  rw [lastColumn, List.reverse_append, List.reverse_cons, List.reverse_replicate,
    List.append_assoc, List.takeWhile_append_of_pos hspaces]
  simp [hb]

/-! ## Styles -/

/-- What the style of a string says about it. -/
theorem styleOf_cases (s : String) :
    (styleOf s = .literal ∧ '\n' ∈ s.toList ∧ ∀ c ∈ s.toList, isPrintable c = true) ∨
      (styleOf s = .plain ∧ isAmbiguous s = false ∧ allowsPlain s.toList = true) ∨
      (styleOf s = .singleQuoted ∧ '\n' ∉ s.toList ∧ allowsSingle s.toList = true) ∨
      styleOf s = .doubleQuoted := by
  unfold styleOf
  by_cases hfeed : s.toList.contains '\n' = true
  · rw [if_pos hfeed]
    by_cases hliteral : allowsLiteral s.toList = true
    · rw [if_pos hliteral]
      simp only [allowsLiteral, Bool.and_eq_true, List.all_eq_true] at hliteral
      exact .inl ⟨rfl, List.contains_iff_mem.1 hfeed, hliteral.1.1⟩
    · rw [if_neg hliteral]
      exact .inr (.inr (.inr rfl))
  · rw [if_neg hfeed]
    by_cases hplain : (!isAmbiguous s && allowsPlain s.toList) = true
    · rw [if_pos hplain]
      simp only [Bool.and_eq_true, Bool.not_eq_true'] at hplain
      exact .inr (.inl ⟨rfl, hplain⟩)
    · rw [if_neg hplain]
      by_cases hsingle : allowsSingle s.toList = true
      · rw [if_pos hsingle]
        exact .inr (.inr (.inl ⟨rfl, fun hmem => hfeed (List.contains_iff_mem.2 hmem), hsingle⟩))
      · rw [if_neg hsingle]
        exact .inr (.inr (.inr rfl))

/-! ## Positions -/

namespace Position

/-- No text takes a position back to an earlier line. -/
theorem line_le_past (p : Position) (s : List Char) : p.line ≤ (p.past s).line := by
  fun_induction past p s with
  | case1 p => exact Nat.le_refl _
  | case2 p r ih => exact Nat.le_trans (Nat.le_succ _) ih
  | case3 p c r _ ih =>
    refine Nat.le_trans ?_ ih
    split
    · exact Nat.le_succ _
    · exact Nat.le_refl _

theorem past_spaces (p : Position) (k : Nat) : p.past (List.replicate k ' ') = p.right k := by
  rw [past_of_no_break]
  · rw [List.length_replicate]
  · exact forall_mem_replicate (by decide) k

/-- The next line begins in column zero, whatever column the last one ended in. -/
theorem past_newline_spaces (p : Position) (k : Nat) :
    p.past ('\n' :: List.replicate k ' ') = ⟨p.line + 1, k⟩ := by
  rw [past_cons p (by decide)]
  show p.nextLine.past _ = _
  rw [past_spaces]
  simp [nextLine, right]

end Position

/-! ## What a line begins with -/

/-- A text that begins neither with a gap nor with anything that is passed over like one. -/
def BeginsToken (s : List Char) : Prop :=
  ∀ c ∈ s.head?, isGap c = false ∧ c ≠ '#' ∧ c ≠ byteOrderMark

theorem beginsToken_cons {c : Char} (hc : isGap c = false ∧ c ≠ '#' ∧ c ≠ byteOrderMark)
    (r : List Char) : BeginsToken (c :: r) := by
  intro d hd
  cases hd
  exact hc

/-- What stands behind a scalar and its line break: blanks, and then either nothing or a token
left of the scalar's block. -/
structure NextLine (floor k : Nat) (s : List Char) : Prop where
  begins : BeginsToken s
  left : s ≠ [] → k < floor
  ended : s = [] → k = 0

/-- What stands left of a block stands left of the blocks inside it. -/
theorem NextLine.mono {floor floor' k : Nat} {s : List Char} (h : NextLine floor k s)
    (hle : floor ≤ floor') : NextLine floor' k s :=
  ⟨h.begins, fun hs => Nat.lt_of_lt_of_le (h.left hs) hle, h.ended⟩

/-- At the end of the text the line is as far left as a line can be. -/
theorem NextLine.lt {floor k : Nat} {s : List Char} (h : NextLine (floor + 1) k s) :
    k < floor + 1 := by
  by_cases hs : s = []
  · rw [h.ended hs]
    exact Nat.succ_pos floor
  · exact h.left hs

theorem BeginsToken.isGap {s : List Char} (h : BeginsToken s) :
    ∀ c ∈ s.head?, isGap c = false := fun c hc => (h c hc).1

end UniformIter.Document
