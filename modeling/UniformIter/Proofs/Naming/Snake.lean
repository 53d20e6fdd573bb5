import UniformIter.Naming.SnakeCase

/-!
# Spelling in snake case

Snake case writes every character of a name, in lower case, and may put underscores between
them. So an identifier stays one (`isIdentifier_snakeCase`).
-/

namespace UniformIter

theorem toNat_lt_of_continues {c : Char} (h : continuesIdentifier c = true) : c.toNat < 128 := by
  simp only [continuesIdentifier, startsIdentifier, isLetter, Char.isDigit, Bool.or_eq_true,
    Bool.and_eq_true, decide_eq_true_eq, beq_iff_eq, Char.le_def, UInt32.le_iff_toNat_le,
    ge_iff_le] at h
  show c.val.toNat < 128
  rcases h with ((⟨-, h⟩ | ⟨-, h⟩) | rfl) | ⟨-, h⟩
  · exact Nat.lt_of_le_of_lt h (by decide)
  · exact Nat.lt_of_le_of_lt h (by decide)
  · decide
  · exact Nat.lt_of_le_of_lt h (by decide)

/-- What holds of the first characters of the table holds of the characters of identifiers. -/
theorem of_continues {p : Char → Prop}
    (hall : ∀ n < 128, continuesIdentifier (Char.ofNat n) = true → p (Char.ofNat n)) {c : Char}
    (h : continuesIdentifier c = true) : p c := by
  have hc := hall c.toNat (toNat_lt_of_continues h)
  rw [Char.ofNat_toNat] at hc
  exact hc h

/-- The small letters are characters of identifiers like the capital ones. -/
theorem continues_toLower {c : Char} (h : continuesIdentifier c = true) :
    continuesIdentifier c.toLower = true :=
  of_continues (p := fun c => continuesIdentifier c.toLower = true) (by decide) h

theorem starts_toLower {c : Char} (h : startsIdentifier c = true) :
    startsIdentifier c.toLower = true := by
  have hall : ∀ n < 128, startsIdentifier (Char.ofNat n) = true →
      startsIdentifier (Char.ofNat n).toLower = true := by
    decide
  have := hall c.toNat (toNat_lt_of_continues (continuesIdentifier_of_starts h))
  rw [Char.ofNat_toNat] at this
  exact this h

/-- What was written stays, and what is written behind it are characters of identifiers. -/
theorem spellSnake_append (previous : Option Char) (written : List Char) {s : List Char}
    (h : s.all continuesIdentifier = true) :
    ∃ out, spellSnake previous written s = written.reverse ++ out ∧
      out.all continuesIdentifier = true := by
  induction s generalizing previous written with
  | nil => exact ⟨[], by rw [spellSnake, List.append_nil], rfl⟩
  | cons c r ih =>
    rw [List.all_cons, Bool.and_eq_true] at h
    have hlower := continues_toLower h.1
    rw [spellSnake]
    split
    next =>
      obtain ⟨out, heq, hout⟩ := ih (some c) (c.toLower :: '_' :: written) h.2
      refine ⟨'_' :: c.toLower :: out, by rw [heq]; simp, ?_⟩
      rw [List.all_cons, List.all_cons, hlower, hout]
      decide
    next =>
      obtain ⟨out, heq, hout⟩ := ih (some c) (c.toLower :: written) h.2
      refine ⟨c.toLower :: out, by rw [heq]; simp, ?_⟩
      rw [List.all_cons, hlower, hout]
      rfl

/-- An identifier in snake case is an identifier. -/
theorem isIdentifier_snakeCase {name : String} (h : isIdentifier name = true) :
    isIdentifier (snakeCase name) = true := by
  unfold isIdentifier at h ⊢
  rw [snakeCase, String.toList_ofList]
  cases hs : name.toList with
  | nil => rw [hs] at h; exact absurd h (by simp)
  | cons c r =>
    rw [hs, formIdentifier_cons, Bool.and_eq_true] at h
    -- Nothing stands before the first character, so no underscore is put there.
    obtain ⟨out, heq, hout⟩ := spellSnake_append (some c) [c.toLower] h.2
    have hfirst : spellSnake none [] (c :: r) = c.toLower :: out := by
      rw [spellSnake]
      exact heq
    rw [hfirst, formIdentifier_cons, starts_toLower h.1, hout]
    rfl

end UniformIter
