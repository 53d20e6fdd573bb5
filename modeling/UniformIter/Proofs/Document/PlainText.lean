import UniformIter.Document.PlainScalar
import UniformIter.Proofs.Document.Characters

/-!
# Reading back plain scalars

A text that may stand plain is made of words with spaces between them. The reader takes one word
after the other, up to the line break behind the last one: no colon and no hash in the text ends
it early, because `isCutShort` has looked for exactly those (`readWord_line`), and no gap in it
holds anything but spaces. The whole is `readPlain_line`, by induction on the length of what is
left of the text.
-/

namespace UniformIter.Document

open ScalarText (isPrintable isCutShort allowsPlain beginsOtherwise isPadded)

theorem isCutShort_cons (c : Char) (r : List Char) :
    isCutShort (c :: r) =
      ((if c = ':' then startsGapOrEnd r else isGap c && r.head? == some '#') || isCutShort r) := by
  by_cases hc : c = ':'
  · rw [if_pos hc, hc, isCutShort]
  · rw [if_neg hc, isCutShort]
    exact fun h => hc h

/-- What may stand in a line stands there without its beginning too. -/
theorem isCutShort_append {w r : List Char} (h : isCutShort (w ++ r) = false) :
    isCutShort r = false := by
  induction w with
  | nil => exact h
  | cons c w ih =>
    rw [List.cons_append, isCutShort_cons, Bool.or_eq_false_iff] at h
    exact ih h.2

/-- A line break ends a line like the end of the text does. -/
theorem startsGapOrEnd_append_newline (l t : List Char) :
    startsGapOrEnd (l ++ '\n' :: t) = startsGapOrEnd l := by
  cases l <;> rfl

/-- A word is read to its end: no colon in it has a gap or the end behind it. -/
theorem readWord_line {word more : List Char} (hword : ∀ c ∈ word, isGap c = false)
    (hmore : startsGapOrEnd more = true) (hcut : isCutShort (word ++ more) = false)
    (acc t : List Char) (n : Nat) :
    readWord false acc n (word ++ (more ++ '\n' :: t)) =
      some (word.reverse ++ acc, n + word.length, more ++ '\n' :: t) := by
  induction word generalizing acc n with
  | nil =>
    cases more with
    | nil => rfl
    | cons c more =>
      have hc : isGap c = true := hmore
      show readWord false acc n (c :: (more ++ '\n' :: t)) = _
      rw [readWord, if_pos hc]
      rfl
  | cons c word ih =>
    rw [List.cons_append, isCutShort_cons, Bool.or_eq_false_iff] at hcut
    have hc : isGap c = false := hword c List.mem_cons_self
    have hends : endsPlain false c (word ++ (more ++ '\n' :: t)) = false := by
      rw [endsPlain, ← List.append_assoc, startsGapOrEnd_append_newline]
      by_cases hcolon : c = ':'
      · rw [if_pos hcolon] at hcut
        rw [hcut.1, Bool.and_false, Bool.false_and, Bool.or_false]
      · rw [beq_eq_false_iff_ne.2 hcolon, Bool.false_and, Bool.false_and, Bool.or_false]
    have hrest := ih (fun d hd => hword d (List.mem_cons_of_mem _ hd)) hcut.2 (c :: acc) (n + 1)
    rw [List.cons_append, readWord, hc, hends, hrest]
    simp only [isMisplacedColon, Bool.false_and, Bool.false_eq_true, if_false, List.reverse_cons,
      List.append_assoc, List.singleton_append, List.length_cons, Option.some.injEq,
      Prod.mk.injEq, true_and, and_true]
    omega

/-- A word without colons is read up to its colon. -/
theorem readWord_colon {s : List Char} (h : ∀ c ∈ s, isGap c = false ∧ c ≠ ':') {r : List Char}
    (hr : startsGapOrEnd r = true) (acc : List Char) (n : Nat) :
    readWord false acc n (s ++ ':' :: r) = some (s.reverse ++ acc, n + s.length, ':' :: r) := by
  induction s generalizing acc n with
  | nil =>
    show readWord false acc n (':' :: r) = _
    rw [readWord, endsPlain, hr]
    rfl
  | cons c s ih =>
    obtain ⟨hgap, hcolon⟩ := h c List.mem_cons_self
    have hends : endsPlain false c (s ++ ':' :: r) = false := by
      rw [endsPlain, beq_eq_false_iff_ne.2 hcolon]
      rfl
    rw [List.cons_append, readWord, hgap, hends, ih fun d hd => h d (List.mem_cons_of_mem _ hd)]
    simp only [isMisplacedColon, Bool.false_and, Bool.false_eq_true, if_false, List.reverse_cons,
      List.append_assoc, List.singleton_append, List.length_cons, Option.some.injEq,
      Prod.mk.injEq, true_and, and_true]
    omega

/-- What is left of a plain text behind one of its gaps, or the whole of it. -/
structure PlainLine (s : List Char) : Prop where
  /-- Its only gaps are spaces. -/
  spaces : ∀ c ∈ s, isGap c = true → c = ' '
  begins : ∀ c ∈ s.head?, isGap c = false
  ends : s.getLast? ≠ some ' '
  whole : isCutShort s = false

/-- A text that may stand plain. -/
theorem plainLine_of_allowsPlain {s : List Char} (h : allowsPlain s = true) :
    s ≠ [] ∧ PlainLine s := by
  simp only [allowsPlain, Bool.and_eq_true, Bool.not_eq_true', List.all_eq_true, isPadded,
    Bool.or_eq_false_iff, beq_eq_false_iff_ne] at h
  obtain ⟨⟨⟨hchars, hfirst, hlast⟩, hbegins⟩, hcut⟩ := h
  have hspaces : ∀ c ∈ s, isGap c = true → c = ' ' := fun c hc hg =>
    eq_space_of_isGap (hchars c hc).1 (hchars c hc).2 hg
  refine ⟨?_, hspaces, ?_, hlast, hcut⟩
  · rintro rfl
    exact absurd hbegins (by decide)
  · intro c hc
    cases hg : isGap c with
    | false => rfl
    | true =>
      rw [hspaces c (List.mem_of_mem_head? hc) hg] at hc
      exact absurd hc hfirst

/-- A gap within a plain line is made of spaces, and the line goes on behind it with something
that is no comment. -/
theorem PlainLine.after_word {word more : List Char} (h : PlainLine (word ++ more))
    (hgap : startsGapOrEnd more = true) (hne : more ≠ []) :
    ∃ m r, more = List.replicate (m + 1) ' ' ++ r ∧ r ≠ [] ∧ PlainLine r ∧
      ∀ c ∈ r.head?, c ≠ '#' := by
  obtain ⟨gap, r, rfl, hrun, hr⟩ := exists_run isGap more
  have hspaces : ∀ c ∈ gap, c = ' ' := fun c hc =>
    h.spaces c (List.mem_append_right _ (List.mem_append_left _ hc)) (hrun c hc)
  obtain ⟨m, hm⟩ : ∃ m, gap = List.replicate (m + 1) ' ' := by
    cases gap with
    | nil =>
      cases r with
      | nil => exact absurd rfl hne
      | cons c r =>
        have hc : isGap c = true := hgap
        rw [hr c rfl] at hc
        cases hc
    | cons c gap => exact ⟨gap.length, eq_replicate_of_run hspaces⟩
  subst hm
  have hcut : isCutShort (' ' :: r) = false := by
    have hw := h.whole
    rw [← List.append_assoc, List.replicate_succ', ← List.append_assoc, List.append_assoc] at hw
    exact isCutShort_append hw
  have hrne : r ≠ [] := by
    rintro rfl
    apply h.ends
    simp [List.replicate_succ']
  refine ⟨m, r, rfl, hrne, ⟨?_, hr, ?_, ?_⟩, ?_⟩
  · exact fun c hc => h.spaces c (List.mem_append_right _ (List.mem_append_right _ hc))
  · intro hlast
    apply h.ends
    simp [hlast]
  · exact isCutShort_append (w := [' ']) hcut
  · rintro c hc rfl
    rw [isCutShort_cons, Option.mem_def.1 hc] at hcut
    cases hcut

/-- What comes behind a word decides how a plain scalar goes on. -/
theorem readPlain_of_word {inFlow : Bool} {limit n : Nat} {acc acc' s r : List Char}
    {p : Position} (h : readWord inFlow acc 0 s = some (acc', n, r)) :
    readPlain inFlow limit acc p s =
      if r.takeWhile isGap = [] then some ⟨acc', p.right n, r, false⟩
      else if hasTabLeftOf limit none (r.takeWhile isGap) then none
      else if endsAfterGap inFlow limit (r.takeWhile isGap) (r.dropWhile isGap) then
        some ⟨acc', (p.right n).past (r.takeWhile isGap), r.dropWhile isGap,
          (r.takeWhile isGap).any isBreak⟩
      else readPlain inFlow limit ((foldGap (r.takeWhile isGap)).reverse ++ acc')
        ((p.right n).past (r.takeWhile isGap)) (r.dropWhile isGap) := by
  rw [readPlain]
  split
  next hnone =>
    rw [h] at hnone
    cases hnone
  next hsome =>
    rw [h] at hsome
    cases hsome
    rfl

theorem hasTabLeftOf_spaces (limit : Nat) (column : Option Nat) (k : Nat) :
    hasTabLeftOf limit column (List.replicate k ' ') = false := by
  induction k generalizing column with
  | zero => rfl
  | succ k ih =>
    cases column with
    | none => exact ih none
    | some n => exact ih (some (n + 1))

/-- The gap behind a scalar is the end of it. -/
theorem NextLine.endsAfterGap {floor k : Nat} {t : List Char} (ht : NextLine floor k t) :
    endsAfterGap false floor ('\n' :: List.replicate k ' ') t = true := by
  cases t with
  | nil => rfl
  | cons c r =>
    have hcolumn : lastColumn ('\n' :: List.replicate k ' ') = k :=
      lastColumn_append_spaces (s := []) (by decide) k
    have hbreak : ('\n' :: List.replicate k ' ').any isBreak = true := rfl
    rw [Document.endsAfterGap, hcolumn, hbreak,
      decide_eq_true (ht.left (List.cons_ne_nil c r))]
    rfl

/-- A gap within a plain line is not. -/
theorem PlainLine.not_endsAfterGap {r : List Char} (hr : PlainLine r) (hne : r ≠ [])
    (hhash : ∀ c ∈ r.head?, c ≠ '#') (floor m : Nat) (t : List Char) :
    endsAfterGap false floor (List.replicate m ' ') (r ++ '\n' :: t) = false := by
  obtain ⟨c, r, rfl⟩ := List.exists_cons_of_ne_nil hne
  have hbreak : (List.replicate m ' ').any isBreak = false :=
    List.any_eq_false.2 (forall_mem_replicate (by decide) _)
  have hcut := hr.whole
  rw [isCutShort_cons, Bool.or_eq_false_iff] at hcut
  rw [List.cons_append, endsAfterGap, hbreak, beq_eq_false_iff_ne.2 (hhash c rfl), endsPlain,
    startsGapOrEnd_append_newline]
  by_cases hcolon : c = ':'
  · rw [if_pos hcolon] at hcut
    rw [hcut.1]
    simp
  · simp [hcolon]

/-- A plain text is read up to the line break behind it and on to the next token. -/
theorem readPlain_line {floor k : Nat} {t : List Char} (ht : NextLine floor k t) {s : List Char}
    (hs : PlainLine s) (acc : List Char) (p : Position) :
    readPlain false floor acc p (s ++ '\n' :: (List.replicate k ' ' ++ t)) =
      some ⟨s.reverse ++ acc, ⟨p.line + 1, k⟩, t, true⟩ := by
  obtain ⟨n, hn⟩ : ∃ n, s.length = n := ⟨_, rfl⟩
  -- What is left is shorter by the next word and the gap behind it.
  induction n using Nat.strongRecOn generalizing s acc p with
  | ind n ih =>
    obtain ⟨word, more, rfl, hword, hmore⟩ := exists_run (fun c => !isGap c) s
    have hgap : startsGapOrEnd more = true := by
      cases more with
      | nil => rfl
      | cons c r =>
        have hc : (!isGap c) = false := hmore c rfl
        rwa [Bool.not_eq_false'] at hc
    have hread := readWord_line (fun c hc => by simpa using hword c hc) hgap hs.whole acc
      (List.replicate k ' ' ++ t) 0
    rw [List.append_assoc, readPlain_of_word hread]
    by_cases hne : more = []
    · -- The text ends with this word, and the gap behind it holds the line break.
      subst hne
      obtain ⟨htake, hdrop⟩ : ('\n' :: (List.replicate k ' ' ++ t)).takeWhile isGap =
            '\n' :: List.replicate k ' ' ∧
          ('\n' :: (List.replicate k ' ' ++ t)).dropWhile isGap = t := by
        rw [← List.cons_append]
        refine takeWhile_run ?_ ht.begins.isGap
        exact List.forall_mem_cons.2 ⟨by decide, forall_mem_replicate (by decide) k⟩
      rw [List.nil_append, htake, hdrop, if_neg (List.cons_ne_nil _ _),
        show hasTabLeftOf floor none ('\n' :: List.replicate k ' ') = false from
          hasTabLeftOf_spaces floor (some 0) k,
        if_neg (by decide), ht.endsAfterGap, if_pos rfl, Position.past_newline_spaces,
        List.append_nil]
      rfl
    · obtain ⟨m, r, rfl, hrne, hr, hhash⟩ := hs.after_word hgap hne
      obtain ⟨htake, hdrop⟩ : ((List.replicate (m + 1) ' ' ++ r) ++
            '\n' :: (List.replicate k ' ' ++ t)).takeWhile isGap = List.replicate (m + 1) ' ' ∧
          ((List.replicate (m + 1) ' ' ++ r) ++
            '\n' :: (List.replicate k ' ' ++ t)).dropWhile isGap =
            r ++ '\n' :: (List.replicate k ' ' ++ t) := by
        rw [List.append_assoc]
        obtain ⟨c, r, rfl⟩ := List.exists_cons_of_ne_nil hrne
        exact takeWhile_run (forall_mem_replicate (by decide) _) hr.begins
      have hends : endsAfterGap false floor (List.replicate (m + 1) ' ')
          (r ++ '\n' :: (List.replicate k ' ' ++ t)) = false :=
        hr.not_endsAfterGap hrne hhash _ _ _
      have hshort : r.length < n := by
        rw [← hn, List.length_append, List.length_append, List.length_replicate]
        omega
      have hrest := ih r.length hshort hr
        (List.replicate (m + 1) ' ' ++ (word.reverse ++ acc))
        ((p.right (0 + word.length)).right (m + 1)) rfl
      have hgapne : List.replicate (m + 1) ' ' ≠ [] := List.cons_ne_nil _ _
      rw [htake, hdrop, if_neg hgapne, hasTabLeftOf_spaces, if_neg (by decide),
        hends, if_neg (by decide), foldGap_spaces, List.reverse_replicate, Position.past_spaces,
        hrest]
      simp [Position.right]

end UniformIter.Document
