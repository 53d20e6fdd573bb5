import UniformIter.Document.Tokenizer
import UniformIter.Proofs.Document.Characters

/-!
# From token to token

The tokenizer's state says more than which tokens there are: the floors of the open blocks, the
keys that may still be found, and how far the gap behind the last token was already read. Only
three things of it matter for what comes next, and this file reduces a state to them.

- `Stands`: the columns of the open blocks, innermost first, and the lexemes so far, last one
  first. Floors are columns plus one (`floorOf`).
- `Lands`: where the next token begins, once the gap in front of it is skipped, the keys that it
  leaves behind are given up and the blocks right of it are closed. A block that is about to be
  closed may be counted as closed already (`Lands.close`), so nobody has to know when it is.
- `Leads`: that one state comes from another by reading tokens. Each takes a character at least,
  so the fuel of `run` always suffices (`Leads.run_eq`).
-/

namespace UniformIter.Document

/-! ## Open blocks -/

/-- The least column of text in the innermost of the blocks at these columns. -/
def floorOf : List Nat → Nat
  | [] => 0
  | c :: _ => c + 1

/-- The same for the blocks around it. -/
def outerOf : List Nat → List Nat
  | [] => []
  | _ :: cols => floorOf cols :: outerOf cols

/-- The blocks that stay open when those that reach to a limit close. -/
def remaining (limit : Nat) : List Nat → List Nat
  | [] => []
  | c :: cols => if limit ≤ c then remaining limit cols else c :: cols

/-- The lexemes of those that close, last one first. -/
def endings (limit : Nat) : List Nat → List Lexeme
  | [] => []
  | c :: cols => if limit ≤ c then endings limit cols ++ [.blockEnd] else []

namespace Tokenizer

/-- Blocks are open at these columns, innermost first, no flow collection is, and these lexemes
were read, last one first. -/
structure Stands (t : Tokenizer) (cols : List Nat) (lexemes : List Lexeme) : Prop where
  floor : t.floor = floorOf cols
  outerFloors : t.outerFloors = outerOf cols
  outerPending : t.outerPending = []
  lexemes : t.tokens.map (·.lexeme) = lexemes
  count : t.count = t.tokens.length

variable {t u v : Tokenizer} {cols : List Nat} {lexemes : List Lexeme}

/-- The blocks that reach to a limit close, and no other. -/
theorem closed_eq (limit : Nat) (p : Position) (tokens : List Token) (cols : List Nat) :
    ∃ tokens', closed limit p tokens tokens.length (floorOf cols) (outerOf cols) =
        (tokens', tokens'.length, floorOf (remaining limit cols),
          outerOf (remaining limit cols)) ∧
      tokens'.map (·.lexeme) = endings limit cols ++ tokens.map (·.lexeme) := by
  induction cols generalizing tokens with
  | nil => exact ⟨tokens, rfl, rfl⟩
  | cons c cols ih =>
    by_cases hc : limit ≤ c
    · have hlt : limit < floorOf (c :: cols) := Nat.lt_succ_of_le hc
      obtain ⟨tokens', hclosed, hlexemes⟩ := ih (⟨.blockEnd, p, p⟩ :: tokens)
      rw [remaining, if_pos hc, endings, if_pos hc, outerOf, closed, if_pos hlt]
      refine ⟨tokens', hclosed, ?_⟩
      rw [hlexemes, List.append_assoc]
      rfl
    · have hge : ¬limit < floorOf (c :: cols) := fun h => hc (Nat.le_of_lt_succ h)
      rw [remaining, if_neg hc, endings, if_neg hc, outerOf, closed, if_neg hge]
      exact ⟨tokens, rfl, rfl⟩

theorem Stands.inFlow (h : t.Stands cols lexemes) : t.inFlow = false := by
  rw [Tokenizer.inFlow, h.outerPending]
  rfl

/-- Closing blocks changes nothing but which are open. -/
theorem Stands.closeBlocks (h : t.Stands cols lexemes) (limit : Nat) :
    (t.closeBlocks limit).Stands (remaining limit cols) (endings limit cols ++ lexemes) ∧
      (t.closeBlocks limit).rest = t.rest ∧ (t.closeBlocks limit).position = t.position ∧
      (t.closeBlocks limit).keyAllowed = t.keyAllowed ∧
      (t.closeBlocks limit).pending = t.pending := by
  obtain ⟨tokens', hclosed, hlexemes⟩ := closed_eq limit t.position t.tokens cols
  rw [← h.count, ← h.floor, ← h.outerFloors] at hclosed
  have hclose : t.closeBlocks limit =
      { t with
        tokens := tokens'
        count := tokens'.length
        floor := floorOf (remaining limit cols)
        outerFloors := outerOf (remaining limit cols) } := by
    rw [Tokenizer.closeBlocks, h.inFlow, if_neg (by decide), hclosed]
  rw [hclose]
  rw [h.lexemes] at hlexemes
  exact ⟨⟨rfl, rfl, h.outerPending, hlexemes, rfl⟩, rfl, rfl, rfl, rfl⟩

/-! ## Gaps between tokens -/

theorem skipGap_token {s : List Char} (hs : BeginsToken s) (inFlow keyAllowed : Bool)
    (p : Position) : skipGap inFlow keyAllowed false p s = (keyAllowed, p, s) := by
  cases s with
  | nil => rfl
  | cons c r =>
    obtain ⟨hgap, hhash, hmark⟩ := hs c rfl
    simp only [isGap, isBlank, Bool.or_eq_false_iff, beq_eq_false_iff_ne] at hgap
    obtain ⟨⟨hspace, htab⟩, hbreak⟩ := hgap
    have hcr : c ≠ '\r' := by
      rintro rfl
      exact absurd hbreak (by decide)
    rw [skipGap]
    · simp [hbreak, hhash, hspace, htab, hmark]
    · intro r' hc
      exact absurd hc hcr

theorem skipGap_space (inFlow keyAllowed : Bool) (p : Position) (s : List Char) :
    skipGap inFlow keyAllowed false p (' ' :: s) =
      skipGap inFlow keyAllowed false (p.right 1) s := by
  rw [skipGap]
  · rfl
  · intro r' hc
    exact absurd hc (by decide)

theorem skipGap_spaces (inFlow keyAllowed : Bool) (p : Position) (k : Nat) (s : List Char) :
    skipGap inFlow keyAllowed false p (List.replicate k ' ' ++ s) =
      skipGap inFlow keyAllowed false (p.right k) s := by
  induction k generalizing p with
  | zero => rfl
  | succ k ih =>
    rw [List.replicate_succ, List.cons_append, skipGap_space, ih]
    congr 1
    simp only [Position.right, Position.mk.injEq, true_and]
    omega

/-- A new line outside flow collections may begin a key. -/
theorem skipGap_newline {s : List Char} (hs : BeginsToken s) (keyAllowed : Bool) (p : Position)
    (k : Nat) : skipGap false keyAllowed false p ('\n' :: (List.replicate k ' ' ++ s)) =
      (true, ⟨p.line + 1, k⟩, s) := by
  have hbreak : skipGap false keyAllowed false p ('\n' :: (List.replicate k ' ' ++ s)) =
      skipGap false true false p.nextLine (List.replicate k ' ' ++ s) := by
    rw [skipGap]
    · rw [if_pos (by decide), Bool.not_false, Bool.or_true]
    · intro r' hc
      exact absurd hc (by decide)
  rw [hbreak, skipGap_spaces, skipGap_token hs]
  simp [Position.nextLine, Position.right]

/-! ## Keys that may begin -/

/-- A key that may be given up on the line of `p`. -/
def Passed (pending : Option PendingKey) (p : Position) : Prop :=
  ∀ k ∈ pending, k.required = false ∧ k.position.line < p.line

theorem passed_of_none {pending : Option PendingKey} (h : pending = none) (p : Position) :
    Passed pending p := by
  intro k hk
  rw [h] at hk
  cases hk

theorem keepAt_of_passed {pending : Option PendingKey} {p : Position} (h : Passed pending p) :
    PendingKey.keepAt p pending = some none := by
  cases pending with
  | none => rfl
  | some k =>
    obtain ⟨hrequired, hline⟩ := h k rfl
    rw [PendingKey.keepAt, PendingKey.reach?, if_pos hline]
    dsimp only
    rw [hrequired]
    rfl

/-- A key that will be given up on a later line is so too if it is looked at before. -/
theorem Passed.keepAt {pending : Option PendingKey} {p : Position} (h : Passed pending p)
    (q : Position) :
    ∃ pending', PendingKey.keepAt q pending = some pending' ∧ Passed pending' p := by
  cases pending with
  | none => exact ⟨none, rfl, h⟩
  | some k =>
    obtain ⟨hrequired, hline⟩ := h k rfl
    rw [PendingKey.keepAt, PendingKey.reach?]
    by_cases hleft : k.position.line < q.line
    · rw [if_pos hleft]
      exact ⟨none, by simp [hrequired], fun _ hk => by cases hk⟩
    · rw [if_neg hleft]
      dsimp only
      by_cases hlong : longestKey < (k.follow q.column).octets
      · rw [if_pos hlong]
        exact ⟨none, by simp [hrequired], fun _ hk => by cases hk⟩
      · rw [if_neg hlong]
        refine ⟨_, rfl, fun k' hk => ?_⟩
        cases hk
        exact ⟨hrequired, hline⟩

/-- What stands here may be the beginning of a key, but need not be one unless it stands in the
column of an open mapping. -/
theorem Stands.noteKey (h : t.Stands cols lexemes) (hp : t.pending = none)
    (hfree : t.keyAllowed = true → floorOf cols ≠ t.position.column + 1) :
    ∃ pending, t.noteKey = some { t with pending := pending } ∧
      ∀ p : Position, t.position.line < p.line → Passed pending p := by
  unfold Tokenizer.noteKey
  by_cases hkey : t.keyAllowed = true
  · rw [if_pos hkey, dropKey, hp]
    refine ⟨_, rfl, fun p hline k hk => ?_⟩
    obtain rfl := Option.some.inj hk
    refine ⟨?_, hline⟩
    dsimp only
    rw [h.inFlow, h.floor, beq_eq_false_iff_ne.2 (hfree hkey)]
    rfl
  · rw [if_neg hkey]
    exact ⟨none, by rw [← hp], fun _ _ k hk => by cases hk⟩

/-! ## Landing on the next token -/

/-- The next token begins with the text `s` at column `k`. -/
def Lands (t : Tokenizer) (s : List Char) (k : Nat) (keyAllowed : Bool) (cols : List Nat)
    (lexemes : List Lexeme) : Prop :=
  s.length ≤ t.rest.length ∧
    ∃ w, t.toNext = some w ∧ w.rest = s ∧ w.position.column = k ∧ w.keyAllowed = keyAllowed ∧
      w.pending = none ∧
      w.Stands (remaining (k + 1) cols) (endings (k + 1) cols ++ lexemes)

/-- The next token stands where the gap in front of it ends, with the keys that are still
possible there. -/
theorem Stands.toNext (h : t.Stands cols lexemes) {keyAllowed : Bool} {p : Position}
    {s : List Char} {pending : Option PendingKey}
    (hgap : skipGap false t.keyAllowed false t.position t.rest = (keyAllowed, p, s))
    (hkeep : PendingKey.keepAt p t.pending = some pending) :
    ∃ w, t.toNext = some w ∧ w.rest = s ∧ w.position = p ∧ w.keyAllowed = keyAllowed ∧
      w.pending = pending ∧
      w.Stands (remaining (p.column + 1) cols) (endings (p.column + 1) cols ++ lexemes) := by
  have hmoved : Stands
      { t with
        keyAllowed := keyAllowed
        position := p
        rest := s
        pending := pending
        outerPending := [] } cols lexemes :=
    ⟨h.floor, h.outerFloors, rfl, h.lexemes, h.count⟩
  obtain ⟨hstands, hrest, hposition, hkey, hpending⟩ := hmoved.closeBlocks (p.column + 1)
  refine ⟨_, ?_, hrest, hposition, hkey, hpending, hstands⟩
  rw [Tokenizer.toNext, h.inFlow, hgap]
  simp only [expireKeys, hkeep, h.outerPending]
  rfl

/-- A state lands there if it leaves all keys behind. -/
theorem Stands.lands (h : t.Stands cols lexemes) {keyAllowed : Bool} {p : Position}
    {s : List Char}
    (hgap : skipGap false t.keyAllowed false t.position t.rest = (keyAllowed, p, s))
    (hlength : s.length ≤ t.rest.length) (hpassed : Passed t.pending p) :
    t.Lands s p.column keyAllowed cols lexemes := by
  obtain ⟨w, hnext, hrest, hposition, hkey, hpending, hstands⟩ :=
    h.toNext hgap (keepAt_of_passed hpassed)
  exact ⟨hlength, w, hnext, hrest, congrArg Position.column hposition, hkey, hpending, hstands⟩

/-- A space behind a token, and the next token on its line. -/
theorem Stands.lands_space (h : t.Stands cols lexemes) (hpending : t.pending = none)
    {s : List Char} (hrest : t.rest = ' ' :: s) (hs : BeginsToken s) :
    t.Lands s (t.position.column + 1) t.keyAllowed cols lexemes := by
  refine h.lands (p := t.position.right 1) ?_ ?_ (passed_of_none hpending _)
  · rw [hrest, skipGap_space, skipGap_token hs]
  · rw [hrest]
    exact Nat.le_succ _

/-- The end of a line behind a token, and the next token on the next line. -/
theorem Stands.lands_newline (h : t.Stands cols lexemes) (hpending : t.pending = none) {k : Nat}
    {s : List Char} (hrest : t.rest = '\n' :: (List.replicate k ' ' ++ s)) (hs : BeginsToken s) :
    t.Lands s k true cols lexemes := by
  refine h.lands (p := ⟨t.position.line + 1, k⟩) ?_ ?_ (passed_of_none hpending _)
  · rw [hrest, skipGap_newline hs]
  · rw [hrest]
    simp only [List.length_cons, List.length_append]
    omega

/-- A block right of the next token may be counted as closed. -/
theorem Lands.close {s : List Char} {k c : Nat} {keyAllowed : Bool} (hk : k < c)
    (h : t.Lands s k keyAllowed (c :: cols) lexemes) :
    t.Lands s k keyAllowed cols (.blockEnd :: lexemes) := by
  obtain ⟨hlength, w, hnext, hrest, hcolumn, hkey, hpending, hstands⟩ := h
  refine ⟨hlength, w, hnext, hrest, hcolumn, hkey, hpending, ?_⟩
  rw [remaining, if_pos (Nat.succ_le_of_lt hk), endings, if_pos (Nat.succ_le_of_lt hk),
    List.append_assoc] at hstands
  exact hstands

/-- No block closes that reaches no further than the limit. -/
theorem remaining_eq_self {limit : Nat} {cols : List Nat} (h : ∀ c ∈ cols.head?, c < limit) :
    remaining limit cols = cols ∧ endings limit cols = [] := by
  cases cols with
  | nil => exact ⟨rfl, rfl⟩
  | cons c cols =>
    have hc : ¬limit ≤ c := Nat.not_le_of_gt (h c rfl)
    exact ⟨if_neg hc, if_neg hc⟩

/-- Where no open block is right of the next token, none closes. -/
theorem Lands.stands {s : List Char} {k : Nat} {keyAllowed : Bool}
    (h : t.Lands s k keyAllowed cols lexemes) (hk : ∀ c ∈ cols.head?, c ≤ k) :
    ∃ w, t.toNext = some w ∧ w.rest = s ∧ w.position.column = k ∧ w.keyAllowed = keyAllowed ∧
      w.pending = none ∧ w.Stands cols lexemes := by
  obtain ⟨-, w, hnext, hrest, hcolumn, hkey, hpending, hstands⟩ := h
  obtain ⟨hremaining, hendings⟩ := remaining_eq_self fun c hc => Nat.lt_succ_of_le (hk c hc)
  rw [hremaining, hendings] at hstands
  exact ⟨w, hnext, hrest, hcolumn, hkey, hpending, hstands⟩

/-! ## Reading tokens -/

/-- One state comes from another by reading tokens. -/
def Leads (t u : Tokenizer) : Prop :=
  ∃ n, u.rest.length + n ≤ t.rest.length ∧ ∀ fuel, run (fuel + n) t = run fuel u

theorem Leads.trans (h : t.Leads u) (h' : u.Leads v) : t.Leads v := by
  obtain ⟨n, hlength, hrun⟩ := h
  obtain ⟨m, hlength', hrun'⟩ := h'
  refine ⟨m + n, by omega, fun fuel => ?_⟩
  rw [← Nat.add_assoc, hrun, hrun']

/-- One token is read where a state stands, and takes a character at least. -/
def Reads (t u : Tokenizer) : Prop :=
  ∃ c r, t.rest = c :: r ∧ t.step c r = some u ∧ u.rest.length < t.rest.length

/-- One token. -/
theorem Reads.leads {w : Tokenizer} (h : w.Reads u) (hnext : t.toNext = some w)
    (hlength : w.rest.length ≤ t.rest.length) : t.Leads u := by
  obtain ⟨c, r, hrest, hstep, hless⟩ := h
  refine ⟨1, Nat.le_trans hless hlength, fun fuel => ?_⟩
  have hadvance : t.advance = some (.inl u) := by
    simp only [advance, hnext, Option.bind_eq_bind, Option.bind_some, hrest, hstep, Option.map_some]
  rw [run, hadvance]

/-- With as much fuel as there is text, a run comes to wherever its tokens lead. -/
theorem Leads.run_eq (h : t.Leads u) {fuel : Nat} (hfuel : t.rest.length < fuel) :
    ∃ fuel', u.rest.length < fuel' ∧ run fuel t = run fuel' u := by
  obtain ⟨n, hlength, hrun⟩ := h
  refine ⟨fuel - n, by omega, ?_⟩
  rw [← hrun, Nat.sub_add_cancel (by omega)]

end Tokenizer

end UniformIter.Document
