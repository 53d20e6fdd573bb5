import UniformIter.Proofs.Naming.Snake

/-!
# What becomes a word in snake case

A spelling in snake case without underscores is the name in small letters, and no word begins
behind the front of that name. So a word of small letters comes from three names only: itself,
itself with a capital in front, and itself in capitals (`snakeCase_eq_iff`).
-/

namespace UniformIter

/-! ## Names that stay in one piece -/

/-- Whether no word begins in the rest of a name, so that nothing parts it. -/
def isUnparted (previous : Option Char) : List Char → Bool
  | [] => true
  | c :: r => !startsWord previous c r.head? && isUnparted (some c) r

/-- What was written stays. -/
theorem mem_spellSnake {d : Char} (previous : Option Char) {written : List Char} (s : List Char)
    (h : d ∈ written) : d ∈ spellSnake previous written s := by
  induction s generalizing previous written with
  | nil =>
    rw [spellSnake]
    exact List.mem_reverse.2 h
  | cons c r ih =>
    rw [spellSnake]
    split
    next => exact ih _ (List.mem_cons_of_mem _ (List.mem_cons_of_mem _ h))
    next => exact ih _ (List.mem_cons_of_mem _ h)

theorem spellSnake_of_isUnparted {previous : Option Char} (written : List Char) {s : List Char}
    (h : isUnparted previous s = true) :
    spellSnake previous written s = written.reverse ++ s.map Char.toLower := by
  induction s generalizing previous written with
  | nil => rw [spellSnake, List.map_nil, List.append_nil]
  | cons c r ih =>
    rw [isUnparted, Bool.and_eq_true, Bool.not_eq_true'] at h
    rw [spellSnake, h.1, Bool.false_and, if_neg (by simp), ih _ h.2]
    simp

theorem isUnparted_of_not_mem {previous : Option Char} {written s : List Char}
    (hwritten : written.head? ≠ some '_') (h : '_' ∉ spellSnake previous written s) :
    isUnparted previous s = true := by
  induction s generalizing previous written with
  | nil => rfl
  | cons c r ih =>
    rw [spellSnake] at h
    have hfront : (written.head? != some '_') = true := by simpa using hwritten
    rw [hfront, Bool.and_true] at h
    by_cases hstarts : startsWord previous c r.head? = true
    · -- The underscore that parts the word from the one before would stay.
      rw [if_pos hstarts] at h
      exact absurd (mem_spellSnake _ r (List.mem_cons_of_mem _ List.mem_cons_self)) h
    · rw [if_neg hstarts] at h
      have hlower : c.toLower ≠ '_' := by
        intro heq
        rw [heq] at h
        exact h (mem_spellSnake _ r List.mem_cons_self)
      rw [isUnparted, ih (by simpa using hlower) h]
      simpa using hstarts

/-- What a spelling without underscores comes from. -/
theorem spellSnake_eq_iff {s w : List Char} (hw : '_' ∉ w) :
    spellSnake none [] s = w ↔ isUnparted none s = true ∧ s.map Char.toLower = w := by
  constructor
  · rintro rfl
    have h := isUnparted_of_not_mem (by simp) hw
    rw [spellSnake_of_isUnparted [] h]
    exact ⟨h, rfl⟩
  · rintro ⟨h, rfl⟩
    exact spellSnake_of_isUnparted [] h

/-! ## Capital and small letters -/

theorem continues_of_isSmall {c : Char} (h : isSmall c = true) : continuesIdentifier c = true := by
  have hletter : isLetter c = true := by
    rw [isLetter, show ('a' ≤ c && c ≤ 'z') = true from h, Bool.true_or]
  rw [continuesIdentifier, startsIdentifier, hletter]
  rfl

theorem continues_of_isCapital {c : Char} (h : isCapital c = true) :
    continuesIdentifier c = true := by
  have hletter : isLetter c = true := by
    rw [isLetter, show ('A' ≤ c && c ≤ 'Z') = true from h, Bool.or_true]
  rw [continuesIdentifier, startsIdentifier, hletter]
  rfl

/-- A small letter and its capital. -/
theorem small_and_capital {c : Char} (h : isSmall c = true) :
    isCapital c = false ∧ c.toLower = c ∧ isCapital c.toUpper = true ∧ c.toUpper.toLower = c :=
  of_continues (p := fun c => isSmall c = true →
    isCapital c = false ∧ c.toLower = c ∧ isCapital c.toUpper = true ∧ c.toUpper.toLower = c)
    (by decide) (continues_of_isSmall h) h

theorem only_capital {c : Char} (h : isCapital c = true) :
    isSmall c = false ∧ c.isDigit = false :=
  of_continues (p := fun c => isCapital c = true → isSmall c = false ∧ c.isDigit = false)
    (by decide) (continues_of_isCapital h) h

theorem isCapital_toLower {c : Char} (h : continuesIdentifier c = true) :
    isCapital c.toLower = false :=
  of_continues (p := fun c => isCapital c.toLower = false) (by decide) h

/-- What ends as a small letter was that letter or its capital. -/
theorem small_or_capital {c : Char} (hc : continuesIdentifier c = true)
    (h : isSmall c.toLower = true) :
    isSmall c = true ∧ c = c.toLower ∨ isCapital c = true ∧ c = c.toLower.toUpper :=
  of_continues (p := fun c => isSmall c.toLower = true →
    isSmall c = true ∧ c = c.toLower ∨ isCapital c = true ∧ c = c.toLower.toUpper)
    (by decide) hc h

/-- A letter is a small one or a capital. -/
def IsCased (c : Char) : Prop := isSmall c = true ∨ isCapital c = true

/-- Letters stay in one piece if those behind the first are small, or if all are capitals. -/
theorem isUnparted_iff {c : Char} {r : List Char} (hc : IsCased c) (hr : ∀ d ∈ r, IsCased d) :
    isUnparted (some c) r = true ↔
      r.all isSmall = true ∨ (c :: r).all isCapital = true := by
  induction r generalizing c with
  | nil => simp [isUnparted]
  | cons d r ih =>
    rw [isUnparted, Bool.and_eq_true, ih (hr d List.mem_cons_self)
      fun e he => hr e (List.mem_cons_of_mem _ he)]
    rcases hr d List.mem_cons_self with hd | hd
    · -- No word begins at a small letter.
      simp [startsWord, (small_and_capital hd).1, hd]
    · have hno := (only_capital hd).1
      rcases hc with hsmall | hcapital
      · simp [startsWord, hd, hno, hsmall, (small_and_capital hsmall).1]
      · -- A word begins at the last capital before a small letter.
        obtain ⟨hnot, hdigit⟩ := only_capital hcapital
        cases r with
        | nil => simp [startsWord, hd, hno, hcapital, hnot, hdigit]
        | cons e r =>
          rcases hr e (by simp) with he | he
          · simp [startsWord, hd, hno, hcapital, he, (small_and_capital he).1]
          · simp [startsWord, hd, hno, hcapital, he, (only_capital he).1, hnot, hdigit]

/-! ## Words of small letters -/

/-- Whether a text is a word of small letters. -/
def isSmallWord (w : String) : Bool := w.toList.all isSmall

/-- The names that become a word of small letters. -/
def spellings (w : String) : List String :=
  match w.toList with
  | [] => []
  | c :: r => [w, String.ofList (c.toUpper :: r), String.ofList ((c :: r).map Char.toUpper)]

/-- Small letters stay as they are. -/
theorem map_toLower_of_small {r : List Char} (h : ∀ d ∈ r, isSmall d = true) :
    r.map Char.toLower = r :=
  (List.map_congr_left fun d hd => (small_and_capital (h d hd)).2.1).trans (List.map_id r)

theorem map_toLower_of_capital {r : List Char} (h : ∀ d ∈ r, isSmall d = true) :
    (r.map Char.toUpper).map Char.toLower = r := by
  rw [List.map_map]
  exact (List.map_congr_left fun d hd => (small_and_capital (h d hd)).2.2.2).trans (List.map_id r)

/-- A name that stays in one piece and is a word in small letters has at most a capital in front,
or it is in capitals. -/
theorem spelling_of_lowered {c a : Char} {r v : List Char}
    (hname : ∀ d ∈ c :: r, continuesIdentifier d = true) (hw : ∀ d ∈ a :: v, isSmall d = true)
    (hone : isUnparted (some c) r = true) (hlower : (c :: r).map Char.toLower = a :: v) :
    c :: r = a :: v ∨ c :: r = a.toUpper :: v ∨ c :: r = (a :: v).map Char.toUpper := by
  have hletters : ∀ d ∈ c :: r, isSmall d = true ∧ d = d.toLower ∨
      isCapital d = true ∧ d = d.toLower.toUpper := by
    intro d hd
    refine small_or_capital (hname d hd) (hw d.toLower ?_)
    rw [← hlower]
    exact List.mem_map_of_mem hd
  have hcased : ∀ d ∈ c :: r, IsCased d := fun d hd => (hletters d hd).imp And.left And.left
  rw [List.map_cons, List.cons.injEq] at hlower
  rcases (isUnparted_iff (hcased c List.mem_cons_self)
    fun d hd => hcased d (List.mem_cons_of_mem _ hd)).1 hone with hsmall | hcapital
  · have hr : r = v := by
      rw [← hlower.2, map_toLower_of_small (List.all_eq_true.1 hsmall)]
    rcases hletters c List.mem_cons_self with ⟨-, hc⟩ | ⟨-, hc⟩
    · exact .inl (by rw [hc, hlower.1, hr])
    · exact .inr (.inl (by rw [hc, hlower.1, hr]))
  · -- Each letter is the capital of what it became.
    have hall : ∀ d ∈ c :: r, d = d.toLower.toUpper := by
      intro d hd
      rcases hletters d hd with ⟨hd', -⟩ | ⟨-, h⟩
      · rw [(only_capital (List.all_eq_true.1 hcapital d hd)).1] at hd'
        exact absurd hd' (by simp)
      · exact h
    refine .inr (.inr ?_)
    rw [← hlower.1, ← hlower.2, ← List.map_cons, List.map_map]
    exact ((List.map_congr_left fun d hd => (hall d hd).symm).trans (List.map_id _)).symm

/-- The three names that become a word, by their letters. -/
theorem spellSnake_eq_word_iff {c a : Char} {r v : List Char}
    (hname : ∀ d ∈ c :: r, continuesIdentifier d = true) (hw : ∀ d ∈ a :: v, isSmall d = true) :
    spellSnake none [] (c :: r) = a :: v ↔
      c :: r = a :: v ∨ c :: r = a.toUpper :: v ∨ c :: r = (a :: v).map Char.toUpper := by
  have hno : '_' ∉ a :: v := fun h => absurd (hw '_' h) (by decide)
  have ha := small_and_capital (hw a List.mem_cons_self)
  have hv : ∀ d ∈ v, isSmall d = true := fun d hd => hw d (List.mem_cons_of_mem _ hd)
  have hsmall : v.all isSmall = true := List.all_eq_true.2 hv
  have hcased : ∀ d ∈ v, IsCased d := fun d hd => .inl (hv d hd)
  have hfirst : isUnparted none (c :: r) = isUnparted (some c) r := by
    rw [isUnparted, startsWord, Bool.not_false, Bool.true_and]
  rw [spellSnake_eq_iff hno, hfirst]
  constructor
  · rintro ⟨hone, hlower⟩
    exact spelling_of_lowered hname hw hone hlower
  · rintro (heq | heq | heq) <;> obtain ⟨rfl, rfl⟩ := List.cons.inj heq
    · exact ⟨(isUnparted_iff (.inl (hw _ List.mem_cons_self)) hcased).2 (.inl hsmall),
        map_toLower_of_small hw⟩
    · refine ⟨(isUnparted_iff (.inr ha.2.2.1) hcased).2 (.inl hsmall), ?_⟩
      rw [List.map_cons, ha.2.2.2, map_toLower_of_small hv]
    · have hcapital : ∀ d ∈ (a :: v).map Char.toUpper, isCapital d = true := by
        rw [List.forall_mem_map]
        exact fun d hd => (small_and_capital (hw d hd)).2.2.1
      refine ⟨(isUnparted_iff (.inr ha.2.2.1) fun d hd => .inr ?_).2
        (.inr (List.all_eq_true.2 hcapital)), map_toLower_of_capital hw⟩
      exact hcapital d (List.mem_cons_of_mem _ hd)

/-- An identifier becomes a word of small letters exactly if it is one of its three spellings. -/
theorem snakeCase_eq_iff {n w : String} (hn : isIdentifier n = true)
    (hw : isSmallWord w = true) : snakeCase n = w ↔ n ∈ spellings w := by
  have hall := List.all_eq_true.1 (all_continues_of_formIdentifier hn)
  rw [isSmallWord, List.all_eq_true] at hw
  unfold spellings
  rw [← String.toList_inj, snakeCase, String.toList_ofList]
  cases hs : n.toList with
  | nil =>
    unfold isIdentifier at hn
    rw [hs] at hn
    exact absurd hn (by simp)
  | cons c r =>
    rw [hs] at hall
    cases hws : w.toList with
    | nil =>
      -- A name is never spelled with nothing at all.
      have hmem := mem_spellSnake (some c) r (List.mem_singleton.2 (rfl : c.toLower = c.toLower))
      have hne : spellSnake none [] (c :: r) ≠ [] := List.ne_nil_of_mem hmem
      simp [hne]
    | cons a v =>
      rw [hws] at hw
      rw [spellSnake_eq_word_iff hall hw, List.mem_cons, List.mem_cons, List.mem_singleton,
        ← String.toList_inj, ← String.toList_inj, ← String.toList_inj, hs, hws,
        String.toList_ofList, String.toList_ofList]

example : spellings "match" = ["match", "Match", "MATCH"] := by decide

/-! ## Lists of words -/

/-- No capital is left in snake case. -/
theorem isCapital_of_mem_spellSnake {d : Char} (previous : Option Char) {written s : List Char}
    (hs : ∀ c ∈ s, continuesIdentifier c = true) (hw : ∀ c ∈ written, isCapital c = false)
    (h : d ∈ spellSnake previous written s) : isCapital d = false := by
  induction s generalizing previous written with
  | nil =>
    rw [spellSnake] at h
    exact hw d (List.mem_reverse.1 h)
  | cons c r ih =>
    have hc := isCapital_toLower (hs c List.mem_cons_self)
    rw [spellSnake] at h
    refine ih _ (fun e he => hs e (List.mem_cons_of_mem _ he)) ?_ h
    rw [List.forall_mem_cons]
    refine ⟨hc, ?_⟩
    split
    next => exact List.forall_mem_cons.2 ⟨by decide, hw⟩
    next => exact hw

/-- The names that become one of a list of words, when every word without capitals is made of
small letters: their spellings. -/
theorem snakeCase_mem_iff {n : String} {words : List String} (hn : isIdentifier n = true)
    (hwords : ∀ w ∈ words, isSmallWord w = true ∨ w.toList.any isCapital = true) :
    snakeCase n ∈ words ↔ n ∈ (words.filter isSmallWord).flatMap spellings := by
  rw [List.mem_flatMap]
  constructor
  · intro hmem
    rcases hwords _ hmem with hw | hw
    · exact ⟨_, List.mem_filter.2 ⟨hmem, hw⟩, (snakeCase_eq_iff hn hw).1 rfl⟩
    · obtain ⟨d, hd, hcapital⟩ := List.any_eq_true.1 hw
      rw [snakeCase, String.toList_ofList] at hd
      have hno := isCapital_of_mem_spellSnake none
        (List.all_eq_true.1 (all_continues_of_formIdentifier hn)) (by simp) hd
      rw [hno] at hcapital
      exact absurd hcapital (by simp)
  · rintro ⟨w, hmem, hspelling⟩
    obtain ⟨hword, hw⟩ := List.mem_filter.1 hmem
    rwa [(snakeCase_eq_iff hn hw).2 hspelling]

/-! ## The underscore alone -/

theorem length_spellSnake (previous : Option Char) (written s : List Char) :
    written.length + s.length ≤ (spellSnake previous written s).length := by
  induction s generalizing previous written with
  | nil => simp [spellSnake]
  | cons c r ih =>
    rw [spellSnake]
    split
    next =>
      have h := ih (some c) (c.toLower :: '_' :: written)
      simp only [List.length_cons] at h ⊢
      omega
    next =>
      have h := ih (some c) (c.toLower :: written)
      simp only [List.length_cons] at h ⊢
      omega

/-- Only the underscore becomes the underscore. -/
theorem snakeCase_eq_underscore_iff {n : String} (hn : isIdentifier n = true) :
    snakeCase n = "_" ↔ n = "_" := by
  constructor
  · intro h
    have hlist : spellSnake none [] n.toList = ['_'] := by
      rw [← String.toList_inj, snakeCase, String.toList_ofList] at h
      exact h
    have hlength := length_spellSnake none [] n.toList
    rw [hlist] at hlength
    unfold isIdentifier at hn
    cases hs : n.toList with
    | nil => rw [hs] at hn; exact absurd hn (by simp)
    | cons c r =>
      rw [hs] at hlength hlist hn
      have hr : r = [] := List.length_eq_zero_iff.1 (by simpa using hlength)
      subst hr
      have hlower : c.toLower = '_' := (List.cons.inj hlist).1
      have hc := List.all_eq_true.1 (all_continues_of_formIdentifier hn) c List.mem_cons_self
      have hlast : c = '_' :=
        of_continues (p := fun c => c.toLower = '_' → c = '_') (by decide) hc hlower
      rw [← String.toList_inj, hs, hlast]
      rfl
  · rintro rfl
    rfl

end UniformIter
