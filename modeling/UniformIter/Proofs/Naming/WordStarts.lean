import UniformIter.Proofs.Naming.Spellings

/-!
# Where snake case parts a name

Snake case is the name in small letters with an underscore in front of every place at which a word
begins (`BeginsWord`), which a look at the name alone tells. The spelling writes from the left and
has a guard against an underscore behind an underscore. Where a word begins, the guard never has
anything to do, because what is written ends with the character before in lower case
(`Spelling.head?_written`). So the spelling is one without a guard (`spellSnake_eq_parted`), and
what is said of a name in snake case (`snakeCase_spelled`) is read off that one.
-/

namespace UniformIter

/-- A word of a name begins at a capital letter that stands behind a small letter or a digit, or
behind another capital letter and before a small one. At the front of a name none begins. -/
def BeginsWord (name : List Char) : Nat → Prop
  | 0 => False
  | i + 1 => ∃ p c, name[i]? = some p ∧ name[i + 1]? = some c ∧ isCapital c = true ∧
      (isSmall p = true ∨ p.isDigit = true ∨
        isCapital p = true ∧ ∃ n, name[i + 2]? = some n ∧ isSmall n = true)

theorem beginsWord_succ_iff {name : List Char} {i : Nat} :
    BeginsWord name (i + 1) ↔
      (name[i + 1]?.any fun c => startsWord name[i]? c name[i + 2]?) = true := by
  rw [BeginsWord]
  cases name[i + 1]? with
  | none => simp
  | some c =>
    cases name[i]? with
    | none => simp [startsWord]
    | some p => simp [startsWord, or_assoc, Option.any_eq_true]

instance (name : List Char) : DecidablePred (BeginsWord name)
  | 0 => inferInstanceAs (Decidable False)
  | _ + 1 => decidable_of_iff _ beginsWord_succ_iff.symm

/-- Where a word begins shows when the spelling comes to the character. -/
theorem beginsWord_append_iff (before : List Char) (c : Char) (r : List Char) :
    BeginsWord (before ++ c :: r) before.length ↔
      startsWord before.getLast? c r.head? = true := by
  rcases List.eq_nil_or_concat before with rfl | ⟨front, p, rfl⟩
  · simp [BeginsWord, startsWord]
  · rw [List.concat_eq_append, List.length_append, List.length_singleton, beginsWord_succ_iff]
    simp [List.head?_eq_getElem?, List.getElem?_append_right]

/-! ## Letters -/

theorem toLower_of_not_capital {c : Char} (h : isCapital c = false) : c.toLower = c := by
  refine dif_neg ?_
  rintro ⟨hA, hZ⟩
  have hcapital : isCapital c = true := by
    rw [isCapital, Bool.and_eq_true, decide_eq_true_iff, decide_eq_true_iff]
    exact ⟨hA, hZ⟩
  rw [hcapital] at h
  cases h

/-- What holds of the capital letters and their small ones, and of every other character and
itself, holds of all characters in lower case. -/
theorem of_toLower {p : Char → Char → Prop} (hcapital : ∀ c, isCapital c = true → p c c.toLower)
    (hself : ∀ c, isCapital c = false → p c c) (c : Char) : p c c.toLower := by
  cases h : isCapital c with
  | true => exact hcapital c h
  | false =>
    rw [toLower_of_not_capital h]
    exact hself c h

/-- No character is a capital letter in lower case. -/
theorem toLower_not_capital (c : Char) : isCapital c.toLower = false :=
  of_toLower (p := fun _ d => isCapital d = false)
    (fun _ h => isCapital_toLower (continues_of_isCapital h)) (fun _ h => h) c

theorem toLower_eq_underscore_iff (c : Char) : c.toLower = '_' ↔ c = '_' :=
  of_toLower (p := fun c d => d = '_' ↔ c = '_')
    (fun _ h => of_continues (p := fun c => isCapital c = true → (c.toLower = '_' ↔ c = '_'))
      (by decide) (continues_of_isCapital h) h)
    (fun _ _ => Iff.rfl) c

/-- Lower case keeps what may begin an identifier apart from what may not. -/
theorem startsIdentifier_toLower (c : Char) : startsIdentifier c.toLower = startsIdentifier c :=
  of_toLower (p := fun c d => startsIdentifier d = startsIdentifier c)
    (fun _ h => of_continues
      (p := fun c => isCapital c = true → startsIdentifier c.toLower = startsIdentifier c)
      (by decide) (continues_of_isCapital h) h)
    (fun _ _ => rfl) c

theorem continuesIdentifier_toLower (c : Char) :
    continuesIdentifier c.toLower = continuesIdentifier c :=
  of_toLower (p := fun c d => continuesIdentifier d = continuesIdentifier c)
    (fun _ h => by rw [continues_of_isCapital h, continues_toLower (continues_of_isCapital h)])
    (fun _ _ => rfl) c

/-! ## The guard -/

/-- The states of the spelling of a name: the character before the rest, what is written, last
character first, and the rest. -/
inductive Spelling (name : List Char) : Option Char → List Char → List Char → Prop where
  | front : Spelling name none [] name
  | next {previous : Option Char} {written r : List Char} {c : Char}
      (h : Spelling name previous written (c :: r)) :
      Spelling name (some c)
        (c.toLower ::
          if startsWord previous c r.head? && written.head? != some '_' then '_' :: written
          else written) r

/-- No word begins behind an underscore. -/
theorem startsWord_underscore (c : Char) (next : Option Char) :
    startsWord (some '_') c next = false := by
  have hno : (isSmall '_' || '_'.isDigit || (isCapital '_' && next.any isSmall)) = false := by
    simp [show isSmall '_' = false by decide, show isCapital '_' = false by decide]
  rw [startsWord, hno, Bool.and_false]

/-- Where a word begins, what ends with the character before in lower case ends with no
underscore. -/
theorem head?_ne_underscore {previous next : Option Char} {written : List Char} {c : Char}
    (hwritten : written.head? = previous.map Char.toLower)
    (h : startsWord previous c next = true) : written.head? ≠ some '_' := by
  intro hunderscore
  rw [hwritten, Option.map_eq_some_iff] at hunderscore
  obtain ⟨p, rfl, hp⟩ := hunderscore
  rw [(toLower_eq_underscore_iff p).1 hp, startsWord_underscore] at h
  cases h

namespace Spelling

variable {name written rest : List Char} {previous : Option Char}

/-- Every state leads to the same spelling. -/
theorem outcome (h : Spelling name previous written rest) :
    spellSnake previous written rest = spellSnake none [] name := by
  induction h with
  | front => rfl
  | next _ ih => rw [← ih, spellSnake]

/-- What is written ends with the character before, in lower case. -/
theorem head?_written (h : Spelling name previous written rest) :
    written.head? = previous.map Char.toLower := by
  cases h <;> rfl

end Spelling

/-! ## The spelling without its guard -/

/-- A character in lower case, behind an underscore if a word begins with it. -/
def lowered (begins : Bool) (c : Char) : List Char :=
  if begins then ['_', c.toLower] else [c.toLower]

theorem lowered_true (c : Char) : lowered true c = ['_', c.toLower] := rfl

theorem lowered_false (c : Char) : lowered false c = [c.toLower] := rfl

/-- The rest of a name in lower case, with an underscore wherever a word begins. -/
def parted (previous : Option Char) : List Char → List Char
  | [] => []
  | c :: r => lowered (startsWord previous c r.head?) c ++ parted (some c) r

theorem spellSnake_eq_parted {previous : Option Char} {written : List Char}
    (hwritten : written.head? = previous.map Char.toLower) (s : List Char) :
    spellSnake previous written s = written.reverse ++ parted previous s := by
  induction s generalizing previous written with
  | nil => rw [spellSnake, parted, List.append_nil]
  | cons c r ih =>
    rw [spellSnake, parted, ih rfl]
    cases hstarts : startsWord previous c r.head? with
    | true =>
      have hguard : (written.head? != some '_') = true :=
        bne_iff_ne.2 (head?_ne_underscore hwritten hstarts)
      rw [hguard]
      simp [lowered]
    | false => simp [lowered]

theorem toList_snakeCase (name : String) : (snakeCase name).toList = parted none name.toList := by
  rw [snakeCase, String.toList_ofList, spellSnake_eq_parted rfl]
  rfl

/-- Every character is written in lower case, behind an underscore where a word begins. -/
theorem parted_eq_flatten (before s : List Char) :
    parted before.getLast? s =
      (s.mapIdx fun i c =>
        lowered (decide (BeginsWord (before ++ s) (before.length + i))) c).flatten := by
  induction s generalizing before with
  | nil => rfl
  | cons c r ih =>
    have hrest := ih (before ++ [c])
    rw [List.getLast?_concat, List.append_assoc] at hrest
    rw [parted, List.mapIdx_cons, List.flatten_cons, hrest]
    simp only [Nat.add_zero, beginsWord_append_iff, List.length_append, List.length_singleton,
      List.singleton_append, Nat.add_assoc, Nat.add_comm 1, Bool.decide_eq_true]

/-! ## Underscores -/

theorem filter_lowered (begins : Bool) (c : Char) :
    (lowered begins c).filter (· != '_') = [c.toLower].filter (· != '_') := by
  cases begins <;> rfl

/-- Without underscores, what is left is the name in lower case. -/
theorem filter_parted (previous : Option Char) (s : List Char) :
    (parted previous s).filter (· != '_') = (s.map Char.toLower).filter (· != '_') := by
  induction s generalizing previous with
  | nil => rfl
  | cons c r ih =>
    rw [parted, List.filter_append, filter_lowered, ih, ← List.filter_append]
    rfl

theorem startsWord_of_not_capital {c : Char} (h : isCapital c = false)
    (previous next : Option Char) : startsWord previous c next = false := by
  cases previous with
  | none => rfl
  | some p => rw [startsWord, h, Bool.false_and]

/-- An underscore ahead is no more than the end of the name. -/
theorem startsWord_before_underscore (previous : Option Char) (c : Char) (r t : List Char) :
    startsWord previous c (r ++ '_' :: t).head? = startsWord previous c r.head? := by
  cases r with
  | nil =>
    cases previous with
    | none => rfl
    | some p => simp [startsWord, show isSmall '_' = false by decide]
  | cons d r => rfl

/-- Behind an underscore a name begins anew. -/
theorem parted_behind_underscore (s : List Char) : parted (some '_') s = parted none s := by
  cases s with
  | nil => rfl
  | cons c r => rw [parted, parted, startsWord_underscore]; rfl

theorem parted_underscore (previous : Option Char) (s : List Char) :
    parted previous ('_' :: s) = '_' :: parted none s := by
  rw [parted, startsWord_of_not_capital (by decide), parted_behind_underscore]
  rfl

/-- The names on both sides of an underscore are spelled each by itself. -/
theorem parted_append (previous : Option Char) (s t : List Char) :
    parted previous (s ++ '_' :: t) = parted previous s ++ '_' :: parted none t := by
  induction s generalizing previous with
  | nil => exact parted_underscore previous t
  | cons c r ih =>
    rw [List.cons_append, parted, parted, startsWord_before_underscore, ih, List.append_assoc]

/-- An underscore with another one behind it does not part the name, because there a letter comes
next: it is the character itself, or it comes later. -/
theorem lowered_append_eq {begins : Bool} {c : Char} {t x z : List Char}
    (hbegins : begins = true → c ≠ '_') (h : lowered begins c ++ t = x ++ '_' :: z)
    (hz : z.head? = some '_') :
    (c = '_' ∧ x = [] ∧ t = z) ∨ ∃ x', x = lowered begins c ++ x' ∧ t = x' ++ '_' :: z := by
  cases begins with
  | true =>
    have hc : c.toLower ≠ '_' := fun hlower => hbegins rfl ((toLower_eq_underscore_iff c).1 hlower)
    rw [lowered_true] at h ⊢
    cases x with
    | nil =>
      obtain ⟨-, rfl⟩ := List.cons.inj h
      exact absurd (Option.some.inj hz) hc
    | cons d x =>
      obtain ⟨rfl, htail⟩ := List.cons.inj h
      cases x with
      | nil => exact absurd (List.cons.inj htail).1 hc
      | cons e x =>
        obtain ⟨rfl, hrest⟩ := List.cons.inj htail
        exact .inr ⟨x, rfl, hrest⟩
  | false =>
    rw [lowered_false] at h ⊢
    cases x with
    | nil =>
      obtain ⟨hlower, hrest⟩ := List.cons.inj h
      exact .inl ⟨(toLower_eq_underscore_iff c).1 hlower, rfl, hrest⟩
    | cons d x =>
      obtain ⟨rfl, hrest⟩ := List.cons.inj h
      exact .inr ⟨x, rfl, hrest⟩

/-- An underscore with another one behind it is one of the name. -/
theorem exists_of_parted_eq_append {previous : Option Char} {s x z : List Char}
    (h : parted previous s = x ++ '_' :: z) (hz : z.head? = some '_') :
    ∃ a b, s = a ++ '_' :: b ∧ parted previous a = x ∧ parted none b = z := by
  induction s generalizing previous x with
  | nil => simp [parted] at h
  | cons c r ih =>
    have hbegins : startsWord previous c r.head? = true → c ≠ '_' := by
      rintro hstarts rfl
      rw [startsWord_of_not_capital (by decide)] at hstarts
      cases hstarts
    rw [parted] at h
    rcases lowered_append_eq hbegins h hz with ⟨rfl, rfl, rfl⟩ | ⟨x', rfl, hrest⟩
    · exact ⟨[], r, rfl, rfl, (parted_behind_underscore r).symm⟩
    · obtain ⟨a, b, rfl, rfl, hb⟩ := ih hrest
      refine ⟨c :: a, b, rfl, ?_, hb⟩
      rw [parted, startsWord_before_underscore]

/-- Only an underscore at the front of a name is written as one at the front. -/
theorem exists_of_parted_eq_cons {s y : List Char} (h : parted none s = '_' :: y) :
    ∃ b, s = '_' :: b ∧ parted none b = y := by
  cases s with
  | nil => simp [parted] at h
  | cons c r =>
    obtain ⟨hlower, rfl⟩ := List.cons.inj h
    obtain rfl := (toLower_eq_underscore_iff c).1 hlower
    exact ⟨r, rfl, (parted_behind_underscore r).symm⟩

/-- Two underscores side by side are two of the name, and the names around them are spelled each
by itself. -/
theorem parted_eq_append_iff {s x y : List Char} :
    parted none s = x ++ '_' :: '_' :: y ↔
      ∃ a b, s = a ++ '_' :: '_' :: b ∧ parted none a = x ∧ parted none b = y := by
  constructor
  · intro h
    obtain ⟨a, t, rfl, ha, ht⟩ := exists_of_parted_eq_append h rfl
    obtain ⟨b, rfl, hb⟩ := exists_of_parted_eq_cons ht
    exact ⟨a, b, rfl, ha, hb⟩
  · rintro ⟨a, b, rfl, rfl, rfl⟩
    rw [parted_append, parted_underscore]

theorem eq_append_underscores_iff {s x y : String} :
    s = x ++ "__" ++ y ↔ s.toList = x.toList ++ '_' :: '_' :: y.toList := by
  rw [← String.toList_inj, String.toList_append, String.toList_append, List.append_assoc]
  rfl

/-! ## Identifiers and names in snake case -/

theorem all_continues_parted (previous : Option Char) (s : List Char) :
    (parted previous s).all continuesIdentifier = s.all continuesIdentifier := by
  induction s generalizing previous with
  | nil => rfl
  | cons c r ih =>
    have hlowered : (lowered (startsWord previous c r.head?) c).all continuesIdentifier =
        continuesIdentifier c := by
      cases startsWord previous c r.head? <;>
        simp [lowered, continuesIdentifier_toLower, show continuesIdentifier '_' = true by decide]
    rw [parted, List.all_append, hlowered, ih, List.all_cons]

theorem formIdentifier_parted (s : List Char) :
    formIdentifier (parted none s) = formIdentifier s := by
  cases s with
  | nil => rfl
  | cons c r =>
    show formIdentifier (c.toLower :: parted (some c) r) = _
    rw [formIdentifier_cons, formIdentifier_cons, startsIdentifier_toLower, all_continues_parted]

/-- There are no capital letters in snake case. -/
theorem not_capital_of_mem_parted {previous : Option Char} {s : List Char} {d : Char}
    (h : d ∈ parted previous s) : isCapital d = false := by
  induction s generalizing previous with
  | nil => exact absurd h List.not_mem_nil
  | cons c r ih =>
    rw [parted, List.mem_append] at h
    rcases h with h | h
    · have hd : d = '_' ∨ d = c.toLower := by
        unfold lowered at h
        split at h <;> simp_all
      rcases hd with rfl | rfl
      · decide
      · exact toLower_not_capital c
    · exact ih h

/-- A name without capital letters stays as it is. -/
theorem parted_of_not_capital {previous : Option Char} {s : List Char}
    (h : ∀ c ∈ s, isCapital c = false) : parted previous s = s := by
  induction s generalizing previous with
  | nil => rfl
  | cons c r ih =>
    rw [List.forall_mem_cons] at h
    rw [parted, startsWord_of_not_capital h.1, lowered_false, toLower_of_not_capital h.1, ih h.2,
      List.singleton_append]

/-! ## What snake case makes of a name -/

/-- What is said of a name in snake case. -/
structure SpelledInSnakeCase (name out : String) : Prop where
  /-- Every character in lower case, with an underscore in front where a word begins. -/
  letters : out.toList =
    (name.toList.mapIdx fun i c =>
      if BeginsWord name.toList i then ['_', c.toLower] else [c.toLower]).flatten
  /-- Every state of the spelling leads to it. -/
  states : ∀ previous written rest, Spelling name.toList previous written rest →
    spellSnake previous written rest = out.toList
  /-- Wherever a word begins, nothing keeps the spelling from an underscore. -/
  unguarded : ∀ previous written c r, Spelling name.toList previous written (c :: r) →
    startsWord previous c r.head? = true → written.head? ≠ some '_'
  /-- Two underscores side by side are two of the name. -/
  doubled : ∀ x y, out = x ++ "__" ++ y ↔
    ∃ a b, name = a ++ "__" ++ b ∧ snakeCase a = x ∧ snakeCase b = y
  withoutUnderscores : out.toList.filter (· != '_') =
    (name.toList.map Char.toLower).filter (· != '_')
  identifier : isIdentifier out = true ↔ isIdentifier name = true
  again : snakeCase out = out

/-- All this holds of every name. -/
theorem snakeCase_spelled (name : String) : SpelledInSnakeCase name (snakeCase name) where
  letters := by
    rw [toList_snakeCase]
    have h := parted_eq_flatten [] name.toList
    simp only [List.nil_append, List.length_nil, Nat.zero_add, lowered, decide_eq_true_eq] at h
    exact h
  states _ _ _ hstate := by
    rw [hstate.outcome, snakeCase, String.toList_ofList]
  unguarded _ _ _ _ hstate hstarts := head?_ne_underscore hstate.head?_written hstarts
  doubled x y := by
    rw [eq_append_underscores_iff, toList_snakeCase, parted_eq_append_iff]
    constructor
    · rintro ⟨a, b, hname, ha, hb⟩
      refine ⟨String.ofList a, String.ofList b, ?_, ?_, ?_⟩
      · rw [eq_append_underscores_iff, hname, String.toList_ofList, String.toList_ofList]
      · rw [← String.toList_inj, toList_snakeCase, String.toList_ofList, ha]
      · rw [← String.toList_inj, toList_snakeCase, String.toList_ofList, hb]
    · rintro ⟨a, b, hname, rfl, rfl⟩
      exact ⟨a.toList, b.toList, eq_append_underscores_iff.1 hname, (toList_snakeCase a).symm,
        (toList_snakeCase b).symm⟩
  withoutUnderscores := by
    rw [toList_snakeCase]
    exact filter_parted none name.toList
  identifier := by
    rw [isIdentifier, isIdentifier, toList_snakeCase, formIdentifier_parted]
  again := by
    rw [← String.toList_inj, toList_snakeCase]
    apply parted_of_not_capital
    intro c hc
    rw [toList_snakeCase] at hc
    exact not_capital_of_mem_parted hc

example : snakeCase "beginV2IRIIter_ofÀB" = "begin_v2_iri_iter_ofÀb" := by decide +kernel

end UniformIter
