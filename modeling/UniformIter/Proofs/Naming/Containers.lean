import UniformIter.Naming.IteratorName

/-!
# Containers and the names that tell of them

The name of an iterator type is the name of its container with `Iterator` behind it, taken off
once. This file says that the two determine each other (`IteratorName.text_eq`,
`IteratorName.container_injective`) and that both are identifiers, so that a reader can tell
where either of them ends (`IteratorName.isIdentifier_container`). Every other text is told what
is wrong with it, its first defect first (`nameFault?_eq_some_iff`).
-/

namespace UniformIter

/-- What stands before an ending is what the ending was put behind. -/
theorem beforeSuffix?_eq_some_iff {suffix s p : List Char} :
    beforeSuffix? suffix s = some p ↔ s = p ++ suffix := by
  unfold beforeSuffix?
  constructor
  · intro h
    split at h
    next hsuf =>
      obtain ⟨q, rfl⟩ := List.isSuffixOf_iff_suffix.1 hsuf
      rw [List.length_append, Nat.add_sub_cancel, List.take_left] at h
      rw [← Option.some.inj h]
    next => exact absurd h (by simp)
  · rintro rfl
    rw [if_pos (List.isSuffixOf_iff_suffix.2 (List.suffix_append p suffix)),
      List.length_append, Nat.add_sub_cancel, List.take_left]

/-- A name tells of a container exactly if it is the container's name, which is not empty, with
the ending behind it. -/
theorem containerOf_eq_ok_iff {name : String} {c : ContainerName} :
    containerOf name = .ok c ↔ c.text ≠ "" ∧ name = c.text ++ iteratorSuffix := by
  have hname : ∀ p : List Char, name.toList = p ++ iteratorSuffix.toList ↔
      name = String.ofList p ++ iteratorSuffix := by
    intro p
    rw [← String.toList_inj, String.toList_append, String.toList_ofList]
  unfold containerOf
  constructor
  · intro h
    split at h
    next => exact absurd h (by simp)
    next => exact absurd h (by simp)
    next cs hne hb =>
      rw [← Except.ok.inj h]
      refine ⟨?_, (hname cs).1 (beforeSuffix?_eq_some_iff.1 hb)⟩
      intro hempty
      exact hne (by simpa using congrArg String.toList hempty)
  · rintro ⟨hne, rfl⟩
    have hb : beforeSuffix? iteratorSuffix.toList (c.text ++ iteratorSuffix).toList =
        some c.text.toList :=
      beforeSuffix?_eq_some_iff.2 String.toList_append
    cases hc : c.text.toList with
    | nil => exact absurd (String.toList_eq_nil_iff.1 hc) hne
    | cons a r =>
      rw [hb, hc]
      show Except.ok (ContainerName.mk (String.ofList (a :: r))) = Except.ok c
      rw [← hc, String.ofList_toList]

/-- The ending alone tells of a container without a name, which is none. -/
theorem containerOf_eq_noContainer_iff {name : String} :
    containerOf name = .error .noContainer ↔ name = iteratorSuffix := by
  constructor
  · intro h
    unfold containerOf at h
    split at h
    next => cases h
    next hb =>
      rw [← String.toList_inj]
      exact beforeSuffix?_eq_some_iff.mp hb
    next => cases h
  · intro h
    subst h
    have hb : beforeSuffix? iteratorSuffix.toList iteratorSuffix.toList = some [] :=
      beforeSuffix?_eq_some_iff.mpr rfl
    unfold containerOf
    rw [hb]

/-- A text without the ending tells of no container. -/
theorem containerOf_eq_noSuffix_iff {name : String} :
    containerOf name = .error .noSuffix ↔ ∀ c : String, name ≠ c ++ iteratorSuffix := by
  constructor
  · intro h c hname
    subst hname
    by_cases hc : c = ""
    · subst hc
      rw [String.empty_append, containerOf_eq_noContainer_iff.mpr rfl] at h
      cases h
    · rw [containerOf_eq_ok_iff (c := ⟨c⟩).mpr ⟨hc, rfl⟩] at h
      cases h
  · intro h
    have hb : beforeSuffix? iteratorSuffix.toList name.toList = none := by
      cases hb : beforeSuffix? iteratorSuffix.toList name.toList with
      | none => rfl
      | some cs =>
        have hname := beforeSuffix?_eq_some_iff.mp hb
        apply absurd _ (h (String.ofList cs))
        rw [← String.toList_inj, String.toList_append, String.toList_ofList, hname]
    unfold containerOf
    rw [hb]

/-- The beginning of an identifier is an identifier, unless it is empty. -/
theorem formIdentifier_of_append {p r : List Char} (hp : p ≠ [])
    (h : formIdentifier (p ++ r) = true) : formIdentifier p = true := by
  cases p with
  | nil => exact absurd rfl hp
  | cons c p =>
    rw [List.cons_append, formIdentifier_cons, List.all_append, Bool.and_eq_true,
      Bool.and_eq_true] at h
    rw [formIdentifier_cons, h.1, h.2.1]
    rfl

/-- A name for an iterator type: an identifier, made of the name of a container, which is not
empty, with the ending behind it. -/
structure NamesIterator (name : String) : Prop where
  identifier : isIdentifier name = true
  container : ∃ c, c ≠ "" ∧ name = c ++ iteratorSuffix

namespace IteratorName

/-- The name of an iterator type is that of its container with the ending behind it. -/
theorem text_eq (n : IteratorName) : n.text = n.container.text ++ iteratorSuffix :=
  (containerOf_eq_ok_iff.1 n.containerOf_text).2

/-- A container has a name. -/
theorem container_ne_empty (n : IteratorName) : n.container.text ≠ "" :=
  (containerOf_eq_ok_iff.1 n.containerOf_text).1

theorem isIdentifier_text (n : IteratorName) : isIdentifier n.text = true := by
  have h := n.sound
  unfold nameFault? at h
  split at h
  next => exact absurd h (by simp)
  next hid => simpa using hid

/-- The name of a container is an identifier too. -/
theorem isIdentifier_container (n : IteratorName) : isIdentifier n.container.text = true := by
  have h := n.isIdentifier_text
  rw [isIdentifier, n.text_eq, String.toList_append] at h
  refine formIdentifier_of_append ?_ h
  exact fun hnil => n.container_ne_empty (String.toList_eq_nil_iff.1 hnil)

/-- The text of a name is one for an iterator type. -/
theorem namesIterator (n : IteratorName) : NamesIterator n.text :=
  ⟨n.isIdentifier_text, n.container.text, n.container_ne_empty, n.text_eq⟩

/-- Iterator types of one name are one. -/
theorem text_injective {m n : IteratorName} (h : m.text = n.text) : m = n := by
  cases m
  cases n
  cases h
  rfl

/-- No container has two iterator types. -/
theorem container_injective {m n : IteratorName} (h : m.container = n.container) : m = n := by
  apply text_injective
  rw [m.text_eq, n.text_eq, h]

end IteratorName

/-! ## What is wrong with a name -/

/-- What is wrong with a name by itself. One that is no identifier is told as such, whatever its
ending is. -/
inductive NameFault.Concerns (name : String) : NameFault → Prop where
  | notIdentifier (h : isIdentifier name = false) : Concerns name .notIdentifier
  | noSuffix (h : isIdentifier name = true) (hsuffix : ∀ c, name ≠ c ++ iteratorSuffix) :
    Concerns name .noSuffix
  | noContainer (h : isIdentifier name = true) (hempty : name = iteratorSuffix) :
    Concerns name .noContainer

theorem nameFault?_of_not_identifier {name : String} (h : isIdentifier name = false) :
    nameFault? name = some .notIdentifier := by
  unfold nameFault?
  rw [h]
  rfl

theorem nameFault?_of_identifier {name : String} (h : isIdentifier name = true) (f : NameFault) :
    nameFault? name = some f ↔ containerOf name = .error f := by
  unfold nameFault?
  rw [h, if_neg (by decide)]
  cases containerOf name <;> simp

theorem nameFault?_eq_some_iff {name : String} {f : NameFault} :
    nameFault? name = some f ↔ f.Concerns name := by
  cases hid : isIdentifier name with
  | false =>
    rw [nameFault?_of_not_identifier hid]
    constructor
    · intro h
      cases h
      exact .notIdentifier hid
    · intro h
      cases h with
      | notIdentifier => rfl
      | noSuffix h => rw [hid] at h; cases h
      | noContainer h => rw [hid] at h; cases h
  | true =>
    rw [nameFault?_of_identifier hid]
    constructor
    · intro h
      cases f with
      | notIdentifier =>
        unfold containerOf at h
        split at h <;> cases h
      | noSuffix => exact .noSuffix hid (containerOf_eq_noSuffix_iff.mp h)
      | noContainer => exact .noContainer hid (containerOf_eq_noContainer_iff.mp h)
    · intro h
      cases h with
      | notIdentifier h => rw [hid] at h; cases h
      | noSuffix _ hsuffix => exact containerOf_eq_noSuffix_iff.mpr hsuffix
      | noContainer _ hempty => exact containerOf_eq_noContainer_iff.mpr hempty

/-- Nothing is wrong with the names of iterator types, and with no others. -/
theorem nameFault?_eq_none_iff {name : String} :
    nameFault? name = none ↔ NamesIterator name := by
  constructor
  · intro h
    exact (⟨name, h⟩ : IteratorName).namesIterator
  · intro h
    obtain ⟨c, hc⟩ := h.container
    have hok : containerOf name = .ok ⟨c⟩ := containerOf_eq_ok_iff.mpr hc
    cases hf : nameFault? name with
    | none => rfl
    | some f =>
      rw [nameFault?_of_identifier h.identifier, hok] at hf
      cases hf

/-- A text is refused as a name with what is wrong with it. -/
theorem IteratorName.ofText_eq_error_iff {text : String} {f : NameFault} :
    ofText text = .error f ↔ f.Concerns text := by
  rw [← nameFault?_eq_some_iff]
  unfold ofText
  split
  next g hg =>
    rw [hg]
    simp
  next hg => simp [hg]

end UniformIter
