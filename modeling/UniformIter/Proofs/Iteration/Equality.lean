import UniformIter.Proofs.Iteration.Steps

/-!
# Equality of adapters

Two adapters are equal if they are of one kind, have one owner and stand at the same cursor. Only
the last question is left to the kind (`Adapter.equals_eq_true_iff`), so what equality is like on
the adapters of all kinds together depends on how the kinds compare their cursors. Where each of
them tells cursors apart by what they are (`PropertyKind.TellsCursors`), equality is an
equivalence over all kinds, and equal adapters stay equal under every step and tell the same on the
way (`Adapter.equalityLaws_of_tellsCursors`).
-/

namespace UniformIter

/-- Cursors are the same for a kind exactly if they are one. -/
def PropertyKind.TellsCursors (K : PropertyKind) : Prop :=
  ∀ c d : K.Cursor, K.sameCursor c d = true ↔ c = d

/-- The kind of lists tells cursors by the elements and the index. -/
theorem tellsCursors_listProperty (iteratorType typeName : String) :
    (listProperty iteratorType typeName).TellsCursors := by
  intro c d
  exact beq_iff_eq

/-- The owner with this identity and these elements, in a kind that is one of lists. -/
def PropertyKind.listOwner {K : PropertyKind} {iteratorType typeName : String}
    (h : K = listProperty iteratorType typeName) (s : Shared (List Element)) : K.Owner :=
  h ▸ s

theorem PropertyKind.listOwner_injective {K : PropertyKind} {iteratorType typeName : String}
    (h : K = listProperty iteratorType typeName) {s t : Shared (List Element)}
    (hst : listOwner h s = listOwner h t) : s = t := by
  subst h
  exact hst

variable {κ : Type} [DecidableEq κ] {kinds : κ → PropertyKind}

namespace Adapter

/-! ## One test for all kinds -/

/-- Adapters of one owner are compared by their cursors. -/
theorem equals_of_owner (k : κ) (o : (kinds k).Owner) (c d : (kinds k).Cursor) :
    (⟨k, o, c⟩ : Adapter kinds).equals ⟨k, o, d⟩ = (kinds k).sameCursor c d := by
  simp [equals]

/-- Equal adapters are of one kind and have one owner, and their cursors are the same for it. -/
theorem equals_eq_true_iff {a b : Adapter kinds} :
    a.equals b = true ↔ ∃ k o c d, a = ⟨k, o, c⟩ ∧ b = ⟨k, o, d⟩ ∧
      (kinds k).sameCursor c d = true := by
  constructor
  · intro h
    obtain ⟨k, o, c⟩ := a
    obtain ⟨j, p, d⟩ := b
    -- Only adapters of one kind get as far as the question for the owner.
    by_cases hkind : j = k
    · subst hkind
      have hboth : o = p ∧ (kinds j).sameCursor c d = true := by simpa [equals] using h
      obtain ⟨rfl, hcursor⟩ := hboth
      exact ⟨j, o, c, d, rfl, rfl, hcursor⟩
    · rw [equals, dif_neg hkind] at h
      cases h
  · rintro ⟨k, o, c, d, rfl, rfl, hcursor⟩
    rw [equals_of_owner, hcursor]

theorem equals_eq_false_of_kind {a b : Adapter kinds} (h : a.kind ≠ b.kind) :
    a.equals b = false := by
  rw [equals, dif_neg (Ne.symm h)]

theorem equals_eq_false_of_owner {k : κ} {o p : (kinds k).Owner} (h : o ≠ p)
    (c d : (kinds k).Cursor) : (⟨k, o, c⟩ : Adapter kinds).equals ⟨k, p, d⟩ = false := by
  simp [equals, h]

/-- An adapter equals its own end exactly if its cursor is the same as the owner's end. -/
theorem equals_stop (k : κ) (o : (kinds k).Owner) (c : (kinds k).Cursor) :
    (⟨k, o, c⟩ : Adapter kinds).equals (⟨k, o, c⟩ : Adapter kinds).stop =
      (kinds k).sameCursor c ((kinds k).stop o) :=
  equals_of_owner k o c _

/-! ## Kinds that tell cursors apart -/

/-- Where every kind tells cursors apart by what they are, so does equality with adapters. -/
theorem equals_iff_eq (hkinds : ∀ k, (kinds k).TellsCursors) {a b : Adapter kinds} :
    a.equals b = true ↔ a = b := by
  rw [equals_eq_true_iff]
  constructor
  · rintro ⟨k, o, c, d, rfl, rfl, hcursor⟩
    rw [(hkinds k c d).mp hcursor]
  · rintro rfl
    exact ⟨a.kind, a.owner, a.cursor, a.cursor, rfl, rfl, (hkinds _ _ _).mpr rfl⟩

/-- Two adapters tell the same, and so do those that come of them by the same steps. -/
structure Agree (a b : Adapter kinds) : Prop where
  hasAny : a.hasAny = b.hasAny
  isIri : a.isIri = b.isIri
  iri? : a.iri? = b.iri?
  object? : a.object? = b.object?
  next : a.next.equals b.next = true
  stop : a.stop.equals b.stop = true
  steppedBy : ∀ steps, (a.steppedBy steps).equals (b.steppedBy steps) = true

theorem agree_of_equals (hkinds : ∀ k, (kinds k).TellsCursors) {a b : Adapter kinds}
    (h : a.equals b = true) : a.Agree b := by
  obtain rfl : a = b := (equals_iff_eq hkinds).mp h
  have hself : ∀ c : Adapter kinds, c.equals c = true := fun c => (equals_iff_eq hkinds).mpr rfl
  exact ⟨rfl, rfl, rfl, rfl, hself _, hself _, fun _ => hself _⟩

/-- What equality is like on the adapters of all kinds taken together. -/
structure EqualityLaws (kinds : κ → PropertyKind) : Prop where
  equivalence : Equivalence fun a b : Adapter kinds => a.equals b = true
  kinds_apart : ∀ a b : Adapter kinds, a.kind ≠ b.kind → a.equals b = false
  owners_apart : ∀ (k : κ) (o p : (kinds k).Owner) (c d : (kinds k).Cursor), o ≠ p →
    (⟨k, o, c⟩ : Adapter kinds).equals ⟨k, p, d⟩ = false
  /-- The same elements under another identity are another owner. -/
  elements_apart : ∀ (k : κ) (iteratorType typeName : String)
    (hk : kinds k = listProperty iteratorType typeName) (elements : List Element) (i j : Nat)
    (c d : (kinds k).Cursor), i ≠ j →
    (⟨k, PropertyKind.listOwner hk ⟨i, elements⟩, c⟩ : Adapter kinds).equals
      ⟨k, PropertyKind.listOwner hk ⟨j, elements⟩, d⟩ = false
  agree : ∀ a b : Adapter kinds, a.equals b = true → a.Agree b
  /-- A value begins at one adapter, whichever dispatchers take it. -/
  begins : ∀ (d e : Dispatcher kinds) (v : Dynamic kinds) (a b : Adapter kinds),
    d.begin (some v) = .ok a → e.begin (some v) = .ok b → a.equals b = true

/-- Where every kind tells cursors apart by what they are, the laws of equality hold. -/
theorem equalityLaws_of_tellsCursors (hkinds : ∀ k, (kinds k).TellsCursors) :
    EqualityLaws kinds where
  equivalence := by
    refine ⟨?_, ?_, ?_⟩
    · intro a
      exact (equals_iff_eq hkinds).mpr rfl
    · intro a b hab
      exact (equals_iff_eq hkinds).mpr ((equals_iff_eq hkinds).mp hab).symm
    · intro a b c hab hbc
      have heq : a = c := ((equals_iff_eq hkinds).mp hab).trans ((equals_iff_eq hkinds).mp hbc)
      exact (equals_iff_eq hkinds).mpr heq
  kinds_apart _ _ h := equals_eq_false_of_kind h
  owners_apart _ _ _ c d h := equals_eq_false_of_owner h c d
  elements_apart k iteratorType typeName hk elements i j c d hij := by
    apply equals_eq_false_of_owner
    intro hsame
    have hshared := PropertyKind.listOwner_injective hk hsame
    exact hij (congrArg Shared.identity hshared)
  agree _ _ h := agree_of_equals hkinds h
  begins d e v a b ha hb := by
    obtain ⟨k, o, hv, -, rfl⟩ := Dispatcher.begin_some_eq_ok_iff.mp ha
    obtain ⟨j, p, hw, -, rfl⟩ := Dispatcher.begin_some_eq_ok_iff.mp hb
    -- Both answers are about the owner that the value is.
    obtain ⟨rfl, hp⟩ := Dynamic.property.inj (hv.symm.trans hw)
    rw [eq_of_heq hp]
    exact (equals_iff_eq hkinds).mpr rfl

/-- Two kinds of one family: a list, and a bare number that goes on behind the end. -/
def listOrNumber : Bool → PropertyKind
  | true => listProperty "BarIterator" "Bar"
  | false => openEnded

/-- Both kinds tell cursors apart, so two owners with the same elements never give equal adapters,
and a list is never equal to a number. -/
theorem equalityLaws_listOrNumber :
    (∀ k, (listOrNumber k).TellsCursors) ∧ EqualityLaws listOrNumber ∧
    (∀ c d : ListCursor, (⟨true, ⟨1, [.iri "https://a/"]⟩, c⟩ : Adapter listOrNumber).equals
      ⟨true, ⟨2, [.iri "https://a/"]⟩, d⟩ = false) ∧
    ∀ (c : ListCursor) (d : Nat), (⟨true, ⟨1, []⟩, c⟩ : Adapter listOrNumber).equals
      ⟨false, ⟨1, 0⟩, d⟩ = false := by
  have hkinds : ∀ k, (listOrNumber k).TellsCursors := by
    intro k
    cases k with
    | true => exact tellsCursors_listProperty _ _
    | false =>
      intro (c : Nat) (d : Nat)
      exact beq_iff_eq
  have hlaws := equalityLaws_of_tellsCursors hkinds
  refine ⟨hkinds, hlaws, ?_, ?_⟩
  · intro c d
    exact hlaws.elements_apart true _ _ rfl _ 1 2 c d (by decide)
  · intro c d
    exact hlaws.kinds_apart _ _ nofun

end Adapter

end UniformIter
