import UniformIter.Iteration.Dispatcher
import UniformIter.Proofs.Registry.Entries

/-!
# What a dispatcher answers

Two searches decide about a value: each supported entry looks for the first kind that is bound
under its name, and the value looks for the first case of its own kind. No two entries share a
name, so the searches cannot cross: a value of some kind meets a case exactly if its kind is the
first one bound under a supported name (`Dispatcher.mem_cases`, `Dispatcher.Serves`). What the
answer is follows for every value (`Dispatcher.begin_ofBindings`), and so do the containers of a
dispatcher in which every supported name is bound (`Dispatcher.containers_ofBindings`).
-/

namespace UniformIter

variable {κ : Type} {kinds : κ → PropertyKind}

/-- A value gives an adapter for its own kind only, at the first element of the owner it is. -/
theorem Dynamic.adapter?_eq_some_iff [DecidableEq κ] {k : κ} {v : Dynamic kinds}
    {a : Adapter kinds} :
    v.adapter? k = some a ↔ ∃ o, v = .property k o ∧ a = .first k o := by
  unfold adapter? owner?
  cases v with
  | plain t j => simp
  | property j o =>
    by_cases h : j = k
    · subst h
      simp [eq_comm]
    · constructor
      · intro ha
        simp [h] at ha
      · rintro ⟨o', hv, -⟩
        exact absurd (Dynamic.property.inj hv).1 h

namespace Dispatcher

/-- A kind that is bound before every other kind of its name. -/
def FirstBound (kinds : κ → PropertyKind) (bindings : List κ) (k : κ) : Prop :=
  ∃ before after, bindings = before ++ k :: after ∧
    ∀ j ∈ before, (kinds j).iteratorType ≠ (kinds k).iteratorType

/-- A kind whose values a dispatcher takes. -/
def Serves (kinds : κ → PropertyKind) (s : Settings) (bindings : List κ) (k : κ) : Prop :=
  s.registry.isSupported (kinds k).iteratorType = true ∧ FirstBound kinds bindings k

variable {s : Settings} {bindings : List κ} {k : κ}

theorem binding?_eq_some_iff {e : Entry} :
    binding? kinds bindings e = some k ↔
      (kinds k).iteratorType = e.iterator.text ∧ FirstBound kinds bindings k := by
  unfold binding? FirstBound
  rw [List.find?_eq_some_iff_append, beq_iff_eq]
  constructor
  · rintro ⟨hk, before, after, hb, hno⟩
    refine ⟨hk, before, after, hb, fun j hj => ?_⟩
    rw [hk]
    simpa using hno j hj
  · rintro ⟨hk, before, after, hb, hno⟩
    refine ⟨hk, before, after, hb, fun j hj => ?_⟩
    have := hno j hj
    rw [hk] at this
    simpa using this

/-- Every case is that of a supported entry, with the first kind bound under its name. -/
theorem mem_cases {c : DispatchCase κ} :
    c ∈ (ofBindings kinds s bindings).cases ↔ c.entry ∈ s.registry.supported ∧
      (kinds c.kind).iteratorType = c.entry.iterator.text ∧
      FirstBound kinds bindings c.kind := by
  unfold ofBindings
  rw [List.mem_filterMap]
  constructor
  · rintro ⟨e, he, hc⟩
    obtain ⟨k, hk, rfl⟩ := Option.map_eq_some_iff.1 hc
    exact ⟨he, binding?_eq_some_iff.1 hk⟩
  · rintro ⟨he, hk⟩
    exact ⟨c.entry, he, by rw [binding?_eq_some_iff.2 hk]; rfl⟩

/-- A kind has a case exactly if its values are taken. -/
theorem exists_case_iff :
    (∃ c ∈ (ofBindings kinds s bindings).cases, c.kind = k) ↔ Serves kinds s bindings k := by
  unfold Serves
  rw [Registry.isSupported_iff]
  constructor
  · rintro ⟨c, hc, rfl⟩
    obtain ⟨he, hname, hfirst⟩ := mem_cases.1 hc
    exact ⟨⟨c.entry, he, hname.symm⟩, hfirst⟩
  · rintro ⟨⟨e, he, hname⟩, hfirst⟩
    exact ⟨⟨e, k⟩, mem_cases.2 ⟨he, hname.symm, hfirst⟩, rfl⟩

section

variable [DecidableEq κ]

theorem begin_some (d : Dispatcher kinds) (v : Dynamic kinds) :
    d.begin (some v) = match d.meet? v with
      | some (_, a) => .ok a
      | none => .error (.unsupportedType v.typeName) := rfl

/-- Whichever case a value meets first, the answer is that of its own kind. -/
theorem begin_some_eq_ok_iff {d : Dispatcher kinds} {v : Dynamic kinds} {a : Adapter kinds} :
    d.begin (some v) = .ok a ↔
      ∃ k o, v = .property k o ∧ (∃ c ∈ d.cases, c.kind = k) ∧ a = .first k o := by
  have hmeet : d.begin (some v) = .ok a ↔ ∃ e, d.meet? v = some (e, a) := by
    rw [begin_some]
    cases d.meet? v with
    | none => simp
    | some found =>
      obtain ⟨e, b⟩ := found
      simp
  rw [hmeet]
  unfold meet?
  constructor
  · rintro ⟨e, hfind⟩
    obtain ⟨c, hc, hgive⟩ := List.exists_of_findSome?_eq_some hfind
    obtain ⟨b, hb, heq⟩ := Option.map_eq_some_iff.1 hgive
    obtain ⟨o, hv, ha⟩ := Dynamic.adapter?_eq_some_iff.1 hb
    exact ⟨c.kind, o, hv, ⟨c, hc, rfl⟩, (Prod.mk.inj heq).2 ▸ ha⟩
  · rintro ⟨k, o, rfl, ⟨c, hc, hk⟩, rfl⟩
    cases hfind : d.cases.findSome? fun c =>
        ((Dynamic.property k o : Dynamic kinds).adapter? c.kind).map (c.entry, ·) with
    | none =>
      -- The case of this kind would have given an adapter.
      have hnone := List.findSome?_eq_none_iff.1 hfind c hc
      rw [Dynamic.adapter?_eq_some_iff.2 ⟨hk ▸ o, by subst hk; rfl, rfl⟩] at hnone
      exact absurd hnone (by simp)
    | some found =>
      obtain ⟨b, hb, hgive⟩ := List.exists_of_findSome?_eq_some hfind
      obtain ⟨a, ha, rfl⟩ := Option.map_eq_some_iff.1 hgive
      obtain ⟨o', hv, rfl⟩ := Dynamic.adapter?_eq_some_iff.1 ha
      obtain ⟨hkind, howner⟩ := Dynamic.property.inj hv
      subst hkind
      exact ⟨b.entry, by rw [eq_of_heq howner]⟩

/-- A value without an answer is named by its type. -/
theorem begin_some_eq_error {d : Dispatcher kinds} {v : Dynamic kinds} {f : DispatchFault}
    (h : d.begin (some v) = .error f) : f = .unsupportedType v.typeName := by
  rw [begin_some] at h
  split at h
  · cases h
  · exact (Except.error.inj h).symm

/-- The answer to every value: an adapter at the first element of the value's own owner if its
kind is the first one bound under a supported name, and else the name of its type. The answer
to no value depends on nothing but the check for it. -/
theorem begin_ofBindings (kinds : κ → PropertyKind) (s : Settings) (bindings : List κ) :
    (∀ (v : Dynamic kinds) (a : Adapter kinds),
      (ofBindings kinds s bindings).begin (some v) = .ok a ↔
        ∃ k o, v = .property k o ∧ Serves kinds s bindings k ∧ a = ⟨k, o, (kinds k).first o⟩) ∧
    (∀ (v : Dynamic kinds) (f : DispatchFault),
      (ofBindings kinds s bindings).begin (some v) = .error f ↔
        f = .unsupportedType v.typeName ∧
          ¬∃ k o, v = .property k o ∧ Serves kinds s bindings k) ∧
    (ofBindings kinds s bindings).begin none =
      .error (if s.dispatch.checkNil then .invalidArgument else .unsupportedType "<nil>") := by
  have hok : ∀ (v : Dynamic kinds) (a : Adapter kinds),
      (ofBindings kinds s bindings).begin (some v) = .ok a ↔
        ∃ k o, v = .property k o ∧ Serves kinds s bindings k ∧ a = .first k o := by
    intro v a
    rw [begin_some_eq_ok_iff]
    simp only [exists_case_iff]
  refine ⟨hok, fun v f => ?_, rfl⟩
  constructor
  · intro herror
    refine ⟨begin_some_eq_error herror, ?_⟩
    rintro ⟨k, o, hv, hserves⟩
    rw [(hok v _).2 ⟨k, o, hv, hserves, rfl⟩] at herror
    cases herror
  · rintro ⟨rfl, hno⟩
    cases hbegin : (ofBindings kinds s bindings).begin (some v) with
    | ok a =>
      obtain ⟨k, o, hv, hserves, -⟩ := (hok v a).1 hbegin
      exact absurd ⟨k, o, hv, hserves⟩ hno
    | error f => rw [begin_some_eq_error hbegin]

end

/-- Whether some kind is bound under the name of an entry. -/
def isBound (kinds : κ → PropertyKind) (bindings : List κ) (e : Entry) : Bool :=
  bindings.any fun k => (kinds k).iteratorType == e.iterator.text

/-- There is a case for each supported entry that is bound, in order. -/
theorem entries_ofBindings (kinds : κ → PropertyKind) (s : Settings) (bindings : List κ) :
    (ofBindings kinds s bindings).cases.map (·.entry) =
      s.registry.supported.filter (isBound kinds bindings) := by
  show (s.registry.supported.filterMap fun e =>
    (binding? kinds bindings e).map (DispatchCase.mk e)).map (·.entry) = _
  induction s.registry.supported with
  | nil => rfl
  | cons e es ih =>
    have hbound : isBound kinds bindings e = (binding? kinds bindings e).isSome :=
      List.isSome_find?.symm
    rw [List.filterMap_cons, List.filter_cons, hbound]
    cases binding? kinds bindings e with
    | none => exact ih
    | some k => exact congrArg (e :: ·) ih

theorem containers_eq (d : Dispatcher kinds) :
    d.containers = (d.cases.map (·.entry)).map (·.container) := by
  rw [List.map_map]
  rfl

/-- With every supported name bound, there is a case for each supported entry, in order. -/
theorem containers_ofBindings
    (h : ∀ e ∈ s.registry.supported, ∃ k ∈ bindings, (kinds k).iteratorType = e.iterator.text) :
    (ofBindings kinds s bindings).containers = s.registry.supported.map (·.container) := by
  have hall : ∀ e ∈ s.registry.supported, isBound kinds bindings e = true := by
    intro e he
    obtain ⟨k, hk, hname⟩ := h e he
    exact List.any_eq_true.mpr ⟨k, hk, beq_iff_eq.mpr hname⟩
  rw [containers_eq, entries_ofBindings, List.filter_eq_self.mpr hall]

end Dispatcher

end UniformIter
