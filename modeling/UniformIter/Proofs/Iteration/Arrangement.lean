import UniformIter.Proofs.Iteration.Dispatch
import UniformIter.Settings.Validation

/-!
# Dispatch in another order

Neither the order of a registry nor that of the bindings counts for what a dispatcher answers. What
counts is which names are supported and which kind comes first under each of them
(`Dispatcher.OfferSame`): every value has at most one case, and it has the same one in every order
(`Dispatcher.serves_congr`). The order only shows in the containers, which follow the registry
(`Dispatcher.same_of_offerSame`).
-/

namespace UniformIter

variable {κ : Type} {kinds : κ → PropertyKind}

namespace Registry

theorem isSupported_iff_mem {r : Registry} {name : String} :
    r.isSupported name = true ↔ name ∈ r.supported.map (·.iterator.text) := by
  rw [isSupported_iff, List.mem_map]

/-- Registries that support the same names have the same entries with an adapter. -/
theorem mem_supported_congr {q r : Registry}
    (h : ∀ name, q.isSupported name = true ↔ r.isSupported name = true) (e : Entry) :
    e ∈ q.supported ↔ e ∈ r.supported := by
  have hleft : ∀ {q r : Registry}, (∀ name, q.isSupported name = true → r.isSupported name = true) →
      e ∈ q.supported → e ∈ r.supported := by
    intro q r h he
    obtain ⟨d, hd, hname⟩ := isSupported_iff.mp (h _ (isSupported_iff.mpr ⟨e, he, rfl⟩))
    -- Both have an adapter, so the name is all that could tell them apart.
    have hiterator := IteratorName.text_injective hname
    have hsupported : d.supported = e.supported :=
      (mem_supported.mp hd).2.trans (mem_supported.mp he).2.symm
    obtain ⟨_, _⟩ := d
    obtain ⟨_, _⟩ := e
    subst hiterator hsupported
    exact hd
  exact ⟨hleft fun name => (h name).mp, hleft fun name => (h name).mpr⟩

theorem nodup_entries_supported (r : Registry) : r.supported.Nodup :=
  List.Nodup.of_map _ r.nodup_supported

end Registry

namespace Dispatcher

/-- The kind that comes first under a name. -/
def firstBound? (kinds : κ → PropertyKind) (bindings : List κ) (name : String) : Option κ :=
  bindings.find? fun k => (kinds k).iteratorType == name

/-- Two registries support the same names, and under each of these two sequences of bindings have
the same kind first, or none. -/
structure OfferSame (kinds : κ → PropertyKind) (s t : Settings) (bs cs : List κ) : Prop where
  supported : ∀ name, s.registry.isSupported name = true ↔ t.registry.isSupported name = true
  first : ∀ name, s.registry.isSupported name = true →
    firstBound? kinds bs name = firstBound? kinds cs name

variable {s t : Settings} {bs cs : List κ}

/-- A kind's values are taken exactly if it comes first under its name, which is supported. -/
theorem serves_iff {k : κ} : Serves kinds s bs k ↔
    s.registry.isSupported (kinds k).iteratorType = true ∧
      firstBound? kinds bs (kinds k).iteratorType = some k := by
  unfold Serves
  rw [Registry.isSupported_iff]
  constructor
  · rintro ⟨⟨e, he, hname⟩, hfirst⟩
    refine ⟨⟨e, he, hname⟩, ?_⟩
    rw [← hname]
    exact binding?_eq_some_iff.mpr ⟨hname.symm, hfirst⟩
  · rintro ⟨⟨e, he, hname⟩, hfirst⟩
    rw [← hname] at hfirst
    exact ⟨⟨e, he, hname⟩, (binding?_eq_some_iff.mp hfirst).2⟩

theorem serves_congr (h : OfferSame kinds s t bs cs) (k : κ) :
    Serves kinds s bs k ↔ Serves kinds t cs k := by
  rw [serves_iff, serves_iff, ← h.supported]
  constructor
  · rintro ⟨hsupported, hfirst⟩
    exact ⟨hsupported, (h.first _ hsupported).symm.trans hfirst⟩
  · rintro ⟨hsupported, hfirst⟩
    exact ⟨hsupported, (h.first _ hsupported).trans hfirst⟩

/-- Dispatchers with cases for the same kinds give every value the same answer. -/
theorem begin_some_congr [DecidableEq κ] {d e : Dispatcher kinds}
    (h : ∀ k, (∃ c ∈ d.cases, c.kind = k) ↔ ∃ c ∈ e.cases, c.kind = k) (v : Dynamic kinds) :
    d.begin (some v) = e.begin (some v) := by
  have hok : ∀ a, d.begin (some v) = .ok a ↔ e.begin (some v) = .ok a := by
    intro a
    rw [begin_some_eq_ok_iff, begin_some_eq_ok_iff]
    simp only [h]
  cases hd : d.begin (some v) with
  | ok a => rw [(hok a).mp hd]
  | error f =>
    cases he : e.begin (some v) with
    | ok a =>
      rw [(hok a).mpr he] at hd
      cases hd
    | error g => rw [begin_some_eq_error hd, begin_some_eq_error he]

theorem isBound_eq (bs : List κ) (e : Entry) :
    isBound kinds bs e = (firstBound? kinds bs e.iterator.text).isSome :=
  List.isSome_find?.symm

/-- The entries with a case are the same, in the order of either registry. -/
theorem entries_perm (h : OfferSame kinds s t bs cs) :
    (s.registry.supported.filter (isBound kinds bs)).Perm
      (t.registry.supported.filter (isBound kinds cs)) := by
  rw [List.perm_ext_iff_of_nodup (s.registry.nodup_entries_supported.filter _)
    (t.registry.nodup_entries_supported.filter _)]
  intro e
  rw [List.mem_filter, List.mem_filter, ← Registry.mem_supported_congr h.supported, isBound_eq,
    isBound_eq]
  constructor
  · rintro ⟨he, hbound⟩
    rw [h.first _ (Registry.isSupported_iff.mpr ⟨e, he, rfl⟩)] at hbound
    exact ⟨he, hbound⟩
  · rintro ⟨he, hbound⟩
    rw [← h.first _ (Registry.isSupported_iff.mpr ⟨e, he, rfl⟩)] at hbound
    exact ⟨he, hbound⟩

/-- Dispatchers that offer the same give every value the same answer, and a missing value too if
they check for it alike. They have the same containers, each in the order of the supported and
bound entries of its own registry. -/
theorem same_of_offerSame [DecidableEq κ] (h : OfferSame kinds s t bs cs) :
    (∀ v : Dynamic kinds,
      (ofBindings kinds s bs).begin (some v) = (ofBindings kinds t cs).begin (some v)) ∧
    (s.dispatch.checkNil = t.dispatch.checkNil → ∀ v : Option (Dynamic kinds),
      (ofBindings kinds s bs).begin v = (ofBindings kinds t cs).begin v) ∧
    (ofBindings kinds s bs).containers.Perm (ofBindings kinds t cs).containers ∧
    (ofBindings kinds s bs).containers =
      (s.registry.supported.filter (isBound kinds bs)).map (·.container) ∧
    (ofBindings kinds t cs).containers =
      (t.registry.supported.filter (isBound kinds cs)).map (·.container) := by
  have hpresent : ∀ v : Dynamic kinds,
      (ofBindings kinds s bs).begin (some v) = (ofBindings kinds t cs).begin (some v) := by
    intro v
    apply begin_some_congr
    intro k
    rw [exists_case_iff, exists_case_iff, serves_congr h]
  have hcontainers : ∀ (u : Settings) (bindings : List κ),
      (ofBindings kinds u bindings).containers =
        (u.registry.supported.filter (isBound kinds bindings)).map (·.container) := by
    intro u bindings
    rw [containers_eq, entries_ofBindings]
  refine ⟨hpresent, ?_, ?_, hcontainers s bs, hcontainers t cs⟩
  · intro hcheck v
    cases v with
    | none =>
      show Except.error (if s.dispatch.checkNil then _ else _) = _
      rw [hcheck]
      rfl
    | some v => exact hpresent v
  · rw [hcontainers, hcontainers]
    exact (entries_perm h).map _

/-- Three kinds, two of which go by one name. -/
def sharedNames : Fin 3 → PropertyKind
  | 0 => listProperty "FooIterator" "Foo"
  | 1 => listProperty "BarIterator" "Bar"
  | 2 => listProperty "FooIterator" "Foo2"

/-- A settings file with two names. -/
def fooBar : SettingsFile where
  registry := ⟨["FooIterator", "BarIterator"], []⟩

/-- A settings file with the two names the other way round, and a third that is not supported. -/
def barFoo : SettingsFile where
  registry := ⟨["BarIterator", "FooIterator"], ["BazIterator"]⟩

/-- The kind that comes second under its name is left out in both orders, and the containers are
turned round. -/
theorem same_of_barFoo : ∃ s t, fooBar.toSettings = .ok s ∧ barFoo.toSettings = .ok t ∧
    OfferSame sharedNames s t [0, 1, 2] [1, 0, 2, 0] ∧
    s.dispatch.checkNil = t.dispatch.checkNil ∧
    (∀ v : Option (Dynamic sharedNames), (ofBindings sharedNames s [0, 1, 2]).begin v =
      (ofBindings sharedNames t [1, 0, 2, 0]).begin v) ∧
    (ofBindings sharedNames s [0, 1, 2]).containers = [⟨"Foo"⟩, ⟨"Bar"⟩] ∧
    (ofBindings sharedNames t [1, 0, 2, 0]).containers = [⟨"Bar"⟩, ⟨"Foo"⟩] := by
  have hfiles : ∃ s t, fooBar.toSettings = .ok s ∧ barFoo.toSettings = .ok t ∧
      s.dispatch.checkNil = t.dispatch.checkNil ∧
      s.registry.supported.map (·.iterator.text) = ["FooIterator", "BarIterator"] ∧
      t.registry.supported.map (·.iterator.text) = ["BarIterator", "FooIterator"] ∧
      (ofBindings sharedNames s [0, 1, 2]).containers = [⟨"Foo"⟩, ⟨"Bar"⟩] ∧
      (ofBindings sharedNames t [1, 0, 2, 0]).containers = [⟨"Bar"⟩, ⟨"Foo"⟩] :=
    ⟨_, _, rfl, rfl, rfl, rfl, rfl, rfl, rfl⟩
  obtain ⟨s, t, hs, ht, hcheck, hnames, hnames', hcontainers, hcontainers'⟩ := hfiles
  have hoffer : OfferSame sharedNames s t [0, 1, 2] [1, 0, 2, 0] := by
    constructor
    · intro name
      rw [Registry.isSupported_iff_mem, Registry.isSupported_iff_mem, hnames, hnames']
      simp only [List.mem_cons, List.not_mem_nil, or_false]
      exact or_comm
    · intro name hname
      rw [Registry.isSupported_iff_mem, hnames] at hname
      simp only [List.mem_cons, List.not_mem_nil, or_false] at hname
      rcases hname with rfl | rfl
      · rfl
      · rfl
  obtain ⟨-, hbegin, -⟩ := same_of_offerSame hoffer
  exact ⟨s, t, hs, ht, hoffer, hcheck, hbegin hcheck, hcontainers, hcontainers'⟩

end Dispatcher

end UniformIter
