import UniformIter.Proofs.Iteration.Dispatch
import UniformIter.Proofs.Unit.Findings

/-!
# Units and dispatchers side by side

A registry is gone through for the cases of a unit, once more for its adapters, and again for the
cases of a dispatcher. `Aligned` says that what was found in a unit is one case and one adapter
for each supported entry, all in the order of the registry, with the fallback behind the last
case, and nothing for any other entry. Both languages' units are aligned (`aligned_findings`),
and a dispatcher in which every supported name is bound has the same containers
(`aligned_of_toSettings`).

That an adapter is defined once, and that no unsupported entry has one, is a fact about names:
an adapter's name is a constant one followed by the iterator type, so two entries never share it.
-/

namespace UniformIter

open Scan

/-! ## Names in what was found -/

@[simp] theorem Scan.namesOf_nil (t : Topic) : namesOf t [] = [] := rfl

@[simp] theorem Scan.namesOf_append (t : Topic) (f g : List Finding) :
    namesOf t (f ++ g) = namesOf t f ++ namesOf t g := by
  simp only [namesOf, List.filter_append, List.map_append]

theorem Scan.namesOf_cons (t : Topic) (a : Finding) (f : List Finding) :
    namesOf t (a :: f) = if a.topic = t then a.names :: namesOf t f else namesOf t f := by
  unfold namesOf
  by_cases h : a.topic = t
  · rw [List.filter_cons_of_pos (by simpa using h), List.map_cons, if_pos h]
  · rw [List.filter_cons_of_neg (by simpa using h), if_neg h]

/-- The names about a topic in what is told for every entry, where each entry tells one of it. -/
theorem Scan.namesOf_flatMap {t : Topic} {found : Entry → List Finding}
    {names : Entry → List String} (h : ∀ e, namesOf t (found e) = [names e]) (es : List Entry) :
    namesOf t (es.flatMap found) = es.map names := by
  induction es with
  | nil => rfl
  | cons e es ih =>
    rw [List.flatMap_cons, namesOf_append, h, ih, List.map_cons, List.singleton_append]

theorem Scan.namesOf_map_self (t : Topic) (names : Entry → List String) (es : List Entry) :
    namesOf t (es.map fun e => ⟨t, names e⟩) = es.map names := by
  induction es with
  | nil => rfl
  | cons e es ih => rw [List.map_cons, namesOf_cons, if_pos rfl, ih, List.map_cons]

theorem Scan.namesOf_eq_nil {t : Topic} {f : List Finding} (h : ∀ a ∈ f, a.topic ≠ t) :
    namesOf t f = [] := by
  rw [namesOf, List.filter_eq_nil_iff.2 fun a ha => by simpa using h a ha, List.map_nil]

/-- The same, where no entry tells anything of it. -/
theorem Scan.namesOf_flatMap_eq_nil {t : Topic} {found : Entry → List Finding}
    (h : ∀ e, namesOf t (found e) = []) (es : List Entry) :
    namesOf t (es.flatMap found) = [] := by
  induction es with
  | nil => rfl
  | cons e es ih => rw [List.flatMap_cons, namesOf_append, h, ih, List.append_nil]

/-! ## The two languages as one -/

namespace Settings

variable (s : Settings)

/-- The scanner for the units of the target language. -/
def scanner : Scanner := if s.target = "rust" then Rust.scanner else Go.scanner

/-- What an entry's adapter is called in the target language. -/
def adapterName (e : Entry) : String :=
  if s.target = "rust" then Rust.adapterName s e else Go.adapterName e

/-- The names that a container stands behind where a case tests it: in Go the vocabulary, in Rust
none, because the closed type has a variant of the container's own name. -/
def caseScope : List String := if s.target = "rust" then [] else [s.vocabulary.qualifier]

/-- The variants of the closed type that only Rust has: a name for each container, and the type
of the vocabulary that it holds. -/
def variantNames (e : Entry) : List String :=
  [e.container.text, s.vocabulary.qualifier, e.container.text]

/-- Adapters of two iterator types have two names. -/
theorem adapterName_injective {d e : Entry} (h : s.adapterName d = s.adapterName e) :
    d.iterator = e.iterator := by
  unfold adapterName at h
  apply IteratorName.text_injective
  split at h
  · have h : "" ++ s.interface ++ d.iterator.text = "" ++ s.interface ++ e.iterator.text := h
    exact (String.append_right_inj _).1 h
  · have h : "iter_" ++ d.iterator.text = "iter_" ++ e.iterator.text := h
    exact (String.append_right_inj _).1 h

end Settings

/-! ## Alignment -/

/-- Nothing was found about an entry. -/
structure LeavesOut (s : Settings) (found : List Finding) (e : Entry) : Prop where
  case : s.caseScope ++ [e.container.text] ∉ namesOf .case found
  construction : [s.adapterName e] ∉ namesOf .construction found
  definition : [s.adapterName e] ∉ namesOf .definition found
  owner : [s.vocabulary.qualifier, e.container.text] ∉ namesOf .owner found
  cursor : [s.vocabulary.qualifier, e.iterator.text] ∉ namesOf .cursor found
  variant : s.variantNames e ∉ namesOf .variant found

/-- What was found in a unit, in the order of its lines, is what the registry has. -/
structure Aligned (s : Settings) (found : List Finding) : Prop where
  /-- The cases test the containers of the supported entries. -/
  cases : namesOf .case found =
    s.registry.supported.map fun e => s.caseScope ++ [e.container.text]
  /-- Each of them makes the adapter of its own entry. -/
  constructions : namesOf .construction found =
    s.registry.supported.map fun e => [s.adapterName e]
  definitions : namesOf .definition found =
    s.registry.supported.map fun e => [s.adapterName e]
  owners : namesOf .owner found =
    s.registry.supported.map fun e => [s.vocabulary.qualifier, e.container.text]
  cursors : namesOf .cursor found =
    s.registry.supported.map fun e => [s.vocabulary.qualifier, e.iterator.text]
  variants : namesOf .variant found =
    if s.target = "rust" then s.registry.supported.map s.variantNames else []
  /-- There is one fallback. Every case stands before it, and every adapter behind it. -/
  fallback : ∃ before names after, found = before ++ ⟨.fallback, names⟩ :: after ∧
    (∀ a ∈ before, a.topic ∈ [Topic.variant, .case, .construction]) ∧
    ∀ a ∈ after, a.topic ∈ [Topic.definition, .owner, .cursor]
  /-- An adapter that a case makes is defined once. -/
  definedOnce : ∀ names ∈ namesOf .construction found, (namesOf .definition found).count names = 1
  /-- Entries that get no adapter are left out. -/
  unsupported : ∀ e ∈ s.registry.unsupported, LeavesOut s found e

/-- A name of an entry that is left out is not among the same names of the supported ones. -/
theorem Registry.not_mem_map_supported {α : Type} {r : Registry} {names : Entry → α}
    (hinj : ∀ d e, names d = names e → d.iterator = e.iterator) {d : Entry}
    (hd : d ∈ r.unsupported) : names d ∉ r.supported.map names := by
  intro hmem
  obtain ⟨e, he, heq⟩ := List.mem_map.1 hmem
  exact Registry.iterator_ne_of_unsupported hd he (hinj e d heq)

/-- The supported entries differ in everything that tells iterator types apart. -/
theorem Registry.nodup_map_supported {α : Type} (r : Registry) {names : Entry → α}
    (hinj : ∀ d e, names d = names e → d.iterator = e.iterator) :
    (r.supported.map names).Nodup := by
  have h : (r.supported.map (·.iterator)).Pairwise (· ≠ ·) := r.nodup_supported
  rw [List.pairwise_map] at h
  refine List.pairwise_map.2 (h.imp fun hne heq => hne (hinj _ _ heq))

/-- What the units of either language tell: the variants of Rust, and then the cases, the
fallback and the adapters. -/
def Settings.findings (s : Settings) (fallback : List String) : List Finding :=
  (if s.target = "rust"
    then s.registry.supported.map (Rust.variantFinding s.vocabulary.qualifier) else []) ++
  unitFindings s.caseScope s.vocabulary.qualifier fallback s.adapterName s.registry.supported

/-- The names that they tell about each topic. -/
theorem namesOf_findings (t : Topic) (s : Settings) (fallback : List String) :
    namesOf t (s.findings fallback) =
      match t with
      | .variant => if s.target = "rust" then s.registry.supported.map s.variantNames else []
      | .case => s.registry.supported.map fun e => s.caseScope ++ [e.container.text]
      | .construction | .definition => s.registry.supported.map fun e => [s.adapterName e]
      | .fallback => [fallback]
      | .owner => s.registry.supported.map fun e => [s.vocabulary.qualifier, e.container.text]
      | .cursor => s.registry.supported.map fun e => [s.vocabulary.qualifier, e.iterator.text] := by
  have hvariants : namesOf t (if s.target = "rust"
      then s.registry.supported.map (Rust.variantFinding s.vocabulary.qualifier) else []) =
      if t = .variant ∧ s.target = "rust" then s.registry.supported.map s.variantNames else [] := by
    by_cases hr : s.target = "rust"
    · rw [if_pos hr]
      by_cases ht : t = .variant
      · rw [if_pos ⟨ht, hr⟩, ht]
        exact namesOf_map_self _ _ _
      · rw [if_neg fun h => ht h.1, namesOf_eq_nil]
        simpa [Rust.variantFinding] using fun _ _ h => ht h.symm
    · rw [if_neg hr, if_neg fun h => hr h.2, namesOf_nil]
  rw [Settings.findings, unitFindings, namesOf_append, hvariants, namesOf_append, namesOf_cons]
  cases t with
  | variant | fallback =>
    rw [namesOf_flatMap_eq_nil fun _ => rfl, namesOf_flatMap_eq_nil fun _ => rfl]
    simp
  | case | construction =>
    rw [namesOf_flatMap fun _ => rfl, namesOf_flatMap_eq_nil fun _ => rfl]
    simp
  | definition | owner | cursor =>
    rw [namesOf_flatMap_eq_nil fun _ => rfl, namesOf_flatMap fun _ => rfl]
    simp

/-- Whatever the language, what a unit tells is aligned. -/
theorem aligned_findings (s : Settings) (fallback : List String) :
    Aligned s (s.findings fallback) := by
  have hcontainer : ∀ d e : Entry, d.container.text = e.container.text →
      d.iterator = e.iterator := fun d e h =>
    IteratorName.container_injective (congrArg ContainerName.mk h)
  have hadapter : ∀ d e : Entry, [s.adapterName d] = [s.adapterName e] →
      d.iterator = e.iterator := fun d e h =>
    s.adapterName_injective (List.singleton_inj.1 h)
  constructor
  case cases | constructions | definitions | owners | cursors | variants =>
    exact namesOf_findings _ s fallback
  case fallback =>
    refine ⟨_, fallback, _, (List.append_assoc ..).symm, ?_, ?_⟩
    · intro a ha
      rcases List.mem_append.1 ha with h | h
      · split at h
        · obtain ⟨e, -, rfl⟩ := List.mem_map.1 h
          exact List.mem_cons_self
        · cases h
      · obtain ⟨e, -, he⟩ := List.mem_flatMap.1 h
        simp only [caseFindings, List.mem_cons, List.not_mem_nil, or_false] at he
        rcases he with rfl | rfl <;> simp
    · intro a ha
      obtain ⟨e, -, he⟩ := List.mem_flatMap.1 ha
      simp only [adapterFindings, List.mem_cons, List.not_mem_nil, or_false] at he
      rcases he with rfl | rfl | rfl <;> simp
  case definedOnce =>
    rw [namesOf_findings, namesOf_findings]
    intro names hmem
    exact List.count_eq_one_of_mem (s.registry.nodup_map_supported hadapter) hmem
  case unsupported =>
    intro d hd
    constructor
    case construction | definition =>
      rw [namesOf_findings]
      exact Registry.not_mem_map_supported hadapter hd
    case case =>
      rw [namesOf_findings]
      exact Registry.not_mem_map_supported
        (fun d e h => hcontainer d e (List.singleton_inj.1 (List.append_cancel_left h))) hd
    case owner =>
      rw [namesOf_findings]
      exact Registry.not_mem_map_supported
        (fun d e h => hcontainer d e (by simpa using h)) hd
    case cursor =>
      rw [namesOf_findings]
      exact Registry.not_mem_map_supported
        (fun d e h => IteratorName.text_injective (by simpa using h)) hd
    case variant =>
      rw [namesOf_findings]
      dsimp only
      split
      · exact Registry.not_mem_map_supported
          (fun d e h => hcontainer d e (List.cons.inj h).1) hd
      · exact List.not_mem_nil

/-- What a unit of sound settings tells. -/
theorem Settings.scan_unit {s : Settings} {text : String} (hs : s.Sound)
    (ht : s.unit = .ok text) : ∃ fallback, s.scanner.scan? text = some (s.findings fallback) := by
  unfold scanner findings caseScope
  rcases hs.target with hgo | hrust
  · have hno : s.target ≠ "rust" := by rw [hgo]; decide
    have hname : s.adapterName = Go.adapterName := funext fun e => if_neg hno
    rw [unit_of_go hgo] at ht
    rw [if_neg hno, if_neg hno, if_neg hno, hname, ← Except.ok.inj ht]
    exact ⟨[], Go.scan_unitLines hs⟩
  · have hname : s.adapterName = Rust.adapterName s := funext fun e => if_pos hrust
    obtain ⟨useLine, -, rfl⟩ := unit_of_rust hrust ht
    rw [if_pos hrust, if_pos hrust, if_pos hrust, hname]
    exact ⟨[Rust.errorName s], Rust.scan_unitLines hs useLine⟩

/-- A unit that is generated from a settings file, and a dispatcher for kinds that cover its
supported names, both follow the registry. -/
theorem aligned_of_toSettings {f : SettingsFile} {s : Settings} {text : String} {κ : Type}
    {kinds : κ → PropertyKind} {bindings : List κ} (hs : f.toSettings = .ok s)
    (ht : s.unit = .ok text)
    (hb : ∀ e ∈ s.registry.supported, ∃ k ∈ bindings,
      (kinds k).iteratorType = e.iterator.text) :
    ∃ found, s.scanner.scan? text = some found ∧ Aligned s found ∧
      (Dispatcher.ofBindings kinds s bindings).containers =
        s.registry.supported.map (·.container) := by
  obtain ⟨fallback, hscan⟩ := Settings.scan_unit (SettingsFile.sound_of_toSettings hs) ht
  exact ⟨_, hscan, aligned_findings s fallback, Dispatcher.containers_ofBindings hb⟩

/-- A settings file with two iterator types of which one stands within the other's name, and a
third one without an adapter. -/
def nestedNames : SettingsFile where
  target := "rust"
  registry := ⟨["FooIterator", "FooIteratorIterator"], ["BarIterator"]⟩

/-- Kinds for both of its supported names. -/
def nestedKinds : Bool → PropertyKind
  | false => listProperty "FooIterator" "Foo"
  | true => listProperty "FooIteratorIterator" "FooIterator"

theorem aligned_nestedNames : ∃ s text found, nestedNames.toSettings = .ok s ∧
    s.unit = .ok text ∧ s.scanner.scan? text = some found ∧ Aligned s found ∧
      (Dispatcher.ofBindings nestedKinds s [true, false]).containers =
        s.registry.supported.map (·.container) := by
  have hfile : ∃ s, nestedNames.toSettings = .ok s ∧ (∃ text, s.unit = .ok text) ∧
      ∀ e ∈ s.registry.supported, ∃ k ∈ [true, false],
        (nestedKinds k).iteratorType = e.iterator.text := by
    refine ⟨_, rfl, ⟨_, rfl⟩, ?_⟩
    decide
  obtain ⟨s, hs, ⟨text, ht⟩, hb⟩ := hfile
  obtain ⟨found, hfound⟩ := aligned_of_toSettings hs ht hb
  exact ⟨s, text, found, hs, ht, hfound⟩

end UniformIter
