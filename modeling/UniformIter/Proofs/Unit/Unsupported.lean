import UniformIter.Iteration.Dispatcher
import UniformIter.Proofs.Registry.Entries
import UniformIter.Proofs.Unit.Outcome

/-!
# What unsupported names leave behind

A name that gets no adapter is registered, and that is all that ever becomes of it: settings
without such names (`Settings.bare`) give the same unit, part by part. In Rust the declared type
of the argument leaves nothing behind either. So two settings that list the same supported names,
and are alike in the rest, give the same unit or fail in the same way, and dispatchers for them
tell all values alike (`Settings.same_of_supported`).
-/

namespace UniformIter

/-! ## Without unsupported names -/

/-- A registry without its unsupported entries. -/
def Registry.bare (r : Registry) : Registry := ⟨r.supported, r.nodup_supported⟩

theorem Registry.supported_bare (r : Registry) : r.bare.supported = r.supported :=
  List.filter_eq_self.2 fun _ he => (mem_supported.1 he).2

/-- Settings without their unsupported names, with this type of argument. -/
def Settings.bare (s : Settings) (argumentType : String) : Settings :=
  { s with
    dispatch := ⟨s.dispatch.function, argumentType, s.dispatch.checkNil⟩
    registry := s.registry.bare }

@[simp] theorem Settings.supported_bare (s : Settings) (argumentType : String) :
    (s.bare argumentType).registry.supported = s.registry.supported :=
  s.registry.supported_bare

namespace Go

variable (s : Settings)

theorem hasAdapters_bare (a : String) : hasAdapters (s.bare a) = hasAdapters s := by
  rw [hasAdapters, Settings.supported_bare, hasAdapters]

theorem preamble_bare : preamble (s.bare s.dispatch.argumentType) = preamble s := by
  have himports : standardImports (s.bare s.dispatch.argumentType) = standardImports s := by
    rw [standardImports, hasAdapters_bare]
    rfl
  have huses : usesVocabulary (s.bare s.dispatch.argumentType) = usesVocabulary s := by
    rw [usesVocabulary, hasAdapters_bare]
    rfl
  rw [preamble, himports, huses]
  rfl

theorem dispatch_bare : dispatch (s.bare s.dispatch.argumentType) = dispatch s := by
  have hswitch : switchLine (s.bare s.dispatch.argumentType) = switchLine s := by
    rw [switchLine, hasAdapters_bare, switchLine]
  rw [dispatch, hswitch, Settings.supported_bare]
  rfl

theorem adapter_bare (a : String) (e : Entry) : adapter (s.bare a) e = adapter s e := rfl

end Go

namespace Rust

variable (s : Settings) (a : String)

theorem preamble_bare (useLine : String) : preamble (s.bare a) useLine = preamble s useLine := by
  have hadapters : hasAdapters (s.bare a) = hasAdapters s := by
    rw [hasAdapters, Settings.supported_bare, hasAdapters]
  rw [preamble, hadapters]
  rfl

theorem dispatch_bare : dispatch (s.bare a) = dispatch s := by
  have henum : iterableEnum (s.bare a) = iterableEnum s := by
    rw [iterableEnum, Settings.supported_bare]
    rfl
  rw [dispatch, henum, Settings.supported_bare]
  rfl

theorem adapter_bare (e : Entry) : adapter (s.bare a) e = adapter s e := rfl

end Rust

/-! ## Whole units -/

variable {s t : Settings}

/-- A renderer that writes no part differently without unsupported names gives the same unit
without them. -/
theorem Renderer.unit_bare {r : Renderer} {a : String}
    (hpreamble : r.preamble (s.bare a) = r.preamble s)
    (hdispatch : r.dispatch (s.bare a) = r.dispatch s)
    (hadapter : ∀ e, r.adapter (s.bare a) e = r.adapter s e) :
    r.unit (s.bare a) = r.unit s := by
  have hparts : unitParts (s.bare a).registry = unitParts s.registry := by
    rw [unitParts, Settings.supported_bare, unitParts]
  have hpart : r.part (s.bare a) = r.part s := by
    funext p
    cases p with
    | preamble => exact hpreamble
    | dispatch => exact hdispatch
    | adapter e => exact hadapter e
  rw [Renderer.unit_eq, hparts, hpart, ← Renderer.unit_eq]

theorem Go.unit_bare (s : Settings) :
    Go.renderer.unit (s.bare s.dispatch.argumentType) = Go.renderer.unit s :=
  Renderer.unit_bare (congrArg (fun ls => Except.ok (unlines ls)) (Go.preamble_bare s))
    (congrArg (fun ls => Except.ok (unlines ls)) (Go.dispatch_bare s))
    fun e => congrArg (fun ls => Except.ok (unlines ls)) (Go.adapter_bare s _ e)

theorem Rust.unit_bare (s : Settings) (a : String) :
    Rust.renderer.unit (s.bare a) = Rust.renderer.unit s := by
  refine Renderer.unit_bare ?_
    (congrArg (fun ls => Except.ok (unlines ls)) (Rust.dispatch_bare s a))
    fun e => congrArg (fun ls => Except.ok (unlines ls)) (Rust.adapter_bare s a e)
  show (Rust.useVocabulary s.vocabulary).map _ = (Rust.useVocabulary s.vocabulary).map _
  simp only [Rust.preamble_bare]

/-- Settings give the same unit without their unsupported names, and for Rust with any type of
argument. -/
theorem Settings.unit_bare {a : String} (h : s.target ≠ "rust" → a = s.dispatch.argumentType) :
    (s.bare a).unit = s.unit := by
  by_cases hrust : s.target = "rust"
  · have hbare : (s.bare a).target = "rust" := hrust
    rw [Settings.unit, renderer_rust hbare, Settings.unit, renderer_rust hrust]
    exact Rust.unit_bare s a
  obtain rfl := h hrust
  by_cases hgo : s.target = "go"
  · have hbare : (s.bare s.dispatch.argumentType).target = "go" := hgo
    rw [Settings.unit, renderer_go hbare, Settings.unit, renderer_go hgo]
    exact Go.unit_bare s
  · have hunknown : s.target ∉ knownTargets := by simp [knownTargets, hgo, hrust]
    rw [s.outcome.unknown hunknown]
    exact (s.bare s.dispatch.argumentType).outcome.unknown hunknown

/-! ## Settings with the same supported names -/

/-- Two settings are alike apart from their registries, and for Rust apart from the declared type
of the argument. -/
structure Settings.Alike (s t : Settings) : Prop where
  target : s.target = t.target
  package : s.package = t.package
  function : s.dispatch.function = t.dispatch.function
  argumentType : s.target ≠ "rust" → s.dispatch.argumentType = t.dispatch.argumentType
  checkNil : s.dispatch.checkNil = t.dispatch.checkNil
  interface : s.interface = t.interface
  vocabulary : s.vocabulary = t.vocabulary

/-- Supported entries are known by their names. -/
theorem Registry.supported_eq_of_names {q r : Registry}
    (h : q.supported.map (·.iterator.text) = r.supported.map (·.iterator.text)) :
    q.supported = r.supported := by
  -- An entry is its name and its mark, and on this list all marks are the same.
  have hinjective : Function.Injective fun e : Entry => (e.iterator.text, e.supported) := by
    rintro ⟨m, b⟩ ⟨n, c⟩ heq
    obtain ⟨htext, hsame⟩ := Prod.mk.inj heq
    exact congrArg₂ Entry.mk (IteratorName.text_injective htext) hsame
  have hmarked : ∀ p : Registry, p.supported.map (fun e => (e.iterator.text, e.supported)) =
      (p.supported.map (·.iterator.text)).map (·, true) := by
    intro p
    rw [List.map_map]
    refine List.map_congr_left fun e he => ?_
    rw [(mem_supported.1 he).2]
    rfl
  apply List.map_injective_iff.2 hinjective
  rw [hmarked, h, ← hmarked]

theorem Settings.Alike.bare_eq (h : s.Alike t)
    (hsupported : s.registry.supported = t.registry.supported) (a : String) :
    s.bare a = t.bare a := by
  have hregistry : s.registry.bare = t.registry.bare := by
    unfold Registry.bare
    congr 1
  unfold Settings.bare
  rw [h.target, h.package, h.function, h.checkNil, h.interface, h.vocabulary, hregistry]

/-- The dispatcher is made from the supported entries and the check for a missing argument. -/
theorem Dispatcher.ofBindings_congr {κ : Type} {kinds : κ → PropertyKind} {bindings : List κ}
    (hsupported : s.registry.supported = t.registry.supported)
    (hcheck : s.dispatch.checkNil = t.dispatch.checkNil) :
    ofBindings kinds s bindings = ofBindings kinds t bindings := by
  unfold ofBindings
  rw [hsupported, hcheck]

/-- Two settings with the same supported names, and else alike, give the same unit or fail in the
same way, whatever names they register besides. Dispatchers for settings with the same supported
names have the same containers, and if both check for a missing argument or none does, they give
the same answers. -/
theorem Settings.same_of_supported {s t : Settings}
    (h : s.registry.supported.map (·.iterator.text) =
      t.registry.supported.map (·.iterator.text)) :
    (s.Alike t → s.unit = t.unit) ∧
    ∀ {κ : Type} [DecidableEq κ] (kinds : κ → PropertyKind) (bindings : List κ),
      (Dispatcher.ofBindings kinds s bindings).containers =
        (Dispatcher.ofBindings kinds t bindings).containers ∧
      (s.dispatch.checkNil = t.dispatch.checkNil → ∀ v : Option (Dynamic kinds),
        (Dispatcher.ofBindings kinds s bindings).begin v =
          (Dispatcher.ofBindings kinds t bindings).begin v) := by
  have hsupported := Registry.supported_eq_of_names h
  refine ⟨fun halike => ?_, fun kinds bindings => ⟨?_, fun hcheck v => ?_⟩⟩
  · have hargument : t.target ≠ "rust" → s.dispatch.argumentType = t.dispatch.argumentType := by
      rw [← halike.target]
      exact halike.argumentType
    calc s.unit
      _ = (s.bare s.dispatch.argumentType).unit := (s.unit_bare fun _ => rfl).symm
      _ = (t.bare s.dispatch.argumentType).unit := by rw [halike.bare_eq hsupported]
      _ = t.unit := t.unit_bare hargument
  · unfold Dispatcher.containers Dispatcher.ofBindings
    rw [hsupported]
  · rw [Dispatcher.ofBindings_congr hsupported hcheck]

/-- A settings file with one name. -/
def loneName : SettingsFile where
  target := "rust"
  registry := ⟨["FooIterator"], []⟩

/-- A settings file that keeps two more names from getting an adapter, with another type of
argument. -/
def crowdedName : SettingsFile where
  target := "rust"
  dispatch := { argumentType := "vocab.Type" }
  registry := ⟨["FooIterator"], ["BarIterator", "FooIteratorIterator"]⟩

/-- Kinds for the name that both support and for one that only the second one registers. -/
def loneAndCrowdedKinds : Bool → PropertyKind
  | false => listProperty "FooIterator" "Foo"
  | true => listProperty "BarIterator" "Bar"

theorem same_of_crowdedName : ∃ s t, loneName.toSettings = .ok s ∧ crowdedName.toSettings = .ok t ∧
    s.registry.entries.length = 1 ∧ t.registry.entries.length = 3 ∧
    s.registry.supported.map (·.iterator.text) = t.registry.supported.map (·.iterator.text) ∧
    s.Alike t ∧ s.unit = t.unit ∧ s.dispatch.checkNil = t.dispatch.checkNil ∧
    (Dispatcher.ofBindings loneAndCrowdedKinds s [true, false]).containers =
      (Dispatcher.ofBindings loneAndCrowdedKinds t [true, false]).containers ∧
    ∀ v : Option (Dynamic loneAndCrowdedKinds),
      (Dispatcher.ofBindings loneAndCrowdedKinds s [true, false]).begin v =
        (Dispatcher.ofBindings loneAndCrowdedKinds t [true, false]).begin v := by
  have hfiles : ∃ s t, loneName.toSettings = .ok s ∧ crowdedName.toSettings = .ok t ∧
      s.registry.entries.length = 1 ∧ t.registry.entries.length = 3 ∧
      s.registry.supported.map (·.iterator.text) = t.registry.supported.map (·.iterator.text) ∧
      s.Alike t :=
    ⟨_, _, rfl, rfl, rfl, rfl, rfl, rfl, rfl, rfl, fun hno => absurd rfl hno, rfl, rfl, rfl⟩
  obtain ⟨s, t, hs, ht, hone, hthree, hnames, halike⟩ := hfiles
  obtain ⟨hunit, hdispatchers⟩ := Settings.same_of_supported hnames
  obtain ⟨hcontainers, hbegin⟩ := hdispatchers loneAndCrowdedKinds [true, false]
  exact ⟨s, t, hs, ht, hone, hthree, hnames, halike, hunit halike, halike.checkNil, hcontainers,
    hbegin halike.checkNil⟩

end UniformIter
