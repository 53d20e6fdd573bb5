import UniformIter.Proofs.Registry.Building
import UniformIter.Proofs.Settings.Acceptance

/-!
# The checks of a settings file

A settings file goes through seven checks, and then its names are made into a registry. Each check
demands something of one field (`SettingsFile.checks`), and the first demand that is not met is
told (`SettingsFile.fault?_eq_some_iff`). So a fault of the names is told only of a file that
meets all demands, and a file that meets them and lists its names well stands for settings with
its own fields in them (`SettingsFile.toSettings_outcome`).
-/

namespace UniformIter

/-- What a settings file has to meet, and what is told of one that does not. -/
structure Check where
  demand : Prop
  fault : SettingsFault

namespace Check

/-- What is told is what belongs to the first demand that is not met. -/
inductive FirstUnmet : List Check → SettingsFault → Prop where
  | here {c : Check} {more : List Check} (h : ¬c.demand) : FirstUnmet (c :: more) c.fault
  | later {c : Check} {more : List Check} {fault : SettingsFault} (h : c.demand)
    (hmore : FirstUnmet more fault) : FirstUnmet (c :: more) fault

variable {c : Check} {more : List Check} {fault : SettingsFault}

theorem firstUnmet_cons_of_met (h : c.demand) :
    FirstUnmet (c :: more) fault ↔ FirstUnmet more fault := by
  constructor
  · intro hfirst
    cases hfirst with
    | here hno => exact absurd h hno
    | later _ hmore => exact hmore
  · intro hmore
    exact .later h hmore

theorem firstUnmet_cons_of_unmet (h : ¬c.demand) :
    FirstUnmet (c :: more) fault ↔ fault = c.fault := by
  constructor
  · intro hfirst
    cases hfirst with
    | here => rfl
    | later hmet => exact absurd hmet h
  · rintro rfl
    exact .here h

/-- A family of checks, one for each element of a list, tells of the first element that does not
meet its demand. -/
theorem firstUnmet_map_append {α : Type} (bad : α → Bool) {check : α → Check}
    (hcheck : ∀ a, (check a).demand ↔ bad a = false) (l : List α) :
    FirstUnmet (l.map check ++ more) fault ↔
      match l.find? bad with
      | some a => fault = (check a).fault
      | none => FirstUnmet more fault := by
  induction l with
  | nil => rfl
  | cons a l ih =>
    rw [List.map_cons, List.cons_append]
    cases ha : bad a with
    | true =>
      rw [List.find?_cons_of_pos ha]
      apply firstUnmet_cons_of_unmet
      rw [hcheck, ha]
      decide
    | false =>
      rw [List.find?_cons_of_neg (by rw [ha]; decide), firstUnmet_cons_of_met ((hcheck a).mpr ha),
        ih]

/-- Something is told exactly if a demand is not met. -/
theorem exists_firstUnmet_iff {checks : List Check} :
    (∃ fault, FirstUnmet checks fault) ↔ ∃ c ∈ checks, ¬c.demand := by
  induction checks with
  | nil =>
    constructor
    · rintro ⟨fault, h⟩
      cases h
    · rintro ⟨c, hc, -⟩
      exact absurd hc List.not_mem_nil
  | cons c checks ih =>
    simp only [List.mem_cons, exists_eq_or_imp]
    by_cases hc : c.demand
    · simp only [firstUnmet_cons_of_met hc, ih, hc, not_true_eq_false, false_or]
    · exact iff_of_true ⟨c.fault, .here hc⟩ (.inl hc)

end Check

/-- A text that holds more than white space. -/
def Text.ShowsSomething (s : String) : Prop := ∃ c ∈ s.toList, Text.isWhiteSpace c = false

theorem Text.showsSomething_iff {s : String} : ShowsSomething s ↔ isBlankText s = false := by
  unfold ShowsSomething isBlankText
  rw [List.all_eq_false]
  simp only [Bool.not_eq_true]

namespace SettingsFile

/-- The checks of a settings file, in order. -/
def checks (f : SettingsFile) : List Check :=
  [⟨f.target = "go" ∨ f.target = "rust", .invalidTarget f.target⟩,
    ⟨isIdentifier f.package = true, .notIdentifier "package" f.package⟩,
    ⟨isIdentifier f.dispatch.function = true,
      .notIdentifier "dispatch.function" f.dispatch.function⟩,
    ⟨isIdentifier f.interface = true, .notIdentifier "interface" f.interface⟩,
    ⟨isIdentifier f.vocabulary.qualifier = true,
      .notIdentifier "vocab.qualifier" f.vocabulary.qualifier⟩,
    ⟨Text.ShowsSomething f.dispatch.argumentType, .blank "dispatch.argument_type"⟩,
    ⟨Text.ShowsSomething f.vocabulary.importPath, .blank "vocab.import_path"⟩]

variable {f : SettingsFile} {fault : SettingsFault}

/-- What is wrong with a settings file, its names apart, is the first demand it does not meet. -/
theorem fault?_eq_some_iff : f.fault? = some fault ↔ Check.FirstUnmet f.checks fault := by
  -- The checks after the first one come in the two families that the file is checked by.
  have hchecks : f.checks =
      ⟨f.target = "go" ∨ f.target = "rust", .invalidTarget f.target⟩ ::
        (f.identifiers.map (fun p => ⟨isIdentifier p.2 = true, .notIdentifier p.1 p.2⟩) ++
          (f.obligatory.map (fun p => ⟨Text.ShowsSomething p.2, .blank p.1⟩) ++ [])) := rfl
  have hknown : f.target = "go" ∨ f.target = "rust" ↔ f.target ∈ knownTargets := by
    simp [knownTargets]
  rw [hchecks]
  unfold fault?
  by_cases ht : f.target ∈ knownTargets
  · rw [if_neg (by simpa using ht), Check.firstUnmet_cons_of_met (hknown.mpr ht),
      Check.firstUnmet_map_append (fun p => !isIdentifier p.2) (by simp)]
    cases f.identifiers.find? fun p => !isIdentifier p.2 with
    | some p => rw [Option.some.injEq, eq_comm]
    | none =>
      rw [Check.firstUnmet_map_append (fun p => Text.isBlankText p.2)
        fun p => Text.showsSomething_iff]
      cases f.obligatory.find? fun p => Text.isBlankText p.2 with
      | some p => rw [Option.map_some, Option.some.injEq, eq_comm]
      | none =>
        constructor
        · intro h
          cases h
        · intro h
          cases h
  · rw [if_pos (by simpa using ht), Check.firstUnmet_cons_of_unmet fun h => ht (hknown.mp h),
      Option.some.injEq, eq_comm]

/-- Nothing is wrong with a settings file, its names apart, that meets all demands. -/
theorem fault?_eq_none_iff_met : f.fault? = none ↔ ∀ c ∈ f.checks, c.demand := by
  constructor
  · intro h c hc
    by_contra hno
    obtain ⟨fault, hfault⟩ := Check.exists_firstUnmet_iff.mpr ⟨c, hc, hno⟩
    rw [← fault?_eq_some_iff, h] at hfault
    cases hfault
  · intro h
    cases hfault : f.fault? with
    | none => rfl
    | some fault =>
      obtain ⟨c, hc, hno⟩ := Check.exists_firstUnmet_iff.mp ⟨fault, fault?_eq_some_iff.mp hfault⟩
      exact absurd (h c hc) hno

theorem validate_eq_ok_iff : f.validate = .ok () ↔ ∀ c ∈ f.checks, c.demand := by
  rw [← fault?_eq_none_iff_met]
  unfold validate
  cases f.fault? <;> simp

/-- A settings file stands for no settings because of the first demand that it does not meet, or
because it meets all of them and its names make no registry. -/
theorem toSettings_eq_error_iff {failure : Failure} :
    f.toSettings = .error failure ↔
      (∃ fault, Check.FirstUnmet f.checks fault ∧ failure = .settings fault) ∨
      (∀ c ∈ f.checks, c.demand) ∧ ∃ fault,
        Registry.ofNames f.registry.supported f.registry.unsupported = .error fault ∧
          failure = .registry fault := by
  simp only [← fault?_eq_some_iff, ← fault?_eq_none_iff_met]
  unfold toSettings
  cases f.fault? with
  | some fault => simp [eq_comm]
  | none =>
    cases Registry.ofNames f.registry.supported f.registry.unsupported with
    | error fault => simp [eq_comm]
    | ok registry => simp

/-- What settings take over from the file that they come from. -/
structure TakenOver (f : SettingsFile) (s : Settings) : Prop where
  target : s.target = f.target
  package : s.package = f.package
  dispatch : s.dispatch = f.dispatch
  interface : s.interface = f.interface
  registry : s.registry.Lists f.registry.supported f.registry.unsupported
  /-- The place of Go stands for that of the target. -/
  vocabulary : f.vocabulary = Vocabulary.defaultFor "go" →
    s.vocabulary = Vocabulary.defaultFor f.target
  /-- Every other place is kept. -/
  ownVocabulary : f.vocabulary ≠ Vocabulary.defaultFor "go" → s.vocabulary = f.vocabulary

theorem takenOver_of_toSettings {s : Settings} (h : f.toSettings = .ok s) : f.TakenOver s := by
  obtain ⟨-, registry, hregistry, rfl⟩ := toSettings_eq_ok_iff.mp h
  constructor
  case target => rfl
  case package => rfl
  case dispatch => rfl
  case interface => rfl
  case registry => exact Registry.lists_of_ofNames hregistry
  case vocabulary => exact resolvedVocabulary_of_eq
  case ownVocabulary => exact resolvedVocabulary_of_ne

theorem exists_toSettings_iff : (∃ s, f.toSettings = .ok s) ↔
    (∀ c ∈ f.checks, c.demand) ∧
      ∃ r, Registry.ofNames f.registry.supported f.registry.unsupported = .ok r := by
  rw [← fault?_eq_none_iff_met]
  constructor
  · rintro ⟨s, hs⟩
    obtain ⟨hfault, r, hr, -⟩ := toSettings_eq_ok_iff.mp hs
    exact ⟨hfault, r, hr⟩
  · rintro ⟨hfault, r, hr⟩
    exact ⟨_, toSettings_eq_ok_iff.mpr ⟨hfault, r, hr, rfl⟩⟩

/-- A settings file stands for settings exactly if it meets all demands and its names make a
registry, and the settings take over its fields. What is told of any other file is the first
demand that it does not meet, and only of a file that meets all of them it is the fault of its
names. -/
theorem toSettings_outcome (f : SettingsFile) :
    ((∃ s, f.toSettings = .ok s) ↔
      (∀ c ∈ f.checks, c.demand) ∧
        ∃ r, Registry.ofNames f.registry.supported f.registry.unsupported = .ok r) ∧
    (∀ s, f.toSettings = .ok s → f.TakenOver s) ∧
    (∀ failure, f.toSettings = .error failure ↔
      (∃ fault, Check.FirstUnmet f.checks fault ∧ failure = .settings fault) ∨
      (∀ c ∈ f.checks, c.demand) ∧ ∃ fault,
        Registry.ofNames f.registry.supported f.registry.unsupported = .error fault ∧
          failure = .registry fault) ∧
    ∀ fault, f.toSettings = .error (.registry fault) → f.validate = .ok () := by
  refine ⟨exists_toSettings_iff, fun s => takenOver_of_toSettings,
    fun failure => toSettings_eq_error_iff, ?_⟩
  intro fault h
  rcases toSettings_eq_error_iff.mp h with ⟨_, _, hno⟩ | ⟨hmet, -⟩
  · cases hno
  · exact validate_eq_ok_iff.mpr hmet

/-- A file for Rust that leaves the place of the vocabulary alone, with a name of each kind. -/
def plainRust : SettingsFile where
  target := "rust"
  registry := ⟨["FooIterator"], ["BarIterator"]⟩

/-- The same file with an interface of two words, a path of white space, and a bad name. -/
def manyDefects : SettingsFile :=
  { plainRust with
    interface := "two words"
    vocabulary := { importPath := " \t" }
    registry := ⟨["Foo"], []⟩ }

/-- The same file with nothing but a bad name. -/
def oneBadName : SettingsFile := { plainRust with registry := ⟨["Foo"], []⟩ }

/-- The vocabulary of the first file moves to where Rust has it. Of the second one the interface
is told, and of the third one the name. -/
theorem toSettings_outcome_manyDefects :
    (∃ s, plainRust.toSettings = .ok s ∧ plainRust.TakenOver s ∧
      s.vocabulary = { importPath := "crate::vocab" }) ∧
    manyDefects.toSettings = .error (.settings (.notIdentifier "interface" "two words")) ∧
    oneBadName.toSettings = .error (.registry (.malformed "Foo" .noSuffix)) ∧
    oneBadName.validate = .ok () := by
  refine ⟨?_, ?_, ?_⟩
  · have hrun : ∃ s, plainRust.toSettings = .ok s := ⟨_, rfl⟩
    obtain ⟨s, hs⟩ := hrun
    have htaken := (toSettings_outcome plainRust).2.1 s hs
    exact ⟨s, hs, htaken, htaken.vocabulary rfl⟩
  · apply ((toSettings_outcome manyDefects).2.2.1 _).mpr
    refine .inl ⟨_, ?_, rfl⟩
    -- The target, the package and the function are met; the interface is not.
    refine .later (.inr rfl) (.later ?_ (.later ?_ (.here ?_)))
    · show isIdentifier "fetch" = true
      decide
    · show isIdentifier "begin" = true
      decide
    · show ¬isIdentifier "two words" = true
      decide
  · have hname : oneBadName.toSettings = .error (.registry (.malformed "Foo" .noSuffix)) := rfl
    exact ⟨hname, (toSettings_outcome oneBadName).2.2.2 _ hname⟩

end SettingsFile

end UniformIter
