import UniformIter.Settings.Validation

/-!
# What is accepted as settings

A settings file stands for settings exactly if its fields are sound and its names make a
registry (`SettingsFile.toSettings_eq_ok_iff`). Every field but the place of the vocabulary is
taken over as it is, and of that one the qualifier is.
-/

namespace UniformIter

@[simp] theorem Vocabulary.defaultFor_go : Vocabulary.defaultFor "go" = {} := rfl

@[simp] theorem Vocabulary.defaultFor_rust :
    Vocabulary.defaultFor "rust" = { importPath := rustVocabularyPath } := rfl

/-- The vocabulary goes by the same qualifier for every target. -/
@[simp] theorem Vocabulary.qualifier_defaultFor (target : String) :
    (Vocabulary.defaultFor target).qualifier = "vocab" := by
  unfold defaultFor
  split <;> rfl

theorem Vocabulary.isDefaultFor_iff {v : Vocabulary} {target : String} :
    v.isDefaultFor target = true ↔ v = Vocabulary.defaultFor target :=
  beq_iff_eq

namespace SettingsFile

variable {f : SettingsFile} {s : Settings}

/-- Nothing is wrong with a settings file exactly if its target is known, its names are
identifiers and its free texts are not blank. -/
theorem fault?_eq_none_iff : f.fault? = none ↔
    f.target ∈ knownTargets ∧ (∀ p ∈ f.identifiers, isIdentifier p.2 = true) ∧
      ∀ p ∈ f.obligatory, Text.isBlankText p.2 = false := by
  unfold fault?
  by_cases ht : f.target ∈ knownTargets
  · rw [if_neg (by simpa using ht)]
    cases hid : f.identifiers.find? fun p => !isIdentifier p.2 with
    | some p =>
      have hmem := List.mem_of_find?_eq_some hid
      have hbad := List.find?_some hid
      simp only [reduceCtorEq, false_iff, not_and]
      intro _ hall
      rw [hall p hmem] at hbad
      exact absurd hbad (by simp)
    | none =>
      have hall : ∀ p ∈ f.identifiers, isIdentifier p.2 = true := by
        simpa using List.find?_eq_none.1 hid
      simp only [Option.map_eq_none_iff, List.find?_eq_none, Bool.not_eq_true]
      exact ⟨fun h => ⟨ht, hall, h⟩, fun h => h.2.2⟩
  · rw [if_pos (by simpa using ht)]
    simp [ht]

/-- A settings file stands for settings exactly if nothing is wrong with it and its names make a
registry. -/
theorem toSettings_eq_ok_iff : f.toSettings = .ok s ↔
    f.fault? = none ∧
      ∃ registry, Registry.ofNames f.registry.supported f.registry.unsupported = .ok registry ∧
        s = ⟨f.target, f.package, f.dispatch, f.interface, f.resolvedVocabulary, registry⟩ := by
  unfold toSettings
  cases hf : f.fault? with
  | some fault => simp
  | none =>
    cases hr : Registry.ofNames f.registry.supported f.registry.unsupported with
    | error fault => simp
    | ok registry => simp [eq_comm]

theorem target_eq (h : f.toSettings = .ok s) : s.target = f.target := by
  obtain ⟨-, registry, -, rfl⟩ := toSettings_eq_ok_iff.1 h
  rfl

theorem vocabulary_eq (h : f.toSettings = .ok s) : s.vocabulary = f.resolvedVocabulary := by
  obtain ⟨-, registry, -, rfl⟩ := toSettings_eq_ok_iff.1 h
  rfl

theorem target_known (h : f.toSettings = .ok s) : s.target ∈ knownTargets := by
  rw [target_eq h]
  exact (fault?_eq_none_iff.1 (toSettings_eq_ok_iff.1 h).1).1

/-! ## The place of the vocabulary -/

/-- The place of Go stands for no place at all, and the target has its own. -/
theorem resolvedVocabulary_of_eq (h : f.vocabulary = Vocabulary.defaultFor "go") :
    f.resolvedVocabulary = Vocabulary.defaultFor f.target := by
  unfold resolvedVocabulary
  rw [if_pos (Vocabulary.isDefaultFor_iff.2 h)]

theorem resolvedVocabulary_of_ne (h : f.vocabulary ≠ Vocabulary.defaultFor "go") :
    f.resolvedVocabulary = f.vocabulary := by
  unfold resolvedVocabulary
  rw [if_neg fun hdefault => h (Vocabulary.isDefaultFor_iff.1 hdefault)]

/-- The qualifier of the vocabulary is the one in the file. -/
theorem qualifier_resolvedVocabulary (f : SettingsFile) :
    f.resolvedVocabulary.qualifier = f.vocabulary.qualifier := by
  by_cases h : f.vocabulary = Vocabulary.defaultFor "go"
  · rw [resolvedVocabulary_of_eq h, h, Vocabulary.qualifier_defaultFor,
      Vocabulary.qualifier_defaultFor]
  · rw [resolvedVocabulary_of_ne h]

end SettingsFile

/-- What holds of settings that come from a file: the target is known, and what goes into a unit
as a name is an identifier. -/
structure Settings.Sound (s : Settings) : Prop where
  target : s.target = "go" ∨ s.target = "rust"
  package : isIdentifier s.package = true
  function : isIdentifier s.dispatch.function = true
  interface : isIdentifier s.interface = true
  qualifier : isIdentifier s.vocabulary.qualifier = true

/-- Settings from a file are sound. -/
theorem SettingsFile.sound_of_toSettings {f : SettingsFile} {s : Settings}
    (h : f.toSettings = .ok s) : s.Sound := by
  obtain ⟨hf, registry, -, rfl⟩ := toSettings_eq_ok_iff.1 h
  obtain ⟨htarget, hid, -⟩ := fault?_eq_none_iff.1 hf
  simp only [identifiers, List.forall_mem_cons, List.not_mem_nil, false_implies, implies_true,
    and_true] at hid
  obtain ⟨hpackage, hfunction, hinterface, hqualifier⟩ := hid
  refine ⟨by simpa [knownTargets] using htarget, hpackage, hfunction, hinterface, ?_⟩
  rw [f.qualifier_resolvedVocabulary]
  exact hqualifier

end UniformIter
