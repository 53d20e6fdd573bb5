import UniformIter.Proofs.Settings.Fields
import UniformIter.Proofs.Settings.Retargeting

/-!
# Where the vocabulary lives

The vocabulary's path has a default for each target, but the decoder fills in the one for Go
before the target is known. Two steps repair that: `SettingsFile.resolvedVocabulary`, when a
settings file is accepted, and `Settings.withTarget`, when the target changes. Both compare the
whole vocabulary with the default, so a file that sets the qualifier alone is repaired by neither.

`vocabulary_of_unset_path` says what becomes of a file without a path: it follows the target if
the qualifier is the default one, and stays with Go's path otherwise.
-/

namespace UniformIter

open Decoding (Place rootPlace documentFormat)

/-! ## The two repairs -/

/-- The vocabulary of a file without a path: the target's own if the qualifier is the default
one, and that of Go under the file's qualifier otherwise. -/
theorem SettingsFile.resolvedVocabulary_of_default_path {f : SettingsFile}
    (h : f.vocabulary.importPath = ({} : Vocabulary).importPath) :
    f.resolvedVocabulary =
      if f.vocabulary.qualifier = "vocab" then Vocabulary.defaultFor f.target
      else { qualifier := f.vocabulary.qualifier } := by
  have hv : f.vocabulary = { qualifier := f.vocabulary.qualifier } := by
    cases hf : f.vocabulary
    rw [hf] at h
    cases h
    rfl
  by_cases hq : f.vocabulary.qualifier = "vocab"
  · have hdefault : f.vocabulary = Vocabulary.defaultFor "go" := by
      rw [Vocabulary.defaultFor_go, hv, hq]
    rw [resolvedVocabulary_of_eq hdefault, if_pos hq]
  · have hother : f.vocabulary ≠ Vocabulary.defaultFor "go" :=
      fun he => hq (congrArg Vocabulary.qualifier he)
    rw [resolvedVocabulary_of_ne hother, if_neg hq]
    exact hv

/-- Such a vocabulary is the same for every target that is chosen later, with that target's own
in place of the old one's. -/
theorem Settings.withTarget_vocabulary {s : Settings} {target : String}
    (h : s.vocabulary =
      if s.vocabulary.qualifier = "vocab" then Vocabulary.defaultFor s.target
      else { qualifier := s.vocabulary.qualifier }) :
    (s.withTarget target).vocabulary =
      if s.vocabulary.qualifier = "vocab" then Vocabulary.defaultFor target
      else { qualifier := s.vocabulary.qualifier } := by
  by_cases hq : s.vocabulary.qualifier = "vocab"
  · rw [if_pos hq] at h ⊢
    rw [withTarget_of_atHome h]
  · rw [if_neg hq] at h ⊢
    have haway : ¬s.AtHome := fun he => hq (he ▸ Vocabulary.qualifier_defaultFor _)
    rw [withTarget_of_not_atHome haway]
    exact h

/-- Only for Go, or under the default qualifier, is this the path of a target. -/
theorem Vocabulary.importPath_eq_iff {v : Vocabulary} {target : String}
    (h : v = if v.qualifier = "vocab" then Vocabulary.defaultFor target
      else { qualifier := v.qualifier })
    (ht : target ∈ knownTargets) :
    v.importPath = (Vocabulary.defaultFor target).importPath ↔
      target = "go" ∨ v.qualifier = "vocab" := by
  by_cases hq : v.qualifier = "vocab"
  · rw [if_pos hq] at h
    exact ⟨fun _ => .inr hq, fun _ => congrArg importPath h⟩
  · rw [if_neg hq] at h
    have hpath : v.importPath = ({} : Vocabulary).importPath := by rw [h]
    rw [hpath]
    simp only [knownTargets, List.mem_cons, List.not_mem_nil, or_false] at ht
    rcases ht with rfl | rfl
    · exact ⟨fun _ => .inl rfl, fun _ => rfl⟩
    · constructor
      · intro hrust
        exact absurd hrust (by decide)
      · rintro (hgo | hvocab)
        · exact absurd hgo (by decide)
        · exact absurd hvocab hq

/-! ## Files without a path -/

/-- What becomes of the vocabulary of a document that sets no path for it, for the target that
it names and for either one chosen later: the qualifier is the one that the document sets, and
the path is that of the target exactly if this is Go or the qualifier is the default one. -/
theorem vocabulary_of_unset_path {text : String} {root : Option Document.Node}
    {f : SettingsFile} {s : Settings} (hread : Document.read text = some root)
    (hf : SettingsFile.ofText text = .ok f) (hs : f.toSettings = .ok s)
    (hunset : (rootPlace root).reached ["vocab", "import_path"] = []) :
    (∀ w ∈ (rootPlace root).reached ["vocab", "qualifier"],
      w.string = .ok s.vocabulary.qualifier) ∧
    ((rootPlace root).reached ["vocab", "qualifier"] = [] → s.vocabulary.qualifier = "vocab") ∧
    ∀ t ∈ [s, s.withTarget "go", s.withTarget "rust"],
      t.vocabulary.qualifier = s.vocabulary.qualifier ∧
      (t.vocabulary.importPath = (Vocabulary.defaultFor t.target).importPath ↔
        t.target = "go" ∨ t.vocabulary.qualifier = "vocab") := by
  have hdoc : documentFormat.record "struct GeneratorConfigFile"
      (SettingsFile.fields documentFormat) {} (rootPlace root) = .ok f := by
    unfold SettingsFile.ofText at hf
    rw [hread] at hf
    dsimp only at hf
    split at hf
    next h =>
      cases hf
      exact h
    next => cases hf
  have hfile := SettingsFile.governs documentFormat
  have hrecord := Vocabulary.governs documentFormat
  simp only [SettingsFile.slots, Vocabulary.slots, List.forall_mem_cons] at hfile hrecord
  obtain ⟨-, -, -, -, hvocabulary, -⟩ := hfile
  obtain ⟨himportPath, hname, -⟩ := hrecord
  obtain ⟨hpath, -⟩ := hvocabulary.nested himportPath rfl hdoc
  obtain ⟨hnone, hset⟩ := hvocabulary.nested hname rfl hdoc
  obtain ⟨hsound, registry, -, rfl⟩ := SettingsFile.toSettings_eq_ok_iff.1 hs
  have htarget : f.target ∈ knownTargets := (SettingsFile.fault?_eq_none_iff.1 hsound).1
  have hqualifier := f.qualifier_resolvedVocabulary
  have hresolved := f.resolvedVocabulary_of_default_path (hpath hunset)
  rw [← hqualifier] at hresolved hnone hset
  refine ⟨hset, hnone, ?_⟩
  have hchosen : ∀ target ∈ knownTargets, ∀ t : Settings, t.target = target →
      (t.vocabulary = if f.resolvedVocabulary.qualifier = "vocab" then Vocabulary.defaultFor target
        else { qualifier := f.resolvedVocabulary.qualifier }) →
      t.vocabulary.qualifier = f.resolvedVocabulary.qualifier ∧
      (t.vocabulary.importPath = (Vocabulary.defaultFor t.target).importPath ↔
        t.target = "go" ∨ t.vocabulary.qualifier = "vocab") := by
    rintro target hknown t rfl hv
    have hsame : t.vocabulary.qualifier = f.resolvedVocabulary.qualifier := by
      rw [hv]
      by_cases hq : f.resolvedVocabulary.qualifier = "vocab"
      · rw [if_pos hq, Vocabulary.qualifier_defaultFor, hq]
      · rw [if_neg hq]
    rw [← hsame] at hv
    exact ⟨hsame, Vocabulary.importPath_eq_iff hv hknown⟩
  intro t ht
  simp only [List.mem_cons, List.not_mem_nil, or_false] at ht
  rcases ht with rfl | rfl | rfl
  · exact hchosen _ htarget _ rfl hresolved
  · exact hchosen "go" (by decide) _ rfl (Settings.withTarget_vocabulary hresolved)
  · exact hchosen "rust" (by decide) _ rfl (Settings.withTarget_vocabulary hresolved)

/-- A document for Rust that renames the vocabulary and leaves its path alone. -/
def renamedVocabulary : String := "target: rust\nvocab:\n  qualifier: v\n"

/-- It is accepted, with the path of Go under the new name. -/
theorem read_renamedVocabulary : ∃ root f s, Document.read renamedVocabulary = some root ∧
    SettingsFile.ofText renamedVocabulary = .ok f ∧ f.toSettings = .ok s ∧
    (rootPlace root).reached ["vocab", "import_path"] = [] ∧ s.target = "rust" ∧
    s.vocabulary = { qualifier := "v" } := by
  have hroot : (Document.read renamedVocabulary).map
      (fun root => ((rootPlace root).reached ["vocab", "import_path"]).isEmpty) = some true := by
    decide +kernel
  have hfile : (SettingsFile.ofText renamedVocabulary).toOption =
      some { target := "rust", vocabulary := { qualifier := "v" } } := by
    decide +kernel
  obtain ⟨root, hread, hempty⟩ := Option.map_eq_some_iff.1 hroot
  cases hf : SettingsFile.ofText renamedVocabulary with
  | error fault =>
    rw [hf] at hfile
    cases hfile
  | ok f =>
    rw [hf] at hfile
    cases hfile
    exact ⟨root, _, _, hread, rfl, rfl, List.isEmpty_iff.1 hempty, rfl, rfl⟩

theorem vocabulary_of_renamedVocabulary : ∃ root f s,
    Document.read renamedVocabulary = some root ∧
    SettingsFile.ofText renamedVocabulary = .ok f ∧ f.toSettings = .ok s ∧
    (rootPlace root).reached ["vocab", "import_path"] = [] ∧
    ∀ t ∈ [s, s.withTarget "go", s.withTarget "rust"],
      t.vocabulary.qualifier = s.vocabulary.qualifier ∧
      (t.vocabulary.importPath = (Vocabulary.defaultFor t.target).importPath ↔
        t.target = "go" ∨ t.vocabulary.qualifier = "vocab") := by
  obtain ⟨root, f, s, hread, hf, hs, hunset, -, -⟩ := read_renamedVocabulary
  exact ⟨root, f, s, hread, hf, hs, hunset,
    (vocabulary_of_unset_path hread hf hs hunset).2.2⟩

/-- Its path is that of Go, although it names Rust as its target. -/
theorem renamedVocabulary_keeps_path : ∃ root f s,
    Document.read renamedVocabulary = some root ∧
    SettingsFile.ofText renamedVocabulary = .ok f ∧ f.toSettings = .ok s ∧
    (rootPlace root).reached ["vocab", "import_path"] = [] ∧ s.target = "rust" ∧
    s.vocabulary.importPath ≠ (Vocabulary.defaultFor s.target).importPath := by
  obtain ⟨root, f, s, hread, hf, hs, hunset, htarget, hv⟩ := read_renamedVocabulary
  refine ⟨root, f, s, hread, hf, hs, hunset, htarget, ?_⟩
  rw [htarget, hv]
  decide

end UniformIter
