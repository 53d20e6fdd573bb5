import UniformIter.Proofs.Decoding.Records
import UniformIter.Settings.Decode

/-!
# The fields of a settings file

In each of its records a settings file has fields that are apart: every one sets a part of its own
and leaves the others as they are. So every part of a record is what the entry of its field reads
as, whatever else stands in the record.
-/

namespace UniformIter

open Decoding (Format Governs Slot)

variable {ν ε : Type} (F : Format ν ε)

/-- The fields of the dispatch function with what they set. -/
def Dispatch.slots : List (Slot ν ε Dispatch) :=
  [⟨"function", F.string, function, fun function d => { d with function }, fun _ _ => rfl⟩,
    ⟨"argument_type", F.string, argumentType, fun argumentType d => { d with argumentType },
      fun _ _ => rfl⟩,
    ⟨"check_nil_argument", F.boolean, checkNil, fun checkNil d => { d with checkNil },
      fun _ _ => rfl⟩]

/-- The fields of the vocabulary with what they set. -/
def Vocabulary.slots : List (Slot ν ε Vocabulary) :=
  [⟨"import_path", F.string, importPath, fun importPath v => { v with importPath },
      fun _ _ => rfl⟩,
    ⟨"qualifier", F.string, qualifier, fun qualifier v => { v with qualifier }, fun _ _ => rfl⟩]

/-- The fields of the registry with what they set. -/
def NameLists.slots : List (Slot ν ε NameLists) :=
  [⟨"supported", F.strings, supported, fun supported n => { n with supported }, fun _ _ => rfl⟩,
    ⟨"unsupported", F.strings, unsupported, fun unsupported n => { n with unsupported },
      fun _ _ => rfl⟩]

/-- The fields of a settings file with what they set. -/
def SettingsFile.slots : List (Slot ν ε SettingsFile) :=
  [⟨"target", F.string, target, fun target f => { f with target }, fun _ _ => rfl⟩,
    ⟨"package", F.string, package, fun package f => { f with package }, fun _ _ => rfl⟩,
    ⟨"dispatch", F.record "struct DispatchConfig" (Dispatch.fields F) {}, dispatch,
      fun dispatch f => { f with dispatch }, fun _ _ => rfl⟩,
    ⟨"interface", F.string, interface, fun interface f => { f with interface }, fun _ _ => rfl⟩,
    ⟨"vocab", F.record "struct VocabConfig" (Vocabulary.fields F) {}, vocabulary,
      fun vocabulary f => { f with vocabulary }, fun _ _ => rfl⟩,
    ⟨"registry", F.record "struct RegistryConfig" (NameLists.fields F) {}, registry,
      fun registry f => { f with registry }, fun _ _ => rfl⟩]

theorem Dispatch.governs : ∀ slot ∈ slots F,
    Governs (fields F) slot.name slot.read slot.get := by
  refine Slot.governs ?_
  simp only [slots, List.pairwise_cons, List.forall_mem_cons, List.not_mem_nil, false_implies,
    implies_true, List.Pairwise.nil, and_true]
  and_intros
  all_goals exact ⟨by simp, fun _ _ => rfl, fun _ _ => rfl⟩

theorem Vocabulary.governs : ∀ slot ∈ slots F,
    Governs (fields F) slot.name slot.read slot.get := by
  refine Slot.governs ?_
  simp only [slots, List.pairwise_cons, List.forall_mem_cons, List.not_mem_nil, false_implies,
    implies_true, List.Pairwise.nil, and_true]
  exact ⟨by simp, fun _ _ => rfl, fun _ _ => rfl⟩

theorem NameLists.governs : ∀ slot ∈ slots F,
    Governs (fields F) slot.name slot.read slot.get := by
  refine Slot.governs ?_
  simp only [slots, List.pairwise_cons, List.forall_mem_cons, List.not_mem_nil, false_implies,
    implies_true, List.Pairwise.nil, and_true]
  exact ⟨by simp, fun _ _ => rfl, fun _ _ => rfl⟩

theorem SettingsFile.governs : ∀ slot ∈ slots F,
    Governs (fields F) slot.name slot.read slot.get := by
  refine Slot.governs ?_
  simp only [slots, List.pairwise_cons, List.forall_mem_cons, List.not_mem_nil, false_implies,
    implies_true, List.Pairwise.nil, and_true]
  and_intros
  all_goals exact ⟨by simp, fun _ _ => rfl, fun _ _ => rfl⟩

end UniformIter
