import Mathlib.Data.List.Basic
import UniformIter.Proofs.Text.ByteOrder
import UniformIter.Proofs.Unit.ImportSpecs

/-!
# Imports and uses in Go

Go refuses a package that is imported and not used, and one that is used and not imported. Beside
`fmt`, a unit uses `errors` in its test for a missing argument, `net/url` in its adapters, and the
vocabulary in the cases and the adapters of its supported entries, and maybe in its argument type.

The standard library is imported as it is used. The vocabulary is imported for the supported
entries, and else for an argument type that begins with its name (`imports_of_toSettings`); a type
that names it further inside, such as `*vocab.Type`, does not count (`pointerType_not_imported`).
-/

namespace UniformIter.Go

open Scan

/-! ## Imports -/

/-- Some line imports a package by its path, whatever name it gives to it. -/
def IsImported (path : String) (lines : List (List Char)) : Prop :=
  ∃ line ∈ (importsIn lines).standard ++ (importsIn lines).other,
    ∃ name, IsImportSpec name (utf8 path.toList) line

/-- The free texts of a unit do not go over the end of a line, and the path of the vocabulary
stands in quotation marks as it is, where that is imported. -/
structure PlainTexts (s : Settings) : Prop where
  argument : Without '\n' s.dispatch.argumentType
  path : usesVocabulary s = true → ∀ c ∈ s.vocabulary.importPath.toList, IsPlain c

variable {s : Settings}

theorem PlainTexts.lacks (h : PlainTexts s) : Lacks s '\n' :=
  ⟨h.argument, fun huses hmem => (h.path huses _ hmem).2.2 rfl⟩

/-- Texts with the same bytes are the same. -/
theorem utf8_injective {a b : String} (h : utf8 a.toList = utf8 b.toList) : a = b := by
  have hbytes : UniformIter.utf8 a = UniformIter.utf8 b := by
    rw [utf8_eq, utf8_eq]
    exact h
  exact String.toByteArray_inj.1 (ByteArray.ext (Array.toList_inj.1 hbytes))

theorem quote_not_mem_importFront {name : Option String}
    (h : ∀ n ∈ name, isIdentifier n = true) : '\x22' ∉ importFront name := by
  cases name with
  | none => decide
  | some n =>
    have hn : '\x22' ∉ n.toList := not_mem_of_isIdentifier (h n rfl) (by decide)
    simp [importFront, hn]

/-- A line with a path in quotation marks imports that path and no other. -/
theorem importSpec_quoted_iff {given : Option String} {p : List Char} {v : List UInt8}
    (hg : ∀ n ∈ given, isIdentifier n = true) (hp : ∀ c ∈ p, IsPlain c) :
    (∃ name, IsImportSpec name v (importFront given ++ '\x22' :: (p ++ ['\x22']))) ↔
      v = utf8 p := by
  constructor
  · rintro ⟨name, text, hline, hdenotes⟩
    obtain ⟨body, hbody⟩ : ∃ body, text = '\x22' :: (body ++ ['\x22']) := by
      cases hdenotes.literal with
      | quoted => exact ⟨_, rfl⟩
    -- Without the last quotation mark, the first one is where the front ends.
    have hopen : importFront given ++ '\x22' :: p = importFront name ++ '\x22' :: body := by
      rw [hbody, ← List.cons_append, ← List.cons_append, ← List.append_assoc,
        ← List.append_assoc] at hline
      exact List.append_cancel_right hline
    have hno : '\x22' ∉ p := fun hmem => (hp _ hmem).1 rfl
    obtain ⟨-, -, rfl⟩ :=
      (List.append_cons_inj_of_notMem (quote_not_mem_importFront hg) hno).1 hopen
    rw [hbody] at hdenotes
    exact (denotes_quoted hp).only v hdenotes.literal
  · rintro rfl
    exact ⟨given, _, rfl, denotes_quoted hp⟩

theorem importLine_eq (path : String) :
    importLine path = importFront none ++ '\x22' :: (path.toList ++ ['\x22']) := by
  simp [importLine, importFront, toString]

/-- The packages of the standard library, each by what it is imported for. -/
theorem mem_standardImports {path : String} : path ∈ standardImports s ↔
    path = "fmt" ∨ path = "errors" ∧ s.dispatch.checkNil = true ∨
      path = "net/url" ∧ hasAdapters s = true := by
  unfold standardImports
  cases s.dispatch.checkNil <;> cases hasAdapters s <;> simp [or_left_comm, or_comm]

/-- Their paths need no escapes. -/
theorem isPlain_standardImports :
    ∀ known ∈ standardImports s, ∀ c ∈ known.toList, IsPlain c := by
  intro known hknown
  rcases mem_standardImports.1 hknown with rfl | ⟨rfl, -⟩ | ⟨rfl, -⟩
  all_goals exact isPlain_of_all rfl

/-- What a unit imports: its packages of the standard library, and the vocabulary if it uses
it. -/
theorem isImported_iff (hs : s.Sound) (h : PlainTexts s) {path : String} :
    IsImported path (textLines (unlines (unitLines s)).toList) ↔
      path ∈ standardImports s ∨ usesVocabulary s = true ∧ path = s.vocabulary.importPath := by
  have hstandard : ∀ known ∈ standardImports s,
      ((∃ name, IsImportSpec name (utf8 path.toList) (importLine known)) ↔ path = known) := by
    intro known hknown
    rw [importLine_eq, importSpec_quoted_iff (by simp) (isPlain_standardImports known hknown)]
    exact ⟨utf8_injective, fun heq => heq ▸ rfl⟩
  have hvocabulary : usesVocabulary s = true →
      ((∃ name, IsImportSpec name (utf8 path.toList) (vocabularyLine s)) ↔
        path = s.vocabulary.importPath) := by
    intro huses
    have halias : ∀ n ∈ importAlias s.vocabulary, isIdentifier n = true := by
      unfold importAlias
      split
      · simp
      · simpa using hs.qualifier
    rw [vocabularyLine_eq, importSpec_quoted_iff halias (h.path huses)]
    exact ⟨utf8_injective, fun heq => heq ▸ rfl⟩
  unfold IsImported
  rw [importsIn_textLines_of_lacks hs h.lacks]
  constructor
  · rintro ⟨line, hline, hspec⟩
    rcases List.mem_append.1 hline with hmem | hmem
    · obtain ⟨known, hknown, rfl⟩ := List.mem_map.1 hmem
      obtain rfl := (hstandard known hknown).1 hspec
      exact .inl hknown
    · dsimp only at hmem
      split at hmem
      next huses =>
        obtain rfl := List.mem_singleton.1 hmem
        exact .inr ⟨huses, (hvocabulary huses).1 hspec⟩
      next => exact absurd hmem List.not_mem_nil
  · rintro (hknown | ⟨huses, hpath⟩)
    · exact ⟨_, List.mem_append_left _ (List.mem_map_of_mem hknown),
        (hstandard path hknown).2 rfl⟩
    · refine ⟨vocabularyLine s, List.mem_append_right _ ?_, (hvocabulary huses).2 hpath⟩
      dsimp only
      rw [if_pos huses]
      exact List.mem_cons_self

/-! ## Uses -/

/-- A type names something of a package: the package as a whole identifier, and a point behind
it. -/
def Mentions (package type : String) : Prop :=
  ∃ before after : List Char, type.toList = before ++ (package.toList ++ '.' :: after) ∧
    ∀ c ∈ before.getLast?, continuesIdentifier c = false

/-- A type begins with something of a package. -/
def Begins (package type : String) : Prop := (package ++ ".").toList <+: type.toList

theorem Begins.mentions {package type : String} (h : Begins package type) :
    Mentions package type := by
  obtain ⟨after, hafter⟩ := h
  refine ⟨[], after, ?_, fun c hc => absurd hc (by simp)⟩
  rw [← hafter, String.toList_append, List.append_assoc]
  rfl

theorem hasAdapters_iff : hasAdapters s = true ↔ s.registry.supported ≠ [] := by
  rw [hasAdapters, Bool.not_eq_true', List.isEmpty_eq_false_iff]

/-- When a unit imports the vocabulary. -/
theorem usesVocabulary_iff : usesVocabulary s = true ↔
    s.registry.supported ≠ [] ∨ Begins s.vocabulary.qualifier s.dispatch.argumentType := by
  rw [usesVocabulary, Bool.or_eq_true, hasAdapters_iff, List.isPrefixOf_iff_prefix]
  rfl

theorem nilTest_mem_statements : .nilTest ∈ statements s ↔ s.dispatch.checkNil = true := by
  unfold statements
  split <;> simp [*]

theorem adapter_mem_statements :
    (∃ name, .adapter name ∈ statements s) ↔ s.registry.supported ≠ [] := by
  constructor
  · rintro ⟨name, hname⟩ hnil
    unfold statements at hname
    rw [hnil] at hname
    split at hname <;> simp at hname
  · intro hne
    obtain ⟨e, es, hes⟩ := List.exists_cons_of_ne_nil hne
    refine ⟨adapterName e, List.mem_append_right _ ?_⟩
    rw [hes]
    exact List.mem_cons_self

/-! ## Imports by their uses -/

/-- What the lines of a unit import, by what is in them and what the settings refer to. -/
structure ImportsAsUsed (s : Settings) (lines : List (List Char)) : Prop where
  /-- The vocabulary is imported for the supported entries, and for an argument type that begins
  with something of it. -/
  vocabulary : (importsIn lines).other ≠ [] ↔
    s.registry.supported ≠ [] ∨ Begins s.vocabulary.qualifier s.dispatch.argumentType
  /-- So it is imported only where it is named. -/
  named : (importsIn lines).other ≠ [] →
    s.registry.supported ≠ [] ∨ Mentions s.vocabulary.qualifier s.dispatch.argumentType
  /-- All packages that are imported. -/
  packages : PlainTexts s → ∀ path, IsImported path lines ↔
    path = "fmt" ∨
    path = "errors" ∧ .nilTest ∈ lines.filterMap statement? ∨
    path = "net/url" ∧ (∃ name, .adapter name ∈ lines.filterMap statement?) ∨
    path = s.vocabulary.importPath ∧
      (s.registry.supported ≠ [] ∨ Begins s.vocabulary.qualifier s.dispatch.argumentType)

/-- A unit in Go imports `errors` exactly if it tests for a missing argument, `net/url` exactly
if it has adapters, and the vocabulary exactly if an entry is supported or its argument type
begins with something of the vocabulary. -/
theorem imports_of_toSettings {f : SettingsFile} (hs : f.toSettings = .ok s)
    (hgo : s.target = "go") :
    ∃ text, s.unit = .ok text ∧ ImportsAsUsed s (textLines text.toList) := by
  have hsound := SettingsFile.sound_of_toSettings hs
  have hother : (importsIn (textLines (unlines (unitLines s)).toList)).other ≠ [] ↔
      s.registry.supported ≠ [] ∨ Begins s.vocabulary.qualifier s.dispatch.argumentType := by
    obtain ⟨more, himports, -⟩ := importsIn_textLines hsound
    rw [himports, ← usesVocabulary_iff]
    dsimp only
    split
    next h => exact ⟨fun _ => h, fun _ => List.cons_ne_nil _ _⟩
    next h => exact ⟨fun hne => absurd rfl hne, fun huses => absurd huses h⟩
  refine ⟨_, Settings.unit_of_go hgo, hother, ?_, fun hplain path => ?_⟩
  · exact fun hne => (hother.1 hne).imp_right Begins.mentions
  · rw [isImported_iff hsound hplain, mem_standardImports, finds_textLines hsound hplain.lacks,
      nilTest_mem_statements, adapter_mem_statements, ← hasAdapters_iff, usesVocabulary_iff,
      hasAdapters_iff, or_assoc, or_assoc]
    exact or_congr_right (or_congr_right (or_congr_right and_comm))

/-- A settings file without entries, whose argument type begins with the vocabulary. -/
def vocabularyArgument : SettingsFile where
  dispatch := { argumentType := "vocab.Type", checkNil := false }

/-- Its unit imports the vocabulary, and nothing that it does not use. -/
theorem imports_of_vocabularyArgument : ∃ s text, vocabularyArgument.toSettings = .ok s ∧
    s.target = "go" ∧ s.unit = .ok text ∧
    IsImported s.vocabulary.importPath (textLines text.toList) ∧
    ¬IsImported "errors" (textLines text.toList) ∧
    ¬IsImported "net/url" (textLines text.toList) := by
  have hfile : ∃ s, vocabularyArgument.toSettings = .ok s ∧ s.target = "go" ∧
      Begins s.vocabulary.qualifier s.dispatch.argumentType ∧ PlainTexts s ∧
      statements s = [.function "begin"] ∧
      "errors" ≠ s.vocabulary.importPath ∧ "net/url" ≠ s.vocabulary.importPath := by
    refine ⟨_, rfl, rfl, ⟨"Type".toList, ?_⟩, ⟨?_, fun _ => ?_⟩, rfl, ?_⟩
    · decide
    · decide
    · exact isPlain_of_all rfl
    · decide
  obtain ⟨s, hs, hgo, hbegins, hplain, hstatements, herrors, hurl⟩ := hfile
  obtain ⟨text, hunit, himports⟩ := imports_of_toSettings hs hgo
  have htext : unlines (unitLines s) = text :=
    Except.ok.inj ((Settings.unit_of_go hgo).symm.trans hunit)
  have hfound : (textLines text.toList).filterMap statement? = [.function "begin"] := by
    rw [← htext, finds_textLines (SettingsFile.sound_of_toSettings hs) hplain.lacks, hstatements]
  have hpackages := himports.packages hplain
  refine ⟨s, text, hs, hgo, hunit, ?_, ?_, ?_⟩
  · exact (hpackages _).2 (.inr (.inr (.inr ⟨rfl, .inr hbegins⟩)))
  · rw [hpackages, hfound]
    simp [herrors]
  · rw [hpackages, hfound]
    simp [hurl]

/-- A settings file without entries, whose argument type names the vocabulary behind a star. -/
def pointerArgument : SettingsFile where
  dispatch := { argumentType := "*vocab.Type" }

/-- Its unit names the vocabulary and does not import it. -/
theorem pointerType_not_imported : ∃ s text, pointerArgument.toSettings = .ok s ∧
    s.target = "go" ∧ s.unit = .ok text ∧
    Mentions s.vocabulary.qualifier s.dispatch.argumentType ∧
    (importsIn (textLines text.toList)).other = [] ∧
    ¬IsImported s.vocabulary.importPath (textLines text.toList) := by
  have hfile : ∃ s, pointerArgument.toSettings = .ok s ∧ s.target = "go" ∧
      Mentions s.vocabulary.qualifier s.dispatch.argumentType ∧ PlainTexts s ∧
      usesVocabulary s = false ∧ s.vocabulary.importPath ∉ standardImports s := by
    refine ⟨_, rfl, rfl, ⟨['*'], "Type".toList, rfl, fun c hc => ?_⟩, ⟨?_, fun h => ?_⟩, rfl, ?_⟩
    · cases hc
      rfl
    · decide
    · exact absurd h (by decide)
    · decide
  obtain ⟨s, hs, hgo, hmentions, hplain, hunused, hpath⟩ := hfile
  have hsound := SettingsFile.sound_of_toSettings hs
  refine ⟨s, _, hs, hgo, Settings.unit_of_go hgo, hmentions, ?_, ?_⟩
  · rw [importsIn_textLines_of_lacks hsound hplain.lacks, hunused]
    rfl
  · rw [isImported_iff hsound hplain, hunused]
    simp [hpath]

end UniformIter.Go
