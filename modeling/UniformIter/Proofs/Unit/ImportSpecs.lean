import UniformIter.Proofs.Unit.Imports
import UniformIter.Proofs.Unit.Literals

/-!
# The import of the vocabulary in Go

An import in Go is a line with a string literal, and before it the name that the package gets if
that is not the last element of its path. A unit writes the path of the vocabulary between
quotation marks as it is. So its import is what it should be exactly if nothing in the path needs
an escape (`importSpec_iff`); a quotation mark, a backslash or the end of a line does, and all of
them are accepted (`escapes_missing`).
-/

namespace UniformIter.Go

open Scan

/-! ## Reading -/

/-- What stands before the literal of an import in an import declaration. -/
def importFront : Option String → List Char
  | none => ['\t']
  | some name => '\t' :: (name.toList ++ [' '])

/-- An import on a line of its own: the name that the package gets, if it gets one, and a literal
of its path. -/
def IsImportSpec (name : Option String) (path : List UInt8) (line : List Char) : Prop :=
  ∃ text, line = importFront name ++ text ∧ Denotes text path

/-- The name that the vocabulary gets: its qualifier, unless that is the last element of the
path. -/
def importAlias (v : Vocabulary) : Option String :=
  if (v.importPath.toList.splitOn '/').getLast? = some v.qualifier.toList then none
  else some v.qualifier

/-! ## Writing -/

/-- The last element of a path is what stands behind its last slash. -/
theorem getLast?_splitOn (path : String) :
    (path.toList.splitOn '/').getLast? = some (lastElement path).toList := by
  obtain ⟨back, rest, hpath, hrun, hrest⟩ := exists_run (· != '/') path.toList.reverse
  have hback : '/' ∉ back.reverse := by
    intro hmem
    exact absurd (hrun '/' (List.mem_reverse.1 hmem)) (by decide)
  have hwritten : path.toList = rest.reverse ++ back.reverse := by
    rw [← List.reverse_append, ← hpath, List.reverse_reverse]
  rw [lastElement, String.toList_ofList, hpath, (takeWhile_run hrun hrest).1, hwritten]
  cases rest with
  | nil =>
    rw [List.reverse_nil, List.nil_append, List.splitOn_eq_singleton hback]
    rfl
  | cons c front =>
    obtain rfl : c = '/' := by simpa using hrest c rfl
    rw [List.reverse_cons, List.append_assoc, List.singleton_append,
      List.splitOn_append_cons_self, List.splitOn_eq_singleton hback, List.getLast?_concat]

variable {s : Settings}

/-- The line that a unit writes for the vocabulary: its path as it is, in quotation marks. -/
theorem vocabularyLine_eq (s : Settings) : vocabularyLine s =
    importFront (importAlias s.vocabulary) ++
      '\x22' :: (s.vocabulary.importPath.toList ++ ['\x22']) := by
  have halias : (lastElement s.vocabulary.importPath = s.vocabulary.qualifier) ↔
      (s.vocabulary.importPath.toList.splitOn '/').getLast? =
        some s.vocabulary.qualifier.toList := by
    rw [getLast?_splitOn, Option.some_inj, String.toList_inj]
  unfold vocabularyLine vocabularyImport importAlias
  by_cases h : lastElement s.vocabulary.importPath = s.vocabulary.qualifier
  · rw [if_pos h, if_pos (halias.1 h)]
    simp [importFront, toString]
  · rw [if_neg h, if_neg (mt halias.2 h)]
    simp [importFront, toString]

/-! ## When the import is right -/

/-- The import of the vocabulary is one line with a literal of its path exactly if nothing in the
path needs an escape. -/
theorem importSpec_iff (hs : s.Sound) (huses : usesVocabulary s = true) :
    (∃ line, (importsIn (textLines (unlines (unitLines s)).toList)).other = [line] ∧
      IsImportSpec (importAlias s.vocabulary) (utf8 s.vocabulary.importPath.toList) line) ↔
    ∀ c ∈ s.vocabulary.importPath.toList, IsPlain c := by
  have hfront : '\n' ∉ importFront (importAlias s.vocabulary) := by
    unfold importAlias
    split
    · decide
    · simp [importFront, newline_not_mem hs.qualifier]
  obtain ⟨more, himports, hmore⟩ := importsIn_textLines hs
  have hother := congrArg Imports.other himports
  dsimp only at hother
  rw [if_pos huses, vocabularyLine_eq, List.takeWhile_append_of_pos (bne_newline hfront),
    List.takeWhile_cons_of_pos (by decide)] at hother
  rw [vocabularyLine_eq] at hmore
  rw [← denotes_firstLine_iff]
  constructor
  · rintro ⟨line, hline, text, rfl, hdenotes⟩
    obtain ⟨heq, -⟩ := List.cons.inj (hother.symm.trans hline)
    rwa [List.append_cancel_left heq]
  · intro hdenotes
    have hplain := denotes_firstLine_iff.1 hdenotes
    have hone : '\n' ∉ importFront (importAlias s.vocabulary) ++
        '\x22' :: (s.vocabulary.importPath.toList ++ ['\x22']) := by
      have hpath : '\n' ∉ s.vocabulary.importPath.toList := fun hmem => (hplain _ hmem).2.2 rfl
      simp [hfront, hpath]
    rw [hmore hone] at hother
    exact ⟨_, hother, _, rfl, hdenotes⟩

/-- A unit in Go that imports the vocabulary does so in one line, with its qualifier in front
unless the path ends with that, and with a literal that denotes the path, exactly if the path has
no quotation mark, no backslash and no end of a line. -/
theorem importSpec_of_toSettings {f : SettingsFile} (h : f.toSettings = .ok s)
    (hgo : s.target = "go") (huses : usesVocabulary s = true) :
    ∃ text, s.unit = .ok text ∧
      ((∃ line, (importsIn (textLines text.toList)).other = [line] ∧
        IsImportSpec (importAlias s.vocabulary) (utf8 s.vocabulary.importPath.toList) line) ↔
      ∀ c ∈ s.vocabulary.importPath.toList, c ≠ '\x22' ∧ c ≠ '\\' ∧ c ≠ '\n') :=
  ⟨_, Settings.unit_of_go hgo, importSpec_iff (SettingsFile.sound_of_toSettings h) huses⟩

/-- A settings file whose vocabulary lives at a path with letters beyond ASCII and a slash at the
end. -/
def slashedPath : SettingsFile where
  dispatch := { argumentType := "vocab.Type" }
  vocabulary := { importPath := "example.com/ström/" }

theorem importSpec_slashedPath : ∃ s text line, slashedPath.toSettings = .ok s ∧
    s.target = "go" ∧ usesVocabulary s = true ∧ s.unit = .ok text ∧
    (importsIn (textLines text.toList)).other = [line] ∧
    IsImportSpec (some "vocab") (utf8 "example.com/ström/".toList) line := by
  have hplain : ∀ c ∈ "example.com/ström/".toList, c ≠ '\x22' ∧ c ≠ '\\' ∧ c ≠ '\n' := by
    simp
  obtain ⟨text, hunit, hspec⟩ :=
    importSpec_of_toSettings (f := slashedPath) rfl rfl (by decide)
  obtain ⟨line, hother, hline⟩ := hspec.2 hplain
  exact ⟨_, text, line, rfl, rfl, by decide, hunit, hother, hline⟩

/-- A settings file whose vocabulary lives at a path with a quotation mark in it. -/
def quotedPath : SettingsFile where
  dispatch := { argumentType := "vocab.Type" }
  vocabulary := { importPath := "example.com/a\"b" }

/-- Its unit has no import with a literal of that path. -/
theorem escapes_missing : ∃ s text, quotedPath.toSettings = .ok s ∧ s.target = "go" ∧
    usesVocabulary s = true ∧ s.unit = .ok text ∧
    ¬∃ line, (importsIn (textLines text.toList)).other = [line] ∧
      IsImportSpec (importAlias s.vocabulary) (utf8 s.vocabulary.importPath.toList) line := by
  obtain ⟨s, hs, hgo, huses, hmark⟩ : ∃ s, quotedPath.toSettings = .ok s ∧ s.target = "go" ∧
      usesVocabulary s = true ∧ '\x22' ∈ s.vocabulary.importPath.toList :=
    ⟨_, rfl, rfl, by decide, by decide⟩
  refine ⟨s, _, hs, hgo, huses, Settings.unit_of_go hgo, fun hspec => ?_⟩
  have hplain := (importSpec_iff (SettingsFile.sound_of_toSettings hs) huses).1 hspec
  exact (hplain _ hmark).1 rfl

end UniformIter.Go
