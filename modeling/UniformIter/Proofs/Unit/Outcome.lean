import UniformIter.Proofs.Settings.Changes
import UniformIter.Proofs.Unit.Text

/-!
# Which settings give a unit

Settings for Go always give a unit. Those for Rust give one exactly if the path of the vocabulary
leads to a module: identifiers with double colons between them (`Rust.isModulePath_iff`). There
are no other renderers, and nothing else goes wrong, whatever changes the settings went through
since they were accepted (`Settings.outcome_changedBy`).
-/

namespace UniformIter

namespace Rust

/-! ## Paths -/

/-- A path that leads to a module: identifiers with double colons between them. -/
def LeadsToModule (path : String) : Prop :=
  ∃ names : List String, names ≠ [] ∧ (∀ n ∈ names, isIdentifier n = true) ∧
    path = "::".intercalate names

theorem splitPath_ne_nil (s : List Char) : splitPath s ≠ [] := by
  induction s using splitPath.induct with
  | case1 => rw [splitPath]; exact List.cons_ne_nil _ _
  | case2 r ih => rw [splitPath]; exact List.cons_ne_nil _ _
  | case3 c r hpair hnil ih => exact absurd hnil ih
  | case4 c r hpair first more hsplit ih =>
    rw [splitPath, hsplit]
    · exact List.cons_ne_nil _ _
    · exact hpair

/-- The segments of a path with double colons between them are the path. -/
theorem intercalate_splitPath (s : List Char) : [':', ':'].intercalate (splitPath s) = s := by
  induction s using splitPath.induct with
  | case1 => rfl
  | case2 r ih =>
    obtain ⟨first, more, hsplit⟩ := List.exists_cons_of_ne_nil (splitPath_ne_nil r)
    rw [splitPath, hsplit, List.intercalate_cons_cons, ← hsplit, ih]
    rfl
  | case3 c r hpair hnil ih => exact absurd hnil (splitPath_ne_nil r)
  | case4 c r hpair first more hsplit ih =>
    have hcons : splitPath (c :: r) = (c :: first) :: more := by
      rw [splitPath, hsplit]
      exact hpair
    rw [hcons]
    rw [hsplit] at ih
    cases more with
    | nil =>
      rw [List.intercalate_singleton] at ih ⊢
      rw [ih]
    | cons second more =>
      rw [List.intercalate_cons_cons] at ih ⊢
      rw [← ih]
      rfl

/-- A text without colons goes into the first segment. -/
theorem splitPath_append {name : List Char} (h : ':' ∉ name) {s first : List Char}
    {more : List (List Char)} (hs : splitPath s = first :: more) :
    splitPath (name ++ s) = (name ++ first) :: more := by
  induction name with
  | nil => exact hs
  | cons c name ih =>
    rw [List.mem_cons, not_or] at h
    rw [List.cons_append, splitPath, ih h.2]
    · rfl
    · intro r hc
      exact absurd hc.symm h.1

/-- Names without colons are the segments of the path that is made of them. -/
theorem splitPath_intercalate {names : List (List Char)} (hne : names ≠ [])
    (h : ∀ n ∈ names, ':' ∉ n) : splitPath ([':', ':'].intercalate names) = names := by
  induction names with
  | nil => exact absurd rfl hne
  | cons n names ih =>
    obtain ⟨hn, hnames⟩ := List.forall_mem_cons.1 h
    cases names with
    | nil =>
      have hend : splitPath (n ++ []) = [n ++ []] := splitPath_append hn rfl
      rw [List.append_nil] at hend
      rw [List.intercalate_singleton, hend]
    | cons m names =>
      rw [List.intercalate_cons_cons, List.append_assoc]
      have hrest : splitPath ([':', ':'] ++ [':', ':'].intercalate (m :: names)) =
          [] :: m :: names := by
        show [] :: splitPath ([':', ':'].intercalate (m :: names)) = _
        rw [ih (List.cons_ne_nil _ _) hnames]
      rw [splitPath_append hn hrest, List.append_nil]

theorem colon_not_mem {n : String} (h : isIdentifier n = true) : ':' ∉ n.toList := by
  intro hmem
  have hc := List.all_eq_true.1 (all_continues_of_formIdentifier h) _ hmem
  exact absurd hc (by decide)

/-- The segments of a path that is made of identifiers are these. -/
theorem segments_intercalate {names : List String} (hne : names ≠ [])
    (h : ∀ n ∈ names, isIdentifier n = true) : segments ("::".intercalate names) = names := by
  have hsplit : splitPath ([':', ':'].intercalate (names.map String.toList)) =
      names.map String.toList := by
    refine splitPath_intercalate (by simpa using hne) fun cs hcs => ?_
    obtain ⟨n, hn, rfl⟩ := List.mem_map.1 hcs
    exact colon_not_mem (h n hn)
  rw [segments, String.toList_intercalate]
  show (splitPath ([':', ':'].intercalate (names.map String.toList))).map String.ofList = names
  rw [hsplit, List.map_map]
  exact List.map_id'' (fun n => String.ofList_toList) names

/-- What the check of a path accepts. -/
theorem isModulePath_iff {path : String} : isModulePath path = true ↔ LeadsToModule path := by
  constructor
  · intro h
    refine ⟨segments path, ?_, List.all_eq_true.1 h, ?_⟩
    · unfold segments
      intro hnil
      exact splitPath_ne_nil _ (List.map_eq_nil_iff.1 hnil)
    · rw [← String.toList_inj, String.toList_intercalate, segments, List.map_map]
      have hid : (splitPath path.toList).map (String.toList ∘ String.ofList) =
          splitPath path.toList := List.map_id'' (fun cs => String.toList_ofList) _
      rw [hid]
      exact (intercalate_splitPath path.toList).symm
  · rintro ⟨names, hne, hid, rfl⟩
    rw [isModulePath, segments_intercalate hne hid]
    exact List.all_eq_true.2 hid

end Rust

/-! ## Outcomes -/

/-- What the renderer for Rust says about a path that leads to no module. -/
def Rust.pathFailure (path : String) : Failure :=
  .render "rust" s!"vocab.import_path '{path}' is not a Rust module path"

namespace Settings

/-- What becomes of settings, by their target. -/
structure Outcome (s : Settings) : Prop where
  go : s.target = "go" → ∃ text, s.unit = .ok text
  rust : s.target = "rust" → Rust.LeadsToModule s.vocabulary.importPath →
    ∃ text, s.unit = .ok text
  noModule : s.target = "rust" → ¬Rust.LeadsToModule s.vocabulary.importPath →
    s.unit = .error (Rust.pathFailure s.vocabulary.importPath)
  unknown : s.target ∉ knownTargets →
    s.unit = .error (.settings (.unknownTarget s.target Catalogue.standard.names))

/-- The renderers that come with the program are those of the known targets. -/
theorem names_standard : Catalogue.standard.names = knownTargets := by decide

theorem get?_standard_eq_none {name : String} (h : name ∉ knownTargets) :
    Catalogue.standard.get? name = none := by
  refine List.find?_eq_none.2 fun r hr hname => h ?_
  rw [← names_standard, ← (beq_iff_eq.1 hname : r.name = name)]
  exact List.mem_map_of_mem hr

/-- The import of the vocabulary can be written for the paths that lead to a module. -/
theorem useVocabulary_isOk {v : Vocabulary} (h : Rust.LeadsToModule v.importPath) :
    ∃ useLine, Rust.useVocabulary v = .ok useLine := by
  unfold Rust.useVocabulary
  rw [Rust.isModulePath_iff.2 h, if_neg (by simp)]
  split
  · exact ⟨_, rfl⟩
  · exact ⟨_, rfl⟩

theorem useVocabulary_eq_error {v : Vocabulary} (h : ¬Rust.LeadsToModule v.importPath) :
    Rust.useVocabulary v = .error (Rust.pathFailure v.importPath) := by
  have hno : Rust.isModulePath v.importPath = false :=
    Bool.eq_false_iff.2 fun hyes => h (Rust.isModulePath_iff.1 hyes)
  unfold Rust.useVocabulary
  rw [hno]
  rfl

/-- The outcome of any settings. -/
theorem outcome (s : Settings) : s.Outcome where
  go h := ⟨_, unit_of_go h⟩
  rust h hpath := by
    obtain ⟨useLine, huse⟩ := useVocabulary_isOk hpath
    refine ⟨unlines (Rust.unitLines s useLine), ?_⟩
    rw [Settings.unit, renderer_rust h]
    exact Rust.unit_eq huse
  noModule h hpath := by
    rw [Settings.unit, renderer_rust h]
    exact Rust.unit_error (useVocabulary_eq_error hpath)
  unknown h := by
    rw [Settings.unit, renderer, get?_standard_eq_none h]

/-- Settings from a file have a known target, and whatever changes they go through, each outcome
of the settings in the end is told by their target and by the path of their vocabulary. A target
that no renderer has was given by one of the changes. -/
theorem outcome_changedBy {f : SettingsFile} {s : Settings} (h : f.toSettings = .ok s)
    (cs : List Change) :
    s.target ∈ Catalogue.standard.names ∧ (s.changedBy cs).Outcome ∧
      ((s.changedBy cs).target ∈ Catalogue.standard.names ∨
        .target (s.changedBy cs).target ∈ cs) := by
  rw [names_standard]
  refine ⟨?_, outcome _, known_or_given h cs⟩
  -- Without any change nothing was given, so it is the file's own target that is known.
  rcases known_or_given h [] with hknown | hgiven
  · exact hknown
  · exact absurd hgiven List.not_mem_nil

end Settings

/-- A path that is one for Go and not for Rust, a target that nothing renders, and back to Rust. -/
theorem outcome_of_retargeted : ∃ s, SettingsFile.toSettings {} = .ok s ∧
    (s.changedBy [.target "cobol", .vocabularyPath "activity/vocab", .target "rust"]).unit =
      .error (Rust.pathFailure "activity/vocab") := by
  have hfile : ∃ s, SettingsFile.toSettings {} = .ok s ∧
      (s.changedBy [.target "cobol", .vocabularyPath "activity/vocab", .target "rust"]).target =
        "rust" ∧
      (s.changedBy [.target "cobol", .vocabularyPath "activity/vocab",
        .target "rust"]).vocabulary.importPath = "activity/vocab" := by
    refine ⟨_, rfl, rfl, rfl⟩
  obtain ⟨s, hs, htarget, hpath⟩ := hfile
  refine ⟨s, hs, ?_⟩
  have houtcome := (Settings.outcome_changedBy hs _).2.1.noModule htarget
  rw [hpath] at houtcome
  refine houtcome fun h => ?_
  exact absurd (Rust.isModulePath_iff.2 h) (by decide)

end UniformIter
