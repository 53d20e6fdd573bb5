import UniformIter.Proofs.Text.Brackets
import UniformIter.Proofs.Unit.Newlines

/-!
# Units whose brackets nest

Units are written line by line, and a bracket that one line opens is closed by another. No name
has a bracket in it, so all of them stand in the texts between the names, but for two texts that
Go takes as they are: the type of the argument and the path of the vocabulary. A reader of
brackets is led through each part of a unit here: parts that it passes over, and the lines around
the cases, behind which it waits for one bracket more. So the brackets of a whole unit nest
(`nests_of_toSettings`).
-/

namespace UniformIter

open Brackets

/-- The brackets in lines. -/
def bracketsOf (ls : List String) : List Char := ls.flatMap bracketsIn

theorem bracketsIn_unlines (ls : List String) : bracketsIn (unlines ls) = bracketsOf ls := by
  induction ls with
  | nil => rfl
  | cons l ls ih =>
    have hcons : unlines (l :: ls) = l ++ ("\n" ++ unlines ls) := by
      simp [unlines, String.append_assoc]
    have hbreak : bracketsIn "\n" = [] := rfl
    rw [hcons, bracketsIn_append, bracketsIn_append, hbreak, ih]
    rfl

theorem bracketsOf_nil : bracketsOf [] = [] := rfl

theorem bracketsOf_cons (l : String) (ls : List String) :
    bracketsOf (l :: ls) = bracketsIn l ++ bracketsOf ls := List.flatMap_cons

theorem bracketsOf_append (ls ms : List String) :
    bracketsOf (ls ++ ms) = bracketsOf ls ++ bracketsOf ms := List.flatMap_append

/-- What is written for every entry is passed over, if it is for each of them. -/
theorem passes_flatMap {es : List Entry} {lines : Entry → List String}
    (h : ∀ e, Passes (bracketsOf (lines e))) : Passes (bracketsOf (es.flatMap lines)) := by
  induction es with
  | nil => exact passes_nil
  | cons e es ih =>
    rw [List.flatMap_cons, bracketsOf_append]
    exact (h e).append ih

theorem bracketsIn_container (e : Entry) : bracketsIn e.container.text = [] :=
  bracketsIn_of_isIdentifier e.iterator.isIdentifier_container

theorem bracketsIn_iterator (e : Entry) : bracketsIn e.iterator.text = [] :=
  bracketsIn_of_isIdentifier e.iterator.isIdentifier_text

variable {s : Settings}

/-! ## Go -/

namespace Go

theorem passes_vocabularyImport {v : Vocabulary} (hq : isIdentifier v.qualifier = true)
    (hpath : Nests v.importPath) : Passes (bracketsIn s!"\t{vocabularyImport v}") := by
  have hqualifier := bracketsIn_of_isIdentifier hq
  have hline : bracketsIn s!"\t{vocabularyImport v}" = bracketsIn v.importPath := by
    unfold vocabularyImport
    split
    all_goals
      simp only [bracketsIn_append, toString, hqualifier]
      -- What is left beside the path are the texts around it.
      repeat rw [bracketsIn_text]
      exact List.append_nil _
  rw [hline]
  exact nests_iff.1 hpath

theorem passes_standardImports (s : Settings) :
    Passes (bracketsOf ((standardImports s).map fun path => s!"\t\"{path}\"")) := by
  intro awaited
  unfold standardImports
  cases s.dispatch.checkNil <;> cases hasAdapters s
  all_goals
    simp only [Bool.false_eq_true, if_true, if_false, List.nil_append, List.cons_append,
      List.append_nil, List.map_cons, List.map_nil, bracketsOf, List.flatMap_cons,
      List.flatMap_nil, bracketsIn_append, toString]
    repeat rw [bracketsIn_text]
    rfl

theorem passes_preamble (hs : s.Sound) (hpath : Nests s.vocabulary.importPath) :
    Passes (bracketsOf (preamble s)) := by
  have hpackage := bracketsIn_of_isIdentifier hs.package
  have hstandard := passes_standardImports s
  have hother : Passes (bracketsOf (if usesVocabulary s
      then ["", s!"\t{vocabularyImport s.vocabulary}"] else [])) := by
    split
    · rw [bracketsOf_cons, bracketsOf_cons]
      exact passes_nil.append ((passes_vocabularyImport hs.qualifier hpath).append passes_nil)
    · exact passes_nil
  intro awaited
  -- The imports stand between the brackets of the declaration.
  rw [preamble, bracketsOf_append, bracketsOf_append, bracketsOf_append, List.append_assoc,
    List.append_assoc, hstandard.readAll_between, hother.readAll_between]
  simp only [bracketsOf, List.flatMap_cons, List.flatMap_nil, bracketsIn_append, toString, banner,
    hpackage]
  repeat rw [bracketsIn_text]
  rfl

theorem passes_nilCheck : Passes (bracketsOf nilCheck) := by
  intro awaited
  simp only [bracketsOf, nilCheck, List.flatMap_cons, List.flatMap_nil]
  repeat rw [bracketsIn_text]
  rfl

theorem passes_dispatchCase (hq : isIdentifier s.vocabulary.qualifier = true) (e : Entry) :
    Passes (bracketsOf (dispatchCase s e)) := by
  have hqualifier := bracketsIn_of_isIdentifier hq
  have ha := bracketsIn_of_isIdentifier (isIdentifier_adapterName e)
  intro awaited
  simp only [bracketsOf, dispatchCase, List.flatMap_cons, List.flatMap_nil, bracketsIn_append,
    toString, hqualifier, ha, bracketsIn_container]
  repeat rw [bracketsIn_text]
  rfl

/-- The line that opens the dispatch function opens one bracket more than it closes, and so does
the one that opens the type switch. -/
theorem readAll_functionLine (hs : s.Sound) (harg : Nests s.dispatch.argumentType)
    (awaited rest : List Char) :
    let arguments := s!"(iterable {s.dispatch.argumentType})"
    readAll awaited
      (bracketsIn s!"func {s.dispatch.function}{arguments} ({s.interface}, error) \x7b" ++ rest) =
        readAll ('\x7d' :: awaited) rest := by
  have hf := bracketsIn_of_isIdentifier hs.function
  have hi := bracketsIn_of_isIdentifier hs.interface
  simp only [bracketsIn_append, toString, hf, hi, List.append_assoc, List.nil_append]
  repeat rw [bracketsIn_text]
  -- The argument type stands between the brackets of the parameters.
  rw [← List.append_assoc, (nests_iff.1 harg).readAll_between]
  rfl

theorem readAll_switchLine (s : Settings) (awaited rest : List Char) :
    readAll awaited (bracketsIn (switchLine s) ++ rest) = readAll ('\x7d' :: awaited) rest := by
  unfold switchLine
  split
  all_goals
    rw [bracketsIn_text]
    rfl

theorem passes_dispatch (hs : s.Sound) (harg : Nests s.dispatch.argumentType) :
    Passes (bracketsOf (dispatch s)) := by
  have hcases : Passes (bracketsOf (s.registry.supported.flatMap (dispatchCase s))) :=
    passes_flatMap (passes_dispatchCase hs.qualifier)
  have hnil : Passes (bracketsOf (if s.dispatch.checkNil then nilCheck else [])) := by
    split
    · exact passes_nilCheck
    · exact passes_nil
  intro awaited
  rw [dispatch, bracketsOf_append, bracketsOf_append, bracketsOf_append, bracketsOf_cons,
    bracketsOf_cons]
  simp only [bracketsOf_nil, List.append_nil, List.append_assoc]
  rw [readAll_functionLine hs harg, hnil.readAll_append, readAll_switchLine, hcases.readAll_append]
  -- Two brackets are awaited here, and the last two lines close them.
  simp only [bracketsOf, List.flatMap_cons, List.flatMap_nil]
  repeat rw [bracketsIn_text]
  rfl

theorem passes_adapter (hs : s.Sound) (e : Entry) : Passes (bracketsOf (adapter s e)) := by
  have hi := bracketsIn_of_isIdentifier hs.interface
  have hq := bracketsIn_of_isIdentifier hs.qualifier
  have ha := bracketsIn_of_isIdentifier (isIdentifier_adapterName e)
  intro awaited
  simp only [bracketsOf, adapter, forward, rewrap, List.cons_append, List.nil_append,
    List.flatMap_cons, List.flatMap_nil, bracketsIn_append, toString, hi, hq, ha,
    bracketsIn_container, bracketsIn_iterator]
  repeat rw [bracketsIn_text]
  rfl

end Go

/-! ## Rust -/

namespace Rust

theorem bracketsIn_path {path : String} (h : LeadsToModule path) : bracketsIn path = [] := by
  refine List.filter_eq_nil_iff.2 fun c hc => ?_
  rcases colon_or_continues h hc with rfl | hname
  · decide
  · rw [isBracket_of_continues hname]
    exact Bool.false_ne_true

theorem bracketsIn_useVocabulary {v : Vocabulary} {useLine : String}
    (hq : isIdentifier v.qualifier = true) (h : useVocabulary v = .ok useLine) :
    bracketsIn useLine = [] := by
  have hqualifier := bracketsIn_of_isIdentifier hq
  unfold useVocabulary at h
  split at h
  · cases h
  next hno =>
    have hpath := bracketsIn_path (isModulePath_iff.1 (by simpa using hno))
    split at h
    all_goals
      cases h
      simp only [bracketsIn_append, toString, hpath, hqualifier]
      repeat rw [bracketsIn_text]
      rfl

theorem passes_preamble (hs : s.Sound) {useLine : String}
    (hu : useVocabulary s.vocabulary = .ok useLine) :
    Passes (bracketsOf (preamble s useLine)) := by
  have hp := bracketsIn_of_isIdentifier hs.package
  have huse := bracketsIn_useVocabulary hs.qualifier hu
  intro awaited
  unfold preamble
  split
  all_goals
    simp only [bracketsOf, List.cons_append, List.nil_append, List.flatMap_cons, List.flatMap_nil,
      bracketsIn_append, toString, banner, hp, huse]
    repeat rw [bracketsIn_text]
    rfl

theorem passes_errorType (hs : s.Sound) : Passes (bracketsOf (errorType s)) := by
  have hf : bracketsIn (functionName s) = [] :=
    bracketsIn_of_isIdentifier (isIdentifier_snakeCase hs.function)
  have he := bracketsIn_of_isIdentifier (isIdentifier_errorName hs.interface)
  intro awaited
  simp only [bracketsOf, errorType, List.flatMap_cons, List.flatMap_nil, bracketsIn_append,
    toString, hf, he]
  repeat rw [bracketsIn_text]
  rfl

theorem passes_interfaceTrait (hs : s.Sound) : Passes (bracketsOf (interfaceTrait s)) := by
  have hi := bracketsIn_of_isIdentifier hs.interface
  have hq := bracketsIn_of_isIdentifier hs.qualifier
  intro awaited
  simp only [bracketsOf, interfaceTrait, List.flatMap_cons, List.flatMap_nil, bracketsIn_append,
    toString, hi, hq]
  repeat rw [bracketsIn_text]
  rfl

theorem passes_variants (hq : isIdentifier s.vocabulary.qualifier = true) :
    Passes (bracketsOf (s.registry.supported.map fun e =>
      s!"    {e.container.text}({s.vocabulary.qualifier}::{e.container.text}),")) := by
  have hqualifier := bracketsIn_of_isIdentifier hq
  rw [List.map_eq_flatMap]
  refine passes_flatMap fun e awaited => ?_
  simp only [bracketsOf, List.flatMap_cons, List.flatMap_nil, bracketsIn_append, toString,
    hqualifier, bracketsIn_container]
  repeat rw [bracketsIn_text]
  rfl

theorem passes_iterableEnum (hs : s.Sound) : Passes (bracketsOf (iterableEnum s)) := by
  have hf : bracketsIn (functionName s) = [] :=
    bracketsIn_of_isIdentifier (isIdentifier_snakeCase hs.function)
  intro awaited
  rw [iterableEnum, bracketsOf_append, bracketsOf_append, List.append_assoc,
    (passes_variants hs.qualifier).readAll_between]
  simp only [bracketsOf, List.flatMap_cons, List.flatMap_nil, bracketsIn_append, toString, hf]
  repeat rw [bracketsIn_text]
  rfl

/-- The signature opens the dispatch function, with the check for a missing argument or
without it. -/
theorem readAll_signature (hs : s.Sound) (awaited rest : List Char) :
    readAll awaited (bracketsOf (signature s) ++ rest) = readAll ('\x7d' :: awaited) rest := by
  have hf : bracketsIn (functionName s) = [] :=
    bracketsIn_of_isIdentifier (isIdentifier_snakeCase hs.function)
  have hi := bracketsIn_of_isIdentifier hs.interface
  have he := bracketsIn_of_isIdentifier (isIdentifier_errorName hs.interface)
  unfold signature
  split
  all_goals
    simp only [bracketsOf, List.flatMap_cons, List.flatMap_nil, bracketsIn_append, toString, hf,
      hi, he]
    repeat rw [bracketsIn_text]
    rfl

theorem passes_dispatchArm (hs : s.Sound) (e : Entry) : Passes (bracketsOf (dispatchArm s e)) := by
  have ha := bracketsIn_of_isIdentifier (isIdentifier_adapterName hs.interface e)
  intro awaited
  simp only [bracketsOf, dispatchArm, List.flatMap_cons, List.flatMap_nil, bracketsIn_append,
    toString, ha, bracketsIn_container]
  repeat rw [bracketsIn_text]
  rfl

theorem passes_dispatch (hs : s.Sound) : Passes (bracketsOf (dispatch s)) := by
  have he := bracketsIn_of_isIdentifier (isIdentifier_errorName hs.interface)
  have harms : Passes (bracketsOf (s.registry.supported.flatMap (dispatchArm s))) :=
    passes_flatMap (passes_dispatchArm hs)
  have hmatch : ∀ awaited rest, readAll awaited (bracketsIn "    match iterable \x7b" ++ rest) =
      readAll ('\x7d' :: awaited) rest := by
    intro awaited rest
    rw [bracketsIn_text]
    rfl
  intro awaited
  simp only [dispatch, bracketsOf_append, bracketsOf_cons, List.append_assoc]
  rw [(passes_errorType hs).readAll_append, (passes_interfaceTrait hs).readAll_append,
    (passes_iterableEnum hs).readAll_append, readAll_signature hs, hmatch, harms.readAll_append]
  -- Again two are awaited: that of the function and that of its `match`.
  simp only [bracketsOf_nil, bracketsIn_append, toString, he]
  repeat rw [bracketsIn_text]
  rfl

theorem passes_adapter (hs : s.Sound) (e : Entry) : Passes (bracketsOf (adapter s e)) := by
  have hi := bracketsIn_of_isIdentifier hs.interface
  have hq := bracketsIn_of_isIdentifier hs.qualifier
  have ha := bracketsIn_of_isIdentifier (isIdentifier_adapterName hs.interface e)
  intro awaited
  simp only [bracketsOf, adapter, forward, rewrap, List.cons_append, List.nil_append,
    List.flatMap_cons, List.flatMap_nil, bracketsIn_append, toString, hi, hq, ha,
    bracketsIn_container, bracketsIn_iterator]
  repeat rw [bracketsIn_text]
  rfl

end Rust

/-! ## Whole units -/

theorem Go.nests_unit (hs : s.Sound) (harg : Nests s.dispatch.argumentType)
    (hpath : Nests s.vocabulary.importPath) : Nests (unlines (unitLines s)) := by
  rw [nests_iff, bracketsIn_unlines, unitLines, bracketsOf_append, bracketsOf_append]
  exact ((passes_preamble hs hpath).append (passes_dispatch hs harg)).append
    (passes_flatMap (passes_adapter hs))

theorem Rust.nests_unit (hs : s.Sound) {useLine : String}
    (hu : useVocabulary s.vocabulary = .ok useLine) : Nests (unlines (unitLines s useLine)) := by
  rw [nests_iff, bracketsIn_unlines, unitLines, bracketsOf_append, bracketsOf_append]
  exact ((passes_preamble hs hu).append (passes_dispatch hs)).append
    (passes_flatMap (passes_adapter hs))

/-- The brackets of a unit that is generated from a settings file nest: in Rust always, and in Go
if those of the argument type and those of the vocabulary's path do. -/
theorem nests_of_toSettings {f : SettingsFile} {text : String} (hs : f.toSettings = .ok s)
    (ht : s.unit = .ok text) :
    (s.target = "rust" → Nests text) ∧
      (s.target = "go" → Nests s.dispatch.argumentType → Nests s.vocabulary.importPath →
        Nests text) := by
  have hsound := SettingsFile.sound_of_toSettings hs
  refine ⟨fun hrust => ?_, fun hgo harg hpath => ?_⟩
  · obtain ⟨useLine, hu, rfl⟩ := Settings.unit_of_rust hrust ht
    exact Rust.nests_unit hsound hu
  · rw [Settings.unit_of_go hgo] at ht
    cases ht
    exact Go.nests_unit hsound harg hpath

/-- A settings file for Go with brackets of every kind in both of the texts. -/
def bracketedTexts : SettingsFile where
  dispatch := { argumentType := "map[string]func(any) struct\x7b\x7d" }
  vocabulary := { importPath := "\x7ba\x7d/(vocab)[2]" }
  registry := ⟨["FooIterator"], []⟩

theorem nests_bracketedTexts :
    (∃ s text, bracketedTexts.toSettings = .ok s ∧ s.unit = .ok text ∧ s.target = "go" ∧
      Nests s.dispatch.argumentType ∧ Nests s.vocabulary.importPath ∧ Nests text) ∧
    ∃ s text, SettingsFile.toSettings { bracketedTexts with
        target := "rust", vocabulary := {} } = .ok s ∧
      s.unit = .ok text ∧ s.target = "rust" ∧ Nests text := by
  constructor
  · have hfile : ∃ s, bracketedTexts.toSettings = .ok s ∧ (∃ text, s.unit = .ok text) ∧
        s.target = "go" ∧ Nests s.dispatch.argumentType ∧ Nests s.vocabulary.importPath := by
      refine ⟨_, rfl, ⟨_, Settings.unit_of_go rfl⟩, rfl, ?_⟩
      decide
    obtain ⟨s, hs, ⟨text, ht⟩, hgo, harg, hpath⟩ := hfile
    exact ⟨s, text, hs, ht, hgo, harg, hpath, (nests_of_toSettings hs ht).2 hgo harg hpath⟩
  · have hfile : ∃ s, SettingsFile.toSettings { bracketedTexts with
        target := "rust", vocabulary := {} } = .ok s ∧ (∃ text, s.unit = .ok text) ∧
        s.target = "rust" := ⟨_, rfl, ⟨_, rfl⟩, rfl⟩
    obtain ⟨s, hs, ⟨text, ht⟩, hrust⟩ := hfile
    exact ⟨s, text, hs, ht, hrust, (nests_of_toSettings hs ht).1 hrust⟩

end UniformIter
