import UniformIter.Proofs.Unit.Findings
import UniformIter.Proofs.Unit.Outcome

/-!
# Where the lines of a unit end

Whatever settings a unit in Rust is made from, no name in it goes over the end of a line, since
names are identifiers and the vocabulary's path is made of them. So the lines of its text are
those that were written (`Rust.textLines_unit`), and what is said about the written lines is said
about the text.

For Go this is so if the two free texts of a unit, the argument type and the path of an import,
do not go over the end of a line either (`Go.textLines_unit`). In Go a semicolon ends a clause as
well, so what a line holds is one clause only if there is none of them in the free texts
(`Go.clauses_unit`).
-/

namespace UniformIter

namespace Rust

open Scan

variable {s : Settings}

/-- What stands in a path stands in one of its segments, or between them. -/
theorem mem_intercalate {c : Char} {sep : List Char} {names : List (List Char)}
    (h : c ∈ sep.intercalate names) : c ∈ sep ∨ ∃ n ∈ names, c ∈ n := by
  induction names with
  | nil => exact absurd h List.not_mem_nil
  | cons n names ih =>
    cases names with
    | nil =>
      rw [List.intercalate_singleton] at h
      exact .inr ⟨n, List.mem_cons_self, h⟩
    | cons m names =>
      rw [List.intercalate_cons_cons, List.mem_append, List.mem_append] at h
      rcases h with (h | h) | h
      · exact .inr ⟨n, List.mem_cons_self, h⟩
      · exact .inl h
      · rcases ih h with h | ⟨k, hk, h⟩
        · exact .inl h
        · exact .inr ⟨k, List.mem_cons_of_mem _ hk, h⟩

/-- A path that leads to a module is made of names and colons. -/
theorem colon_or_continues {path : String} (h : LeadsToModule path) {c : Char}
    (hc : c ∈ path.toList) : c = ':' ∨ continuesIdentifier c = true := by
  obtain ⟨names, -, hid, rfl⟩ := h
  rw [String.toList_intercalate] at hc
  rcases mem_intercalate hc with hsep | ⟨cs, hcs, hname⟩
  · left
    simpa using hsep
  · obtain ⟨n, hn, rfl⟩ := List.mem_map.1 hcs
    exact .inr (List.all_eq_true.1 (all_continues_of_formIdentifier (hid n hn)) c hname)

theorem isLine_path {path : String} (h : LeadsToModule path) : IsLine path := by
  intro hmem
  rcases colon_or_continues h hmem with heq | hname
  · exact absurd heq (by decide)
  · exact absurd hname (by decide)

theorem isLine_useVocabulary {v : Vocabulary} {useLine : String}
    (hq : isIdentifier v.qualifier = true) (h : useVocabulary v = .ok useLine) :
    IsLine useLine := by
  have hqualifier := isLine_of_isIdentifier hq
  unfold useVocabulary at h
  split at h
  · cases h
  next hno =>
    have hpath := isLine_path (isModulePath_iff.1 (by simpa using hno))
    split at h
    all_goals
      cases h
      simp only [isLine_append, toString, hpath, hqualifier, and_true]
      and_intros
      all_goals exact isLine_text rfl

theorem isLine_preamble (hs : s.Sound) {useLine : String} (huse : IsLine useLine) :
    ∀ l ∈ preamble s useLine, IsLine l := by
  have hp := isLine_of_isIdentifier hs.package
  unfold preamble
  split
  all_goals
    simp only [List.cons_append, List.nil_append, List.forall_mem_cons, isLine_append, toString,
      hp, huse, List.not_mem_nil, false_implies, implies_true, true_and, and_true]
    and_intros
    all_goals exact isLine_text rfl

theorem isLine_dispatch (hs : s.Sound) : ∀ l ∈ dispatch s, IsLine l := by
  have hf : IsLine (functionName s) := isLine_of_isIdentifier (isIdentifier_snakeCase hs.function)
  have hi := isLine_of_isIdentifier hs.interface
  have he := isLine_of_isIdentifier (isIdentifier_errorName hs.interface)
  have hq := isLine_of_isIdentifier hs.qualifier
  have hc : ∀ e : Entry, IsLine e.container.text := fun e =>
    isLine_of_isIdentifier e.iterator.isIdentifier_container
  have ha : ∀ e, IsLine (adapterName s e) := fun e =>
    isLine_of_isIdentifier (isIdentifier_adapterName hs.interface e)
  have hvariants : ∀ l ∈ s.registry.supported.map (fun e =>
      s!"    {e.container.text}({s.vocabulary.qualifier}::{e.container.text}),"), IsLine l := by
    rw [List.forall_mem_map]
    intro e _
    simp only [isLine_append, toString, hc, hq, and_true]
    and_intros
    all_goals exact isLine_text rfl
  have harms : ∀ l ∈ s.registry.supported.flatMap (dispatchArm s), IsLine l := by
    rw [List.forall_mem_flatMap]
    intro e _
    simp only [dispatchArm, List.forall_mem_cons, isLine_append, toString, hc, ha,
      List.not_mem_nil, false_implies, implies_true, and_true]
    and_intros
    all_goals exact isLine_text rfl
  unfold dispatch signature
  split
  all_goals
    simp only [errorType, interfaceTrait, iterableEnum, List.forall_mem_append,
      List.forall_mem_cons, isLine_append, toString, hf, hi, he, hq, List.not_mem_nil,
      false_implies, implies_true, and_true]
    and_intros
    -- What is left, beside the parts for the entries, are the texts between the names.
    all_goals first | exact hvariants | exact harms | exact isLine_text rfl

theorem isLine_adapter (hs : s.Sound) (e : Entry) : ∀ l ∈ adapter s e, IsLine l := by
  have hi := isLine_of_isIdentifier hs.interface
  have hq := isLine_of_isIdentifier hs.qualifier
  have hc : IsLine e.container.text :=
    isLine_of_isIdentifier e.iterator.isIdentifier_container
  have hit := isLine_of_isIdentifier e.iterator.isIdentifier_text
  have ha := isLine_of_isIdentifier (isIdentifier_adapterName hs.interface e)
  simp only [adapter, forward, rewrap, List.cons_append, List.nil_append, List.forall_mem_cons,
    isLine_append, toString, hi, hq, hc, hit, ha, List.not_mem_nil, false_implies, implies_true,
    and_true]
  and_intros
  all_goals exact isLine_text rfl

/-- The lines of a unit's text are those that it was written from. -/
theorem textLines_unit (hs : s.Sound) {useLine : String}
    (hu : useVocabulary s.vocabulary = .ok useLine) :
    textLines (unlines (unitLines s useLine)).toList =
      (unitLines s useLine).map String.toList ++ [[]] := by
  have huse := isLine_useVocabulary hs.qualifier hu
  refine textLines_of_isLine fun l hl => ?_
  rw [unitLines, List.mem_append, List.mem_append, List.mem_flatMap] at hl
  rcases hl with (h | h) | ⟨e, -, h⟩
  · exact isLine_preamble hs huse l h
  · exact isLine_dispatch hs l h
  · exact isLine_adapter hs e l h

end Rust

namespace Go

open Scan

/-- What ends a clause in Go: the end of a line, or a semicolon. -/
def endsClause (c : Char) : Bool := c == '\n' || c == ';'

/-- A character that does not stand in the free texts of a unit: the argument type, and the
path of the vocabulary where that is imported. -/
structure Lacks (s : Settings) (c : Char) : Prop where
  argument : Without c s.dispatch.argumentType
  path : usesVocabulary s = true → Without c s.vocabulary.importPath

variable {s : Settings} {c : Char}

theorem without_constant {cs : List Char} (h : cs.all (fun d => !endsClause d) = true)
    (hc : endsClause c = true) : Without c (String.ofList cs) := by
  refine without_text (List.all_eq_true.2 fun d hd => bne_iff_ne.2 ?_)
  rintro rfl
  have hno := List.all_eq_true.1 h _ hd
  rw [hc] at hno
  exact absurd hno (by decide)

theorem without_of_isIdentifier {name : String} (h : isIdentifier name = true)
    (hc : endsClause c = true) : Without c name := by
  refine not_mem_of_isIdentifier h ?_
  rw [endsClause, Bool.or_eq_true, beq_iff_eq, beq_iff_eq] at hc
  rcases hc with rfl | rfl <;> decide

/-- The lines of a unit up to its last import of the standard library. -/
def frontLines (s : Settings) : List String :=
  [banner, "", s!"package {s.package}", "", "import ("] ++
    (standardImports s).map fun path => s!"\t\"{path}\""

theorem without_frontLines (hs : s.Sound) (hc : endsClause c = true) :
    ∀ l ∈ frontLines s, Without c l := by
  have hp := without_of_isIdentifier hs.package hc
  have hstandard : ∀ path ∈ standardImports s, Without c path := by
    unfold standardImports
    cases s.dispatch.checkNil <;> cases hasAdapters s
    all_goals
      simp only [List.forall_mem_append, List.forall_mem_cons, List.not_mem_nil, false_implies,
        implies_true, and_true, true_and, if_true, Bool.false_eq_true, if_false]
      and_intros
      all_goals exact without_constant rfl hc
  have hpaths : ∀ path ∈ standardImports s, Without c s!"\t\"{path}\"" := by
    intro path hpath
    simp only [without_append, toString, hstandard path hpath, and_true]
    and_intros
    all_goals exact without_constant rfl hc
  rw [frontLines, List.forall_mem_append, List.forall_mem_map]
  refine ⟨?_, hpaths⟩
  simp only [List.forall_mem_cons, without_append, toString, hp, List.not_mem_nil,
    false_implies, implies_true, and_true]
  and_intros
  all_goals exact without_constant rfl hc

theorem without_preamble (hs : s.Sound) (hc : endsClause c = true) (h : Lacks s c) :
    ∀ l ∈ preamble s, Without c l := by
  have hq := without_of_isIdentifier hs.qualifier hc
  have hother : ∀ l ∈ (if usesVocabulary s then
      ["", s!"\t{vocabularyImport s.vocabulary}"] else []), Without c l := by
    split
    next huses =>
      have hpath := h.path huses
      unfold vocabularyImport
      split
      all_goals
        simp only [List.forall_mem_cons, without_append, toString, hq, hpath, List.not_mem_nil,
          false_implies, implies_true, true_and, and_true]
        and_intros
        all_goals exact without_constant rfl hc
    next => exact fun _ hmem => absurd hmem List.not_mem_nil
  have hsplit : preamble s = frontLines s ++ (if usesVocabulary s then
      ["", s!"\t{vocabularyImport s.vocabulary}"] else []) ++ [")", ""] := rfl
  rw [hsplit, List.forall_mem_append, List.forall_mem_append]
  refine ⟨⟨without_frontLines hs hc, hother⟩, ?_⟩
  simp only [List.forall_mem_cons]
  exact ⟨without_constant rfl hc, without_constant rfl hc,
    fun _ hmem => absurd hmem List.not_mem_nil⟩

theorem without_dispatch (hs : s.Sound) (hc : endsClause c = true) (h : Lacks s c) :
    ∀ l ∈ dispatch s, Without c l := by
  have hf := without_of_isIdentifier hs.function hc
  have hi := without_of_isIdentifier hs.interface hc
  have hq := without_of_isIdentifier hs.qualifier hc
  have hcontainer : ∀ e : Entry, Without c e.container.text := fun e =>
    without_of_isIdentifier e.iterator.isIdentifier_container hc
  have ha : ∀ e, Without c (adapterName e) := fun e =>
    without_of_isIdentifier (isIdentifier_adapterName e) hc
  have hcases : ∀ l ∈ s.registry.supported.flatMap (dispatchCase s), Without c l := by
    rw [List.forall_mem_flatMap]
    intro e _
    simp only [dispatchCase, List.forall_mem_cons, without_append, toString, hq, hcontainer, ha,
      List.not_mem_nil, false_implies, implies_true, and_true]
    and_intros
    all_goals exact without_constant rfl hc
  have hnil : ∀ l ∈ (if s.dispatch.checkNil then nilCheck else []), Without c l := by
    split
    · simp only [nilCheck, List.forall_mem_cons, List.not_mem_nil, false_implies, implies_true,
        and_true]
      and_intros
      all_goals exact without_constant rfl hc
    · exact fun _ hmem => absurd hmem List.not_mem_nil
  have hswitch : Without c (switchLine s) := by
    unfold switchLine
    split <;> exact without_constant rfl hc
  simp only [dispatch, List.forall_mem_append, List.forall_mem_cons, without_append, toString,
    hf, hi, h.argument, hswitch, List.not_mem_nil, false_implies, implies_true, true_and, and_true]
  and_intros
  -- What is left, beside the parts for the entries, are the texts between the names.
  all_goals first | exact hnil | exact hcases | exact without_constant rfl hc

theorem without_forward (hc : endsClause c = true) {name method result : String}
    (hn : Without c name) (hm : Without c method) (hr : Without c result) :
    ∀ l ∈ forward name method result, Without c l := by
  simp only [forward, List.forall_mem_cons, without_append, toString, hn, hm, hr,
    List.not_mem_nil, false_implies, implies_true, and_true]
  and_intros
  all_goals exact without_constant rfl hc

theorem without_rewrap (hc : endsClause c = true) {name method interface cursor : String}
    (hn : Without c name) (hm : Without c method) (hi : Without c interface)
    (hu : Without c cursor) : ∀ l ∈ rewrap name method interface cursor, Without c l := by
  simp only [rewrap, List.forall_mem_cons, without_append, toString, hn, hm, hi, hu,
    List.not_mem_nil, false_implies, implies_true, and_true]
  and_intros
  all_goals exact without_constant rfl hc

theorem without_adapter (hs : s.Sound) (hc : endsClause c = true) (e : Entry) :
    ∀ l ∈ adapter s e, Without c l := by
  have hi := without_of_isIdentifier hs.interface hc
  have hq := without_of_isIdentifier hs.qualifier hc
  have hcontainer : Without c e.container.text :=
    without_of_isIdentifier e.iterator.isIdentifier_container hc
  have hit := without_of_isIdentifier e.iterator.isIdentifier_text hc
  have ha := without_of_isIdentifier (isIdentifier_adapterName e) hc
  have hhead : ∀ l ∈ ["", s!"type {adapterName e} struct \x7b",
      s!"\tp  {s.vocabulary.qualifier}.{e.container.text}",
      s!"\tit {s.vocabulary.qualifier}.{e.iterator.text}", "\x7d", ""], Without c l := by
    simp only [List.forall_mem_cons, without_append, toString, hq, hcontainer, hit, ha,
      List.not_mem_nil, false_implies, implies_true, and_true]
    and_intros
    all_goals exact without_constant rfl hc
  have htype : Without c s!"{s.vocabulary.qualifier}.Type" := by
    simp only [without_append, toString, hq, true_and]
    exact without_constant rfl hc
  have hforward : ∀ {method result : String}, Without c method → Without c result →
      ∀ l ∈ forward (adapterName e) method result, Without c l := without_forward hc ha
  have hrewrap : ∀ {method cursor : String}, Without c method → Without c cursor →
      ∀ l ∈ rewrap (adapterName e) method s.interface cursor, Without c l :=
    fun hm hu => without_rewrap hc ha hm hi hu
  unfold adapter
  simp only [List.forall_mem_append]
  refine ⟨⟨⟨⟨⟨⟨hhead, hforward ?_ ?_⟩, hforward ?_ ?_⟩, hforward ?_ ?_⟩, hforward ?_ htype⟩,
    hrewrap ?_ ?_⟩, List.forall_mem_cons.2 ⟨?_, hrewrap ?_ ?_⟩⟩
  all_goals exact without_constant rfl hc

/-- What does not stand in the free texts and ends a clause stands in no line of a unit. -/
theorem without_unitLines (hs : s.Sound) (hc : endsClause c = true) (h : Lacks s c) :
    ∀ l ∈ unitLines s, Without c l := by
  rw [unitLines, List.forall_mem_append, List.forall_mem_append, List.forall_mem_flatMap]
  exact ⟨⟨without_preamble hs hc h, without_dispatch hs hc h⟩,
    fun e _ => without_adapter hs hc e⟩

/-- The lines of a unit's text are those that it was written from. -/
theorem textLines_unit (hs : s.Sound) (h : Lacks s '\n') :
    textLines (unlines (unitLines s)).toList = (unitLines s).map String.toList ++ [[]] :=
  textLines_of_isLine (without_unitLines hs rfl h)

end Go

end UniformIter
