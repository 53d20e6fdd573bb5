import Mathlib.Data.List.TakeWhile
import UniformIter.Proofs.Unit.Lines
import UniformIter.Proofs.Unit.Newlines

/-!
# What a unit in Go imports and does

What a unit in Go imports is written in its preamble, and what it does with that stands in its
other parts. `importsIn` and `statement?` read the two from the lines of its text.

The first group of imports is that of the standard library, whatever the settings. Behind it
stands the first line of what imports the vocabulary, and more of it only if its path goes over
the end of a line (`importsIn_textLines`). What the other lines do is told of the lines that were
written (`finds_unitLines`), and so of the text if no free text goes over the end of a line
(`finds_textLines`).
-/

namespace UniformIter.Go

open Scan

/-! ## Reading -/

/-- The import declaration of a unit, in two groups of lines. -/
structure Imports where
  /-- What is imported of the standard library. -/
  standard : List (List Char)
  /-- What is imported of other packages. -/
  other : List (List Char)
  deriving DecidableEq

/-- The imports in the lines of a unit: what stands between the brackets, with an empty line
between the two groups. -/
def importsIn (lines : List (List Char)) : Imports :=
  let block := (lines.dropWhile (· != "import (".toList)).tail.takeWhile (· != ")".toList)
  ⟨block.takeWhile (· != []), (block.dropWhile (· != [])).tail⟩

/-- The line that imports a package under its own name. -/
def importLine (path : String) : List Char := s!"\t\"{path}\"".toList

/-- What a line does for the unit as a whole. -/
inductive Statement where
  /-- It opens the dispatch function. -/
  | function (name : String)
  /-- It tests for a missing argument. -/
  | nilTest
  /-- It opens the struct of an adapter. -/
  | adapter (name : String)
  deriving DecidableEq

/-- What a line does, told from its front. -/
def statement? (l : List Char) : Option Statement :=
  match nameBetween? "func " "(iterable " l with
  | some name => some (.function name)
  | none =>
    match nameBetween? "type " " struct \x7b" l with
    | some name => some (.adapter name)
    | none => if l == "\tif iterable == nil \x7b".toList then some .nilTest else none

variable {s : Settings}

/-! ## The import declaration -/

/-- The declaration ends where its bracket closes, and its first group at the first empty line. -/
theorem importsIn_append {before group more : List (List Char)}
    (hb : ∀ l ∈ before, (l != "import (".toList) = true)
    (hg : ∀ l ∈ group, (l != ")".toList) = true ∧ (l != []) = true)
    (hm : ∀ l ∈ more, (l != ")".toList) = true) (hgap : ∀ l ∈ more.head?, l = [])
    (rest : List (List Char)) :
    importsIn (before ++ "import (".toList :: ((group ++ more) ++ ")".toList :: rest)) =
      ⟨group, more.tail⟩ := by
  have hblock : ∀ l ∈ group ++ more, (l != ")".toList) = true := by
    intro l hl
    rcases List.mem_append.1 hl with h | h
    · exact (hg l h).1
    · exact hm l h
  have hmore : more.takeWhile (· != []) = [] ∧ more.dropWhile (· != []) = more := by
    cases more with
    | nil => exact ⟨rfl, rfl⟩
    | cons l more =>
      obtain rfl : l = [] := hgap l rfl
      exact ⟨rfl, rfl⟩
  unfold importsIn
  rw [List.dropWhile_append_of_pos hb, List.dropWhile_cons_of_neg (by decide), List.tail_cons,
    List.takeWhile_append_of_pos hblock, List.takeWhile_cons_of_neg (by decide), List.append_nil]
  dsimp only
  rw [List.takeWhile_append_of_pos fun l hl => (hg l hl).2,
    List.dropWhile_append_of_pos fun l hl => (hg l hl).2, hmore.1, hmore.2, List.append_nil]

/-- The import declaration opens behind the package clause. -/
theorem ne_open_front (s : Settings) :
    ∀ l ∈ [banner, "", s!"package {s.package}", ""].map String.toList,
      (l != "import (".toList) = true := by
  simp only [List.map_cons, List.map_nil, List.forall_mem_cons, String.toList_append]
  exact ⟨rfl, rfl, rfl, rfl, fun _ h => absurd h List.not_mem_nil⟩

/-- The imports of the standard library are one group. -/
theorem ne_close_standard (s : Settings) : ∀ l ∈ (standardImports s).map importLine,
    (l != ")".toList) = true ∧ (l != []) = true := by
  intro l hl
  obtain ⟨path, -, rfl⟩ := List.mem_map.1 hl
  simp only [importLine, String.toList_append]
  exact ⟨rfl, rfl⟩

theorem map_importLine (paths : List String) :
    paths.map importLine = (paths.map fun path => s!"\t\"{path}\"").map String.toList :=
  List.map_map.symm

/-- The line that imports the vocabulary. -/
def vocabularyLine (s : Settings) : List Char := s!"\t{vocabularyImport s.vocabulary}".toList

theorem vocabularyLine_firstLine_ne (s : Settings) :
    ((vocabularyLine s).takeWhile (· != '\n') != ")".toList) = true := by
  rw [vocabularyLine, String.toList_append]
  rfl

theorem bne_newline {s : List Char} (h : '\n' ∉ s) : ∀ c ∈ s, (c != '\n') = true := by
  intro c hc
  rw [bne_iff_ne]
  rintro rfl
  exact h hc

/-- A text begins with its first line, and is that line if it goes over the end of none. -/
theorem exists_textLines (s : List Char) :
    ∃ more, textLines s = s.takeWhile (· != '\n') :: more ∧ ('\n' ∉ s → more = []) := by
  obtain ⟨line, rest, rfl, hline, hrest⟩ := exists_run (· != '\n') s
  have hno : '\n' ∉ line := fun hmem => absurd (hline '\n' hmem) (by decide)
  rw [(takeWhile_run hline hrest).1, textLines]
  cases rest with
  | nil => exact ⟨[], by rw [List.append_nil, List.splitOn_eq_singleton hno], fun _ => rfl⟩
  | cons c rest =>
    obtain rfl : c = '\n' := by simpa using hrest c rfl
    refine ⟨textLines rest, ?_, fun h => absurd (by simp) h⟩
    rw [List.splitOn_append_cons_self, List.splitOn_eq_singleton hno]
    rfl

/-- The first closing bracket ends the lines before it. -/
theorem exists_close (ls rest : List (List Char)) :
    ∃ before after, ls ++ ")".toList :: rest = before ++ ")".toList :: after ∧
      (∀ l ∈ before, (l != ")".toList) = true) ∧ (ls = [] → before = []) := by
  obtain ⟨before, after, heq, hno⟩ :=
    List.eq_append_cons_of_mem (List.mem_append_right ls (List.mem_cons_self (l := rest)))
  refine ⟨before, after, heq, fun l hl => bne_iff_ne.2 fun h => hno (h ▸ hl), ?_⟩
  rintro rfl
  cases before with
  | nil => rfl
  | cons l before => exact absurd (by rw [(List.cons.inj heq).1]; exact List.mem_cons_self) hno

/-- The lines of a unit's text, up to what it imports of other packages and behind that. -/
theorem textLines_split (hs : s.Sound) : ∃ rest,
    textLines (unlines (unitLines s)).toList =
      [banner, "", s!"package {s.package}", ""].map String.toList ++
        "import (".toList :: ((standardImports s).map importLine ++
          ((if usesVocabulary s then [] :: textLines (vocabularyLine s) else []) ++
            ")".toList :: rest)) := by
  refine ⟨("" :: (dispatch s ++ s.registry.supported.flatMap (adapter s))).flatMap
    (fun l => textLines l.toList) ++ [[]], ?_⟩
  have hfront := flatMap_textLines fun l hl => without_frontLines hs (c := '\n') rfl l hl
  have hlines : (frontLines s).map String.toList =
      [banner, "", s!"package {s.package}", ""].map String.toList ++
        "import (".toList :: (standardImports s).map importLine := by
    rw [map_importLine, frontLines, List.map_append]
    rfl
  have hbracket : textLines ")".toList = [")".toList] := rfl
  have hnone : textLines "".toList = [[]] := rfl
  have hother : (if usesVocabulary s
      then ["", s!"\t{vocabularyImport s.vocabulary}"] else []).flatMap
        (fun l => textLines l.toList) =
      if usesVocabulary s then [] :: textLines (vocabularyLine s) else [] := by
    split
    · rw [List.flatMap_cons, List.flatMap_singleton, hnone, vocabularyLine, List.singleton_append]
    · rw [List.flatMap_nil]
  have hsplit : unitLines s = frontLines s ++ ((if usesVocabulary s
      then ["", s!"\t{vocabularyImport s.vocabulary}"] else []) ++
        ")" :: "" :: (dispatch s ++ s.registry.supported.flatMap (adapter s))) := by
    simp [unitLines, preamble, frontLines]
  rw [textLines_unlines, hsplit, List.flatMap_append, List.flatMap_append, hfront, hother, hlines,
    List.flatMap_cons, hbracket]
  simp only [List.append_assoc, List.cons_append, List.nil_append]

/-- What a unit's text imports: the standard library as its preamble says, and of the vocabulary
the first line of its import, with more behind that only if the import is no single line. -/
theorem importsIn_textLines (hs : s.Sound) : ∃ more,
    importsIn (textLines (unlines (unitLines s)).toList) =
      ⟨(standardImports s).map importLine,
        if usesVocabulary s then (vocabularyLine s).takeWhile (· != '\n') :: more else []⟩ ∧
    ('\n' ∉ vocabularyLine s → more = []) := by
  obtain ⟨rest, htext⟩ := textLines_split hs
  obtain ⟨more, hfirst, hmore⟩ := exists_textLines (vocabularyLine s)
  rw [htext]
  split
  next =>
    -- A closing bracket on a line of its own, in the path or behind it, ends the declaration.
    obtain ⟨before, after, hclose, hbefore, hnil⟩ := exists_close more rest
    have hother : ∀ l ∈ [] :: (vocabularyLine s).takeWhile (· != '\n') :: before,
        (l != ")".toList) = true :=
      List.forall_mem_cons.2 ⟨rfl,
        List.forall_mem_cons.2 ⟨vocabularyLine_firstLine_ne s, hbefore⟩⟩
    have hblock := importsIn_append (ne_open_front s) (ne_close_standard s) hother (by simp) after
    refine ⟨before, ?_, fun h => hnil (hmore h)⟩
    rw [hfirst, List.cons_append, List.cons_append, hclose]
    simpa only [List.append_assoc, List.cons_append, List.tail_cons] using hblock
  next =>
    have hblock := importsIn_append (ne_open_front s) (ne_close_standard s)
      (fun _ h => absurd h List.not_mem_nil) (by simp) rest
    refine ⟨[], ?_, fun _ => rfl⟩
    simpa only [List.append_assoc, List.nil_append, List.tail_nil] using hblock

theorem importsIn_textLines_of_lacks (hs : s.Sound) (h : Lacks s '\n') :
    importsIn (textLines (unlines (unitLines s)).toList) =
      ⟨(standardImports s).map importLine,
        if usesVocabulary s then [vocabularyLine s] else []⟩ := by
  obtain ⟨more, himports, hmore⟩ := importsIn_textLines hs
  rw [himports]
  split
  next huses =>
    have hmem : s!"\t{vocabularyImport s.vocabulary}" ∈ unitLines s := by
      simp [unitLines, preamble, huses]
    have hone : '\n' ∉ vocabularyLine s := without_unitLines hs rfl h _ hmem
    rw [hmore hone, List.takeWhile_eq_self_iff.2 (bne_newline hone)]
  next => rfl

/-! ## The other parts -/

theorem finds_nilCheck : Finds statement? (nilCheck.map String.toList) [.nilTest] :=
  .take rfl <| .text rfl <| .text rfl <| .text rfl .nil

theorem finds_dispatchCase (e : Entry) :
    Finds statement? ((dispatchCase s e).map String.toList) [] := by
  simp only [dispatchCase, List.map_cons, List.map_nil, String.toList_append, List.append_assoc]
  exact .front rfl <| .front rfl <| .text rfl <| .text rfl <| .text rfl <| .text rfl .nil

theorem finds_forward (name method result : String) :
    Finds statement? ((forward name method result).map String.toList) [] := by
  simp only [forward, List.map_cons, List.map_nil, String.toList_append, List.append_assoc]
  exact .front rfl <| .front rfl <| .text rfl <| .text rfl .nil

theorem finds_rewrap (name method interface cursor : String) :
    Finds statement? ((rewrap name method interface cursor).map String.toList) [] := by
  simp only [rewrap, List.map_cons, List.map_nil, String.toList_append, List.append_assoc]
  exact .front rfl <| .front rfl <| .text rfl <| .front rfl <| .text rfl <| .text rfl .nil

/-- A line that opens the struct of an adapter. -/
theorem statement?_adapter {name : String} (h : isIdentifier name = true) :
    statement? s!"type {name} struct \x7b".toList = some (.adapter name) := by
  have hread := nameBetween?_written "type " " struct \x7b" h rfl []
  have hline : s!"type {name} struct \x7b".toList =
      "type ".toList ++ (name.toList ++ (" struct \x7b".toList ++ [])) := by
    simp [toString]
  unfold statement?
  rw [hline, hread]
  rfl

/-- The line that opens the dispatch function. -/
theorem statement?_function {name : String} (h : isIdentifier name = true)
    (argument interface : String) :
    let arguments := s!"(iterable {argument})"
    statement? s!"func {name}{arguments} ({interface}, error) \x7b".toList =
      some (.function name) := by
  intro arguments
  have hread := nameBetween?_written "func " "(iterable " h rfl
    (argument.toList ++ (") (".toList ++ (interface.toList ++ ", error) \x7b".toList)))
  have hline : s!"func {name}{arguments} ({interface}, error) \x7b".toList =
      "func ".toList ++ (name.toList ++ ("(iterable ".toList ++
        (argument.toList ++ (") (".toList ++ (interface.toList ++ ", error) \x7b".toList))))) := by
    simp [arguments, toString]
  unfold statement?
  rw [hline, hread]

theorem finds_adapter (e : Entry) :
    Finds statement? ((adapter s e).map String.toList) [.adapter (adapterName e)] := by
  have hhead : Finds statement?
      (["", s!"type {adapterName e} struct \x7b",
        s!"\tp  {s.vocabulary.qualifier}.{e.container.text}",
        s!"\tit {s.vocabulary.qualifier}.{e.iterator.text}", "\x7d", ""].map String.toList)
      [.adapter (adapterName e)] := by
    have hstruct := statement?_adapter (isIdentifier_adapterName e)
    refine .pass rfl <| .take hstruct ?_
    simp only [List.map_cons, List.map_nil, String.toList_append, List.append_assoc]
    exact .front rfl <| .front rfl <| .text rfl <| .text rfl .nil
  have hforwards := (finds_forward (adapterName e) "HasAny" "bool").append <|
    (finds_forward (adapterName e) "IsIRI" "bool").append <|
    (finds_forward (adapterName e) "GetIRI" "*url.URL").append <|
    finds_forward (adapterName e) "GetType" s!"{s.vocabulary.qualifier}.Type"
  have hrewraps := (finds_rewrap (adapterName e) "Next" s.interface "i.it.Next()").append <|
    Finds.pass (by rfl : statement? [] = none) <|
    finds_rewrap (adapterName e) "End" s.interface "i.p.End()"
  have h := (hhead.append hforwards).append hrewraps
  simpa [adapter] using h

/-- The import of the vocabulary ends with a quotation mark, so it is no test. -/
theorem statement?_vocabularyImport (v : Vocabulary) :
    statement? s!"\t{vocabularyImport v}".toList = none := by
  have hend : ∃ cs, s!"\t{vocabularyImport v}".toList = '\t' :: (cs ++ ['"']) := by
    unfold vocabularyImport
    split
    · exact ⟨'"' :: v.importPath.toList, by simp [toString]⟩
    · exact ⟨v.qualifier.toList ++ (" \"".toList ++ v.importPath.toList), by simp [toString]⟩
  obtain ⟨cs, hcs⟩ := hend
  have hno : ('\t' :: (cs ++ ['"']) == "\tif iterable == nil \x7b".toList) = false := by
    rw [beq_eq_false_iff_ne]
    intro heq
    have hlast := congrArg List.getLast? heq
    rw [← List.cons_append, List.getLast?_concat] at hlast
    exact absurd hlast (by decide)
  rw [hcs]
  show (if ('\t' :: (cs ++ ['"']) == "\tif iterable == nil \x7b".toList) = true
    then some Statement.nilTest else none) = none
  rw [hno]
  rfl

theorem finds_preamble (s : Settings) : Finds statement? ((preamble s).map String.toList) [] := by
  have hfront : Finds statement?
      ([banner, "", s!"package {s.package}", "", "import ("].map String.toList) [] := by
    simp only [List.map_cons, List.map_nil, String.toList_append]
    exact .text rfl <| .text rfl <| .front rfl <| .text rfl <| .text rfl .nil
  have hstandard : ∀ paths : List String,
      Finds statement? ((paths.map fun path => s!"\t\"{path}\"").map String.toList) [] := by
    intro paths
    induction paths with
    | nil => exact .nil
    | cons path paths ih =>
      simp only [List.map_cons, String.toList_append, List.append_assoc]
      exact .front rfl ih
  have hother : Finds statement? ((if usesVocabulary s
      then ["", s!"\t{vocabularyImport s.vocabulary}"] else []).map String.toList) [] := by
    split
    · exact .pass rfl <| .pass (statement?_vocabularyImport _) .nil
    · exact .nil
  have hend : Finds statement? ([")", ""].map String.toList) [] := .pass rfl <| .pass rfl .nil
  have h := ((hfront.append (hstandard (standardImports s))).append hother).append hend
  rw [preamble, List.map_append, List.map_append, List.map_append]
  exact h

/-- What a unit does: its dispatch function opens, tests for a missing argument if it has to, and
each supported entry gets an adapter. -/
def statements (s : Settings) : List Statement :=
  .function s.dispatch.function :: (if s.dispatch.checkNil then [.nilTest] else []) ++
    s.registry.supported.map fun e => .adapter (adapterName e)

theorem finds_unitLines (hf : isIdentifier s.dispatch.function = true) :
    Finds statement? ((unitLines s).map String.toList) (statements s) := by
  have hnil : Finds statement?
      ((if s.dispatch.checkNil then nilCheck else []).map String.toList)
      (if s.dispatch.checkNil then [.nilTest] else []) := by
    split
    · exact finds_nilCheck
    · exact .nil
  have hswitch : statement? (switchLine s).toList = none := by
    unfold switchLine
    split <;> rfl
  have hcases : Finds statement? ((s.registry.supported.flatMap (dispatchCase s)).map String.toList)
      [] := by
    have h : Finds statement? ((s.registry.supported.flatMap (dispatchCase s)).map String.toList)
        (s.registry.supported.flatMap fun _ => []) := .flatMap finds_dispatchCase
    rwa [List.flatMap_eq_nil_iff.2 fun _ _ => rfl] at h
  have hdefault : Finds statement?
      (["\tdefault:", "\t\treturn nil, fmt.Errorf(\"type=%T not supported\", iterable)",
        "\t\x7d", "\x7d"].map String.toList) [] :=
    .text rfl <| .text rfl <| .text rfl <| .text rfl .nil
  have hdispatch : Finds statement? ((dispatch s).map String.toList)
      (.function s.dispatch.function :: if s.dispatch.checkNil then [.nilTest] else []) := by
    have h := hnil.append (.pass hswitch (hcases.append hdefault))
    have hall := Finds.take (statement?_function hf s.dispatch.argumentType s.interface) h
    simpa [dispatch] using hall
  have hadapters : Finds statement? ((s.registry.supported.flatMap (adapter s)).map String.toList)
      (s.registry.supported.flatMap fun e => [.adapter (adapterName e)]) := .flatMap finds_adapter
  rw [← List.map_eq_flatMap] at hadapters
  have h := ((finds_preamble s).append hdispatch).append hadapters
  rw [unitLines, List.map_append, List.map_append]
  exact h

/-- What a unit's text does, if no free text goes over the end of a line. -/
theorem finds_textLines (hs : s.Sound) (h : Lacks s '\n') :
    (textLines (unlines (unitLines s)).toList).filterMap statement? = statements s := by
  have hempty : [([] : List Char)].filterMap statement? = [] := rfl
  rw [textLines_unit hs h, List.filterMap_append, finds_unitLines hs.function, hempty,
    List.append_nil]

end UniformIter.Go
