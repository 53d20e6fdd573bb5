import UniformIter.Proofs.Unit.Lines
import UniformIter.Proofs.Unit.Newlines

/-!
# What a unit in Rust declares

The names that a unit has among its types come from two kinds of lines: imports, which end with
the name, and declarations, which have it between a keyword and an opening bracket. `typeName?`
reads the one and the other, and `typeNames` says what it reads in a unit, in order. The variants
of the closed type stand between its brackets (`variantsIn`).
-/

namespace UniformIter

open Scan

namespace Rust

/-- The name that a line imports: the last one of its path, or the one that the path gets. -/
def importedName? (l : List Char) : Option String :=
  if "use ".toList.isPrefixOf l then
    some (String.ofList (l.dropLast.reverse.takeWhile continuesIdentifier).reverse)
  else none

/-- What declares a type. -/
def declarations : List String := ["pub enum ", "pub trait ", "pub struct "]

/-- The name that a line adds to the types of a unit, by an import or a declaration. -/
def typeName? (l : List Char) : Option String :=
  match importedName? l with
  | some name => some name
  | none => declarations.findSome? fun front => nameBetween? front " \x7b" l

variable {s : Settings}

/-! ### Imports -/

/-- The name at the end of an import is read as it was written. -/
theorem importedName?_written {before : List Char} {n : String} (hn : isIdentifier n = true)
    (hb : ∀ c ∈ ("use ".toList ++ before).getLast?, continuesIdentifier c = false) :
    importedName? ("use ".toList ++ (before ++ (n.toList ++ [';']))) = some n := by
  have hline : "use ".toList ++ (before ++ (n.toList ++ [';'])) =
      (("use ".toList ++ before) ++ n.toList) ++ [';'] := by
    simp only [List.append_assoc]
  have hword : ((("use ".toList ++ before) ++ n.toList).reverse).takeWhile continuesIdentifier =
      n.toList.reverse := by
    rw [List.reverse_append]
    refine (takeWhile_run (fun c hc => ?_) fun c hc => hb c ?_).1
    · exact List.all_eq_true.1 (all_continues_of_formIdentifier hn) c (List.mem_reverse.1 hc)
    · rwa [List.head?_reverse] at hc
  unfold importedName?
  rw [if_pos (List.isPrefixOf_iff_prefix.2 (List.prefix_append _ _)), hline,
    List.dropLast_concat, hword, List.reverse_reverse, String.ofList_toList]

/-- A path ends with its last segment, and with a colon before it if there are others. -/
theorem exists_append_last {names : List (List Char)} {last : List Char}
    (h : names.getLast? = some last) :
    ∃ before, [':', ':'].intercalate names = before ++ last ∧ ∀ c ∈ before.getLast?, c = ':' := by
  induction names with
  | nil => exact absurd h (by simp)
  | cons n names ih =>
    cases names with
    | nil =>
      cases h
      exact ⟨[], List.intercalate_singleton, fun c hc => absurd hc (by simp)⟩
    | cons m names =>
      obtain ⟨before, hbefore, hcolon⟩ := ih (by rwa [List.getLast?_cons_cons] at h)
      refine ⟨n ++ [':', ':'] ++ before, ?_, fun c hc => ?_⟩
      · rw [List.intercalate_cons_cons, hbefore, List.append_assoc (n ++ [':', ':'])]
      · cases hlast : before.getLast? with
        | none =>
          rw [List.getLast?_append, hlast] at hc
          simpa using hc.symm
        | some d =>
          rw [List.getLast?_append, hlast] at hc
          exact hcolon c (hlast.trans hc)

/-- The import of the vocabulary gives it the name of the qualifier. -/
theorem importedName?_useVocabulary {v : Vocabulary} {useLine : String}
    (hq : isIdentifier v.qualifier = true) (h : useVocabulary v = .ok useLine) :
    importedName? useLine.toList = some v.qualifier := by
  unfold useVocabulary at h
  split at h
  · cases h
  split at h
  next hlast =>
    cases h
    have hsegment : (splitPath v.importPath.toList).getLast? = some v.qualifier.toList := by
      rw [segments, List.getLast?_map] at hlast
      obtain ⟨cs, hcs, hof⟩ := Option.map_eq_some_iff.1 hlast
      rw [hcs, ← hof, String.toList_ofList]
    obtain ⟨before, hbefore, hcolon⟩ := exists_append_last hsegment
    rw [intercalate_splitPath] at hbefore
    have hline : s!"use {v.importPath};".toList =
        "use ".toList ++ (before ++ (v.qualifier.toList ++ [';'])) := by
      simp [toString, hbefore]
    rw [hline]
    refine importedName?_written hq fun c hc => ?_
    cases hend : before.getLast? with
    | none =>
      rw [List.getLast?_append, hend] at hc
      cases hc
      rfl
    | some d =>
      rw [List.getLast?_append, hend] at hc
      cases hc
      rw [hcolon c hend]
      rfl
  next =>
    cases h
    have hline : s!"use {v.importPath} as {v.qualifier};".toList =
        "use ".toList ++ ((v.importPath.toList ++ " as ".toList) ++
          (v.qualifier.toList ++ [';'])) := by
      simp [toString]
    rw [hline]
    refine importedName?_written hq fun c hc => ?_
    rw [← List.append_assoc, List.getLast?_append] at hc
    cases hc
    rfl

/-! ### Types -/

/-- A declaration gives its name. -/
theorem typeName?_declared {front n : String} (hf : front ∈ declarations)
    (hn : isIdentifier n = true) :
    typeName? (front.toList ++ (n.toList ++ " \x7b".toList)) = some n := by
  have hread := nameBetween?_written front " \x7b" hn rfl []
  rw [List.append_nil] at hread
  simp only [declarations, List.mem_cons, List.not_mem_nil, or_false] at hf
  -- No two of the fronts begin alike, so the others read nothing.
  rcases hf with rfl | rfl | rfl
  · show [nameBetween? "pub enum " " \x7b" _, none, none].findSome? id = some n
    rw [hread]
    rfl
  · show [none, nameBetween? "pub trait " " \x7b" _, none].findSome? id = some n
    rw [hread]
    rfl
  · show [none, none, nameBetween? "pub struct " " \x7b" _].findSome? id = some n
    rw [hread]
    rfl

/-- The names that a unit imports beside the vocabulary. -/
def importedNames (s : Settings) : List String :=
  ["Any", "fmt"] ++ (if hasAdapters s then ["Rc"] else []) ++ ["Url"]

theorem finds_preamble {useLine : String} (hq : isIdentifier s.vocabulary.qualifier = true)
    (hu : useVocabulary s.vocabulary = .ok useLine) :
    Finds typeName? ((preamble s useLine).map String.toList)
      (importedNames s ++ [s.vocabulary.qualifier]) := by
  have hfront : Finds typeName?
      ([banner, s!"// Module: {s.package}", "", "use std::any::Any;", "use std::fmt;"].map
        String.toList) ["Any", "fmt"] := by
    simp only [List.map_cons, List.map_nil, String.toList_append]
    exact .pass rfl <| .pass rfl <| .pass rfl <| .take rfl <| .take rfl .nil
  have hrc : Finds typeName?
      ((if hasAdapters s then ["use std::rc::Rc;"] else []).map String.toList)
      (if hasAdapters s then ["Rc"] else []) := by
    split
    · exact .take rfl .nil
    · exact .nil
  have hvocabulary : typeName? useLine.toList = some s.vocabulary.qualifier := by
    unfold typeName?
    rw [importedName?_useVocabulary hq hu]
  have hend : Finds typeName? (["", "use url::Url;", "", useLine, ""].map String.toList)
      ["Url", s.vocabulary.qualifier] :=
    .pass rfl <| .take rfl <| .pass rfl <| .take hvocabulary <| .pass rfl .nil
  have h := (hfront.append hrc).append hend
  rw [preamble, List.map_append, List.map_append]
  simpa [importedNames] using h

theorem finds_forward (method result : String) :
    Finds typeName? ((forward method result).map String.toList) [] := by
  simp only [forward, List.map_cons, List.map_nil, String.toList_append, List.append_assoc]
  exact .front rfl <| .front rfl <| .text rfl <| .text rfl .nil

theorem finds_rewrap (name method interface cursor : String) :
    Finds typeName? ((rewrap name method interface cursor).map String.toList) [] := by
  simp only [rewrap, List.map_cons, List.map_nil, String.toList_append, List.append_assoc]
  exact .front rfl <| .front rfl <| .text rfl <| .front rfl <| .text rfl <| .text rfl .nil

theorem finds_adapter (hi : isIdentifier s.interface = true) (e : Entry) :
    Finds typeName? ((adapter s e).map String.toList) [adapterName s e] := by
  have hname := typeName?_declared (by decide : "pub struct " ∈ declarations)
    (isIdentifier_adapterName hi e)
  have hhead : Finds typeName?
      (["", s!"/// Adapter over `{s.vocabulary.qualifier}::{e.iterator.text}`.",
        s!"pub struct {adapterName s e} \x7b",
        s!"    p: Rc<{s.vocabulary.qualifier}::{e.container.text}>,",
        s!"    it: {s.vocabulary.qualifier}::{e.iterator.text},", "\x7d", "",
        s!"impl {s.interface} for {adapterName s e} \x7b"].map String.toList)
      [adapterName s e] := by
    simp only [List.map_cons, List.map_nil, String.toList_append, List.append_assoc]
    exact .text rfl <| .front rfl <| .take hname <| .front rfl <| .front rfl <| .text rfl <|
      .text rfl <| .front rfl .nil
  have hforwards := (finds_forward "has_any" "bool").append <|
    (finds_forward "is_iri" "bool").append <| (finds_forward "get_iri" "Option<Url>").append <|
    finds_forward "get_type" s!"Option<{s.vocabulary.qualifier}::Type>"
  have hrewraps := (finds_rewrap (adapterName s e) "next" s.interface "self.it.next()").append <|
    Finds.pass (by rfl : typeName? [] = none) <|
    (finds_rewrap (adapterName s e) "end" s.interface "self.p.end()").append <|
    Finds.pass (by rfl : typeName? ['\x7d'] = none) .nil
  have h := (hhead.append hforwards).append hrewraps
  simpa [adapter] using h

end Rust

end UniformIter
