import UniformIter.Proofs.Naming.Containers
import UniformIter.Proofs.Naming.Snake
import UniformIter.Proofs.Settings.Acceptance
import UniformIter.Proofs.Unit.Scan
import UniformIter.Proofs.Unit.Text

/-!
# What the units tell

The scanners of the two languages, and what they find in a unit. Each part of a unit tells its
own (`Go.tells_dispatchCase`, `Rust.tells_adapter` and the others), and a whole unit tells the
cases in the order of the registry, then the fallback, then the adapters in the same order:
`Go.scan_unitLines` and `Rust.scan_unitLines`.
-/

namespace UniformIter

open Scan

/-- Identifiers with nothing between them are one. -/
theorem isIdentifier_append {a b : String} (ha : isIdentifier a = true)
    (hb : isIdentifier b = true) : isIdentifier (a ++ b) = true := by
  unfold isIdentifier at ha hb ⊢
  cases hs : a.toList with
  | nil => rw [hs] at ha; exact absurd ha (by simp)
  | cons c r =>
    rw [hs, formIdentifier_cons, Bool.and_eq_true] at ha
    rw [String.toList_append, hs, List.cons_append, formIdentifier_cons, List.all_append, ha.1,
      ha.2, all_continues_of_formIdentifier hb]
    rfl

/-! ## What is found -/

/-- What the cases tell: the container that each tests, behind the names of the scope that it is
written in, and the adapter that it makes. -/
def caseFindings (scope : List String) (adapterName : Entry → String) (e : Entry) : List Finding :=
  [⟨.case, scope ++ [e.container.text]⟩, ⟨.construction, [adapterName e]⟩]

/-- What an adapter tells: its name, and the types of its owner and its cursor. -/
def adapterFindings (qualifier : String) (adapterName : Entry → String) (e : Entry) :
    List Finding :=
  [⟨.definition, [adapterName e]⟩, ⟨.owner, [qualifier, e.container.text]⟩,
    ⟨.cursor, [qualifier, e.iterator.text]⟩]

/-- What a unit tells behind its variants: every case, the fallback, and every adapter. -/
def unitFindings (scope : List String) (qualifier : String) (fallback : List String)
    (adapterName : Entry → String) (es : List Entry) : List Finding :=
  es.flatMap (caseFindings scope adapterName) ++
    ⟨.fallback, fallback⟩ :: es.flatMap (adapterFindings qualifier adapterName)

/-! ## Go -/

namespace Go

/-- The scanner for units in Go. The cases open with the type switch. -/
def scanner : Scanner where
  opens l :=
    l == "\tswitch v := iterable.(type) \x7b".toList ||
      l == "\tswitch iterable.(type) \x7b".toList
  rules := [
    ⟨[.text "\tcase ", .name, .text ".", .name, .text ":"], .case⟩,
    ⟨[.text "\t\treturn ", .name, .text "\x7b"], .construction⟩,
    ⟨[.text "\tdefault:"], .fallback⟩,
    ⟨[.text "type ", .name, .text " struct \x7b"], .definition⟩,
    ⟨[.text "\tp  ", .name, .text ".", .name], .owner⟩,
    ⟨[.text "\tit ", .name, .text ".", .name], .cursor⟩]

theorem isIdentifier_adapterName (e : Entry) : isIdentifier (adapterName e) = true := by
  have h : isIdentifier ("iter_" ++ e.iterator.text) = true :=
    isIdentifier_append (by decide) e.iterator.isIdentifier_text
  exact h

variable {s : Settings}

theorem tells_dispatchCase (hq : isIdentifier s.vocabulary.qualifier = true) (e : Entry) :
    Tells scanner ((dispatchCase s e).map String.toList)
      (caseFindings [s.vocabulary.qualifier] adapterName e) := by
  have hc : isIdentifier e.container.text = true := e.iterator.isIdentifier_container
  have ha := isIdentifier_adapterName e
  simp only [dispatchCase, caseFindings, List.map_cons, List.map_nil, String.toList_append]
  refine .rule 0 rfl rfl ?_ ?_ rfl rfl rfl rfl ?_ <|
    .rule 1 rfl rfl ?_ ?_ rfl rfl rfl rfl ?_ <|
    .silent ?_ rfl rfl <| .silent ?_ rfl rfl <| .silent ?_ rfl rfl <| .silent ?_ rfl rfl .nil
  all_goals simp [toString, fill, hq, hc, ha, newline_not_mem]

theorem tells_forward {name method result : String} (hn : '\n' ∉ name.toList)
    (hm : '\n' ∉ method.toList) (hr : '\n' ∉ result.toList) :
    Tells scanner ((forward name method result).map String.toList) [] := by
  simp only [forward, List.map_cons, List.map_nil, String.toList_append]
  refine .silent ?_ rfl rfl <| .silent ?_ rfl rfl <| .silent ?_ rfl rfl <| .silent ?_ rfl rfl .nil
  all_goals simp [toString, hn, hm, hr]

theorem tells_rewrap {name method interface cursor : String} (hn : '\n' ∉ name.toList)
    (hm : '\n' ∉ method.toList) (hi : '\n' ∉ interface.toList) (hc : '\n' ∉ cursor.toList) :
    Tells scanner ((rewrap name method interface cursor).map String.toList) [] := by
  simp only [rewrap, List.map_cons, List.map_nil, String.toList_append]
  refine .silent ?_ rfl rfl <| .silent ?_ rfl rfl <| .silent ?_ rfl rfl <|
    .silent ?_ rfl rfl <| .silent ?_ rfl rfl <| .silent ?_ rfl rfl .nil
  all_goals simp [toString, hn, hm, hi, hc]

theorem tells_adapter (hq : isIdentifier s.vocabulary.qualifier = true)
    (hi : isIdentifier s.interface = true) (e : Entry) :
    Tells scanner ((adapter s e).map String.toList)
      (adapterFindings s.vocabulary.qualifier adapterName e) := by
  have hc : isIdentifier e.container.text = true := e.iterator.isIdentifier_container
  have hit : isIdentifier e.iterator.text = true := e.iterator.isIdentifier_text
  have ha := isIdentifier_adapterName e
  have hn := newline_not_mem ha
  have hhead : Tells scanner
      (["", s!"type {adapterName e} struct \x7b",
        s!"\tp  {s.vocabulary.qualifier}.{e.container.text}",
        s!"\tit {s.vocabulary.qualifier}.{e.iterator.text}", "\x7d", ""].map String.toList)
      (adapterFindings s.vocabulary.qualifier adapterName e) := by
    simp only [adapterFindings, List.map_cons, List.map_nil, String.toList_append]
    refine .silent ?_ rfl rfl <| .rule 3 rfl rfl ?_ ?_ rfl rfl rfl rfl ?_ <|
      .rule 4 rfl rfl ?_ ?_ rfl rfl rfl rfl ?_ <| .rule 5 rfl rfl ?_ ?_ rfl rfl rfl rfl ?_ <|
      .silent ?_ rfl rfl <| .silent ?_ rfl rfl .nil
    all_goals simp [toString, fill, hq, hc, hit, ha, newline_not_mem]
  have hforwards := (tells_forward hn (by decide : '\n' ∉ "HasAny".toList)
    (by decide : '\n' ∉ "bool".toList)).append <|
    (tells_forward hn (by decide : '\n' ∉ "IsIRI".toList)
      (by decide : '\n' ∉ "bool".toList)).append <|
    (tells_forward hn (by decide : '\n' ∉ "GetIRI".toList)
      (by decide : '\n' ∉ "*url.URL".toList)).append <|
    tells_forward hn (by decide : '\n' ∉ "GetType".toList)
      (by simp [toString, newline_not_mem hq] : '\n' ∉ s!"{s.vocabulary.qualifier}.Type".toList)
  have hrewraps := (tells_rewrap hn (by decide : '\n' ∉ "Next".toList) (newline_not_mem hi)
    (by decide : '\n' ∉ "i.it.Next()".toList)).append <|
    Tells.silent (by simp : '\n' ∉ []) rfl rfl <|
    tells_rewrap hn (by decide : '\n' ∉ "End".toList) (newline_not_mem hi)
      (by decide : '\n' ∉ "i.p.End()".toList)
  have h := (hhead.append hforwards).append hrewraps
  simpa [adapter] using h

/-- What a unit in Go tells. -/
theorem scan_unitLines (hs : s.Sound) :
    scanner.scan? (unlines (unitLines s)) =
      some (unitFindings [s.vocabulary.qualifier] s.vocabulary.qualifier [] adapterName
        s.registry.supported) := by
  have hcases : Tells scanner ((s.registry.supported.flatMap (dispatchCase s)).map String.toList)
      (s.registry.supported.flatMap (caseFindings [s.vocabulary.qualifier] adapterName)) :=
    .flatMap (tells_dispatchCase hs.qualifier)
  have hadapters : Tells scanner ((s.registry.supported.flatMap (adapter s)).map String.toList)
      (s.registry.supported.flatMap (adapterFindings s.vocabulary.qualifier adapterName)) :=
    .flatMap (tells_adapter hs.qualifier hs.interface)
  have hdefault : Tells scanner
      (["\tdefault:", "\t\treturn nil, fmt.Errorf(\"type=%T not supported\", iterable)",
        "\t\x7d", "\x7d"].map String.toList) [⟨.fallback, []⟩] := by
    refine .rule 2 rfl rfl rfl ?_ rfl rfl rfl rfl ?_ <| .silent ?_ rfl rfl <|
      .silent ?_ rfl rfl <| .silent ?_ rfl rfl .nil
    all_goals decide
  have hafter := (hcases.append hdefault).append hadapters
  -- Whatever the preamble and the signature hold, the type switch comes behind them.
  have hsplit : unitLines s =
      (preamble s ++ (dispatch s).take 1 ++ (if s.dispatch.checkNil then nilCheck else [])) ++
      switchLine s :: (s.registry.supported.flatMap (dispatchCase s) ++
        ["\tdefault:", "\t\treturn nil, fmt.Errorf(\"type=%T not supported\", iterable)",
          "\t\x7d", "\x7d"] ++ s.registry.supported.flatMap (adapter s)) := by
    simp [unitLines, dispatch]
  have hswitch : '\n' ∉ (switchLine s).toList ∧ scanner.opens (switchLine s).toList = true := by
    unfold switchLine
    split <;> exact ⟨by decide, rfl⟩
  rw [hsplit, Tells.scan? hswitch.1 hswitch.2 (by simpa using hafter) rfl rfl]
  simp [unitFindings]

end Go

/-! ## Rust -/

namespace Rust

/-- The scanner for units in Rust. The cases open with the closed type, whose variants stand
before them. -/
def scanner : Scanner where
  opens l := l == "pub enum Iterable \x7b".toList
  rules := [
    ⟨[.text "    ", .name, .text "(", .name, .text "::", .name, .text "),"], .variant⟩,
    ⟨[.text "        Iterable::", .name, .text "(v) => \x7b"], .case⟩,
    ⟨[.text "            Ok(Box::new(", .name, .text " \x7b p: v, it \x7d))"], .construction⟩,
    ⟨[.text "        Iterable::Unrecognized \x7b type_name, .. \x7d => Err(", .name,
      .text "::UnsupportedType(type_name)),"], .fallback⟩,
    ⟨[.text "pub struct ", .name, .text " \x7b"], .definition⟩,
    ⟨[.text "    p: Rc<", .name, .text "::", .name, .text ">,"], .owner⟩,
    ⟨[.text "    it: ", .name, .text "::", .name, .text ","], .cursor⟩]

/-- What the variants tell: the name of each, and the container that it holds. -/
def variantFinding (qualifier : String) (e : Entry) : Finding :=
  ⟨.variant, [e.container.text, qualifier, e.container.text]⟩

variable {s : Settings}

theorem isIdentifier_adapterName (hi : isIdentifier s.interface = true) (e : Entry) :
    isIdentifier (adapterName s e) = true := by
  have h : isIdentifier ("" ++ s.interface ++ e.iterator.text) = true := by
    rw [String.empty_append]
    exact isIdentifier_append hi e.iterator.isIdentifier_text
  exact h

theorem isIdentifier_errorName (hi : isIdentifier s.interface = true) :
    isIdentifier (errorName s) = true := by
  have h : isIdentifier ("" ++ s.interface ++ "Error") = true := by
    rw [String.empty_append]
    exact isIdentifier_append hi (by decide)
  exact h

theorem tells_variants (hq : isIdentifier s.vocabulary.qualifier = true) (es : List Entry) :
    Tells scanner ((es.map fun e =>
        s!"    {e.container.text}({s.vocabulary.qualifier}::{e.container.text}),").map
          String.toList)
      (es.map (variantFinding s.vocabulary.qualifier)) := by
  induction es with
  | nil => exact .nil
  | cons e es ih =>
    have hc : isIdentifier e.container.text = true := e.iterator.isIdentifier_container
    rw [List.map_cons, List.map_cons, List.map_cons]
    simp only [String.toList_append]
    refine .rule 0 rfl rfl ?_ ?_ rfl rfl rfl rfl ?_ ih
    all_goals simp [toString, fill, hq, hc, newline_not_mem]

theorem tells_signature (hs : s.Sound) :
    Tells scanner ((signature s).map String.toList) [] := by
  have hf := newline_not_mem (isIdentifier_snakeCase hs.function)
  have hi := newline_not_mem hs.interface
  have he := newline_not_mem (isIdentifier_errorName hs.interface)
  unfold signature
  split
  all_goals simp only [List.map_cons, List.map_nil, String.toList_append]
  · refine .silent ?_ rfl rfl <| .silent ?_ rfl rfl <| .silent ?_ rfl rfl <|
      .silent ?_ rfl rfl <| .silent ?_ rfl rfl .nil
    all_goals simp [toString, functionName, hf, hi, he]
  · refine .silent ?_ rfl rfl .nil
    simp [toString, functionName, hf, hi, he]

theorem tells_dispatchArm (hi : isIdentifier s.interface = true) (e : Entry) :
    Tells scanner ((dispatchArm s e).map String.toList)
      (caseFindings [] (adapterName s) e) := by
  have hc : isIdentifier e.container.text = true := e.iterator.isIdentifier_container
  have ha := isIdentifier_adapterName hi e
  simp only [dispatchArm, caseFindings, List.map_cons, List.map_nil, String.toList_append]
  refine .rule 1 rfl rfl ?_ ?_ rfl rfl rfl rfl ?_ <| .silent ?_ rfl rfl <|
    .silent ?_ rfl rfl <| .rule 2 rfl rfl ?_ ?_ rfl rfl rfl rfl ?_ <| .silent ?_ rfl rfl .nil
  all_goals simp [toString, fill, hc, ha, newline_not_mem]

theorem tells_forward {method result : String} (hm : '\n' ∉ method.toList)
    (hr : '\n' ∉ result.toList) :
    Tells scanner ((forward method result).map String.toList) [] := by
  simp only [forward, List.map_cons, List.map_nil, String.toList_append]
  refine .silent ?_ rfl rfl <| .silent ?_ rfl rfl <| .silent ?_ rfl rfl <| .silent ?_ rfl rfl .nil
  all_goals simp [toString, hm, hr]

theorem tells_rewrap {name method interface cursor : String} (hn : '\n' ∉ name.toList)
    (hm : '\n' ∉ method.toList) (hi : '\n' ∉ interface.toList) (hc : '\n' ∉ cursor.toList) :
    Tells scanner ((rewrap name method interface cursor).map String.toList) [] := by
  simp only [rewrap, List.map_cons, List.map_nil, String.toList_append]
  refine .silent ?_ rfl rfl <| .silent ?_ rfl rfl <| .silent ?_ rfl rfl <|
    .silent ?_ rfl rfl <| .silent ?_ rfl rfl <| .silent ?_ rfl rfl .nil
  all_goals simp [toString, hn, hm, hi, hc]

theorem tells_adapter (hq : isIdentifier s.vocabulary.qualifier = true)
    (hi : isIdentifier s.interface = true) (e : Entry) :
    Tells scanner ((adapter s e).map String.toList)
      (adapterFindings s.vocabulary.qualifier (adapterName s) e) := by
  have hc : isIdentifier e.container.text = true := e.iterator.isIdentifier_container
  have hit : isIdentifier e.iterator.text = true := e.iterator.isIdentifier_text
  have ha := isIdentifier_adapterName hi e
  have hn := newline_not_mem ha
  have hhead : Tells scanner
      (["", s!"/// Adapter over `{s.vocabulary.qualifier}::{e.iterator.text}`.",
        s!"pub struct {adapterName s e} \x7b",
        s!"    p: Rc<{s.vocabulary.qualifier}::{e.container.text}>,",
        s!"    it: {s.vocabulary.qualifier}::{e.iterator.text},", "\x7d", "",
        s!"impl {s.interface} for {adapterName s e} \x7b"].map String.toList)
      (adapterFindings s.vocabulary.qualifier (adapterName s) e) := by
    simp only [adapterFindings, List.map_cons, List.map_nil, String.toList_append]
    refine .silent ?_ rfl rfl <| .silent ?_ rfl rfl <| .rule 4 rfl rfl ?_ ?_ rfl rfl rfl rfl ?_ <|
      .rule 5 rfl rfl ?_ ?_ rfl rfl rfl rfl ?_ <| .rule 6 rfl rfl ?_ ?_ rfl rfl rfl rfl ?_ <|
      .silent ?_ rfl rfl <| .silent ?_ rfl rfl <| .silent ?_ rfl rfl .nil
    all_goals simp [toString, fill, hq, hc, hi, hit, ha, newline_not_mem]
  have hforwards := (tells_forward (by decide : '\n' ∉ "has_any".toList)
    (by decide : '\n' ∉ "bool".toList)).append <|
    (tells_forward (by decide : '\n' ∉ "is_iri".toList)
      (by decide : '\n' ∉ "bool".toList)).append <|
    (tells_forward (by decide : '\n' ∉ "get_iri".toList)
      (by decide : '\n' ∉ "Option<Url>".toList)).append <|
    tells_forward (by decide : '\n' ∉ "get_type".toList)
      (by simp [toString, newline_not_mem hq] :
        '\n' ∉ s!"Option<{s.vocabulary.qualifier}::Type>".toList)
  have hrewraps := (tells_rewrap hn (by decide : '\n' ∉ "next".toList) (newline_not_mem hi)
    (by decide : '\n' ∉ "self.it.next()".toList)).append <|
    (Tells.silent (by simp : '\n' ∉ []) rfl rfl <|
      tells_rewrap hn (by decide : '\n' ∉ "end".toList) (newline_not_mem hi)
        (by decide : '\n' ∉ "self.p.end()".toList)).append <|
    Tells.silent (by decide : '\n' ∉ ['\x7d']) rfl rfl .nil
  have h := (hhead.append hforwards).append hrewraps
  simpa [adapter] using h

/-- What a unit in Rust tells. -/
theorem scan_unitLines (hs : s.Sound) (useLine : String) :
    scanner.scan? (unlines (unitLines s useLine)) =
      some (s.registry.supported.map (variantFinding s.vocabulary.qualifier) ++
        unitFindings [] s.vocabulary.qualifier [errorName s] (adapterName s)
          s.registry.supported) := by
  have he := isIdentifier_errorName hs.interface
  have hvariants := tells_variants hs.qualifier s.registry.supported
  have hrest : Tells scanner
      (["    Unrecognized \x7b", "        type_name: &'static str,", "        value: Box<dyn Any>,",
        "    \x7d,", "\x7d", ""].map String.toList) [] := by
    refine .silent ?_ rfl rfl <| .silent ?_ rfl rfl <| .silent ?_ rfl rfl <|
      .silent ?_ rfl rfl <| .silent ?_ rfl rfl <| .silent ?_ rfl rfl .nil
    all_goals decide
  have harms : Tells scanner ((s.registry.supported.flatMap (dispatchArm s)).map String.toList)
      (s.registry.supported.flatMap (caseFindings [] (adapterName s))) :=
    .flatMap (tells_dispatchArm hs.interface)
  have hfallback : Tells scanner
      (["        Iterable::Unrecognized \x7b type_name, .. \x7d => " ++
          s!"Err({errorName s}::UnsupportedType(type_name)),", "    \x7d", "\x7d"].map
            String.toList)
      [⟨.fallback, [errorName s]⟩] := by
    simp only [List.map_cons, List.map_nil, String.toList_append]
    refine .rule 3 rfl rfl ?_ ?_ rfl rfl rfl rfl ?_ <| .silent ?_ rfl rfl <|
      .silent ?_ rfl rfl .nil
    all_goals simp [toString, fill, he, newline_not_mem]
  have hadapters : Tells scanner ((s.registry.supported.flatMap (adapter s)).map String.toList)
      (s.registry.supported.flatMap (adapterFindings s.vocabulary.qualifier (adapterName s))) :=
    .flatMap (tells_adapter hs.qualifier hs.interface)
  have hmatch : Tells scanner (["    match iterable \x7b"].map String.toList) [] :=
    .silent (by decide) rfl rfl .nil
  have hafter := ((((hvariants.append hrest).append (tells_signature hs)).append hmatch).append
    (harms.append hfallback)).append hadapters
  have hsplit : unitLines s useLine =
      (preamble s useLine ++ errorType s ++ interfaceTrait s ++ (iterableEnum s).take 1) ++
      "pub enum Iterable \x7b" ::
        (s.registry.supported.map (fun e =>
          s!"    {e.container.text}({s.vocabulary.qualifier}::{e.container.text}),") ++
        ["    Unrecognized \x7b", "        type_name: &'static str,",
          "        value: Box<dyn Any>,", "    \x7d,", "\x7d", ""] ++ signature s ++
        ["    match iterable \x7b"] ++
        (s.registry.supported.flatMap (dispatchArm s) ++
          ["        Iterable::Unrecognized \x7b type_name, .. \x7d => " ++
            s!"Err({errorName s}::UnsupportedType(type_name)),", "    \x7d", "\x7d"]) ++
        s.registry.supported.flatMap (adapter s)) := by
    simp [unitLines, dispatch, iterableEnum]
  rw [hsplit, Tells.scan? (by decide) rfl (by simpa using hafter) rfl rfl]
  simp [unitFindings]

end Rust

end UniformIter
