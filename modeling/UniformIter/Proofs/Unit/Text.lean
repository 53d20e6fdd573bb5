import UniformIter.Unit.Catalogue

/-!
# The text of a unit

A unit is its parts one behind the other (`Renderer.unit_eq`). Both languages write every part
as lines, so that a whole unit is a list of lines too: `Go.unit_eq` and `Rust.unit_eq`. The
second one has a condition, because Rust has no import for a path that leads to no module.
-/

namespace UniformIter

@[simp] theorem unlines_nil : unlines [] = "" := rfl

@[simp] theorem unlines_append (ls ms : List String) :
    unlines (ls ++ ms) = unlines ls ++ unlines ms := by
  rw [unlines, List.map_append, String.join_append, unlines, unlines]

/-- Parts that are lists of lines are the lines of all of them. -/
theorem join_map_unlines (parts : List (List String)) :
    String.join (parts.map unlines) = unlines parts.flatten := by
  induction parts with
  | nil => rfl
  | cons ls parts ih =>
    rw [List.map_cons, String.join_cons, ih, List.flatten_cons, unlines_append]

namespace Renderer

variable (r : Renderer) (s : Settings)

/-- What comes of a unit in the making: all its parts behind what was written before, or the
failure of the first part that has one. -/
theorem assemble_outcome (ps : List UnitPart) (written : String) :
    (r.assemble s written ps).outcome =
      (ps.mapM (r.part s)).map fun texts => written ++ String.join texts := by
  induction ps generalizing written with
  | nil => rw [assemble, List.mapM_nil]; exact congrArg Except.ok String.append_empty.symm
  | cons p more ih =>
    rw [assemble, List.mapM_cons]
    cases hp : r.part s p with
    | error f => rfl
    | ok text =>
      show (r.assemble s (written ++ text) more).outcome = _
      rw [ih]
      cases more.mapM (r.part s) with
      | error f => rfl
      | ok texts =>
        show Except.ok (written ++ text ++ String.join texts) =
          Except.ok (written ++ String.join (text :: texts))
        rw [String.join_cons, String.append_assoc]

/-- A unit is its parts one behind the other. -/
theorem unit_eq : r.unit s = ((unitParts s.registry).mapM (r.part s)).map String.join := by
  rw [unit, assemble_outcome]
  simp only [String.empty_append]

/-- A unit whose parts are lists of lines is the lines of all of them. -/
theorem unit_of_lines {preamble dispatch : List String} {adapter : Entry → List String}
    (hp : r.preamble s = .ok (unlines preamble)) (hd : r.dispatch s = .ok (unlines dispatch))
    (ha : ∀ e, r.adapter s e = .ok (unlines (adapter e))) :
    r.unit s = .ok (unlines (preamble ++ dispatch ++ s.registry.supported.flatMap adapter)) := by
  have hadapters : ∀ es : List Entry, (es.map UnitPart.adapter).mapM (r.part s) =
      .ok (es.map fun e => unlines (adapter e)) := by
    intro es
    induction es with
    | nil => rfl
    | cons e es ih =>
      rw [List.map_cons, List.mapM_cons, ih, part, ha]
      rfl
  have hparts : (unitParts s.registry).mapM (r.part s) =
      .ok ((preamble :: dispatch :: s.registry.supported.map adapter).map unlines) := by
    rw [unitParts, List.mapM_cons, List.mapM_cons, hadapters, part, part, hp, hd, List.map_cons,
      List.map_cons, List.map_map]
    rfl
  rw [unit_eq, hparts]
  show Except.ok _ = Except.ok _
  rw [join_map_unlines, List.flatten_cons, List.flatten_cons, List.append_assoc,
    List.flatMap_def]

end Renderer

/-! ## The two languages -/

/-- The lines of a unit in Go. -/
def Go.unitLines (s : Settings) : List String :=
  Go.preamble s ++ Go.dispatch s ++ s.registry.supported.flatMap (Go.adapter s)

/-- The lines of a unit in Rust with this import of the vocabulary. -/
def Rust.unitLines (s : Settings) (useLine : String) : List String :=
  Rust.preamble s useLine ++ Rust.dispatch s ++ s.registry.supported.flatMap (Rust.adapter s)

theorem Go.unit_eq (s : Settings) : Go.renderer.unit s = .ok (unlines (Go.unitLines s)) :=
  Go.renderer.unit_of_lines s rfl rfl fun _ => rfl

theorem Rust.unit_eq {s : Settings} {useLine : String}
    (h : Rust.useVocabulary s.vocabulary = .ok useLine) :
    Rust.renderer.unit s = .ok (unlines (Rust.unitLines s useLine)) := by
  refine Rust.renderer.unit_of_lines s ?_ rfl fun _ => rfl
  show (Rust.useVocabulary s.vocabulary).map _ = _
  rw [h]
  rfl

/-- A unit in Rust fails with its import. -/
theorem Rust.unit_error {s : Settings} {f : Failure}
    (h : Rust.useVocabulary s.vocabulary = .error f) : Rust.renderer.unit s = .error f := by
  have hp : Rust.renderer.part s .preamble = .error f := by
    show (Rust.useVocabulary s.vocabulary).map _ = _
    rw [h]
    rfl
  rw [Renderer.unit_eq, unitParts, List.mapM_cons, hp]
  rfl

namespace Settings

/-- The renderers that come with the program go by the names of the targets. -/
theorem renderer_go {s : Settings} (h : s.target = "go") : s.renderer = .ok Go.renderer := by
  rw [renderer, h]
  rfl

theorem renderer_rust {s : Settings} (h : s.target = "rust") :
    s.renderer = .ok Rust.renderer := by
  rw [renderer, h]
  rfl

theorem unit_of_go {s : Settings} (h : s.target = "go") :
    s.unit = .ok (unlines (Go.unitLines s)) := by
  rw [Settings.unit, renderer_go h]
  exact Go.unit_eq s

/-- A unit in Rust that was rendered has an import of the vocabulary and is its lines. -/
theorem unit_of_rust {s : Settings} {text : String} (h : s.target = "rust")
    (ht : s.unit = .ok text) :
    ∃ useLine, Rust.useVocabulary s.vocabulary = .ok useLine ∧
      text = unlines (Rust.unitLines s useLine) := by
  rw [Settings.unit, renderer_rust h] at ht
  cases hu : Rust.useVocabulary s.vocabulary with
  | error f =>
    have herr : Rust.renderer.unit s = .error f := Rust.unit_error hu
    rw [show Rust.renderer.unit s = Except.ok text from ht] at herr
    exact absurd herr (by simp)
  | ok useLine =>
    refine ⟨useLine, rfl, ?_⟩
    have hok : Rust.renderer.unit s = .ok text := ht
    rw [Rust.unit_eq hu] at hok
    exact (Except.ok.inj hok).symm

end Settings

end UniformIter
