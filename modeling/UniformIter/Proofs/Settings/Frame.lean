import UniformIter.Proofs.Settings.Retargeting

/-!
# What a run of changes leaves alone

Whatever targets and paths settings are given, in any order, a change touches nothing but the
target and the path of the vocabulary (`Settings.keeps_changed`). The target in the end is the
last one that was given. For the path this need not be so: a vocabulary that was put where a
target has it by default leaves with the next target that finds it there.

What carries over from one change to the next is `Settings.Remembers`: the vocabulary is in the
place that it was last put in, or that place was a default one and the vocabulary has moved to
the present target's own. The whole run follows from it (`Settings.framed_changedBy`).
-/

namespace UniformIter

/-- The path that a change gives to the vocabulary. -/
def Change.path? : Change → Option String
  | .target _ => none
  | .vocabularyPath p => some p

/-- Where a change puts the vocabulary by hand. -/
def Vocabulary.putBy (place : Vocabulary) (c : Change) : Vocabulary :=
  { place with importPath := c.path?.getD place.importPath }

/-- Where the vocabulary lives by default, for one target or another. -/
def Vocabulary.defaultPlaces : List Vocabulary := knownTargets.map Vocabulary.defaultFor

/-- A target without a renderer shares the place of Go. -/
theorem Vocabulary.defaultFor_mem (target : String) :
    Vocabulary.defaultFor target ∈ Vocabulary.defaultPlaces := by
  by_cases h : target = "rust"
  · rw [h]
    decide
  · unfold Vocabulary.defaultFor
    rw [if_neg h]
    decide

namespace Settings

variable {s : Settings} {place : Vocabulary}

/-! ## One change -/

/-- Settings that differ in the target and in the path of the vocabulary at most. -/
structure Keeps (s t : Settings) : Prop where
  package : t.package = s.package
  dispatch : t.dispatch = s.dispatch
  interface : t.interface = s.interface
  registry : t.registry = s.registry
  qualifier : t.vocabulary.qualifier = s.vocabulary.qualifier

theorem Keeps.refl (s : Settings) : s.Keeps s := ⟨rfl, rfl, rfl, rfl, rfl⟩

theorem Keeps.trans {t u : Settings} (h : s.Keeps t) (h' : t.Keeps u) : s.Keeps u where
  package := h'.package.trans h.package
  dispatch := h'.dispatch.trans h.dispatch
  interface := h'.interface.trans h.interface
  registry := h'.registry.trans h.registry
  qualifier := h'.qualifier.trans h.qualifier

theorem keeps_changed (s : Settings) (c : Change) : s.Keeps (s.changed c) := by
  cases c with
  | target t =>
    show s.Keeps (s.withTarget t)
    rw [withTarget_frame]
    exact ⟨rfl, rfl, rfl, rfl, rfl⟩
  | vocabularyPath p => exact ⟨rfl, rfl, rfl, rfl, rfl⟩

/-- The vocabulary is in the place that it was put in, unless this is a default place. From there
it may have moved on to that of the target. -/
def Remembers (s : Settings) (place : Vocabulary) : Prop :=
  s.vocabulary = place ∨ place ∈ Vocabulary.defaultPlaces ∧ s.AtHome

theorem Remembers.changed (h : s.Remembers place)
    (hq : place.qualifier = s.vocabulary.qualifier) (c : Change) :
    (s.changed c).Remembers (place.putBy c) := by
  cases c with
  | vocabularyPath p =>
    -- The vocabulary is put somewhere else, under the qualifier that it has had all along.
    refine .inl ?_
    show { s.vocabulary with importPath := p } = { place with importPath := p }
    rw [hq]
  | target t =>
    show (s.withTarget t).Remembers place
    by_cases hhome : s.AtHome
    · -- It moves along with the target, so the place it was put in is a default one.
      refine .inr ⟨?_, atHome_withTarget hhome t⟩
      rcases h with hplace | ⟨hdefault, -⟩
      · rw [← hplace, hhome]
        exact Vocabulary.defaultFor_mem s.target
      · exact hdefault
    · rw [withTarget_of_not_atHome hhome]
      rcases h with hplace | ⟨-, hmoved⟩
      · exact .inl hplace
      · exact absurd hmoved hhome

/-! ## A run of changes -/

theorem keeps_changedBy (s : Settings) (cs : List Change) : s.Keeps (s.changedBy cs) := by
  induction cs generalizing s with
  | nil => exact Keeps.refl s
  | cons c cs ih => exact (keeps_changed s c).trans (ih (s.changed c))

theorem Remembers.changedBy (h : s.Remembers place)
    (hq : place.qualifier = s.vocabulary.qualifier) (cs : List Change) :
    (s.changedBy cs).Remembers (cs.foldl Vocabulary.putBy place) := by
  induction cs generalizing s place with
  | nil => exact h
  | cons c cs ih =>
    show ((s.changed c).changedBy cs).Remembers (cs.foldl Vocabulary.putBy (place.putBy c))
    exact ih (h.changed hq c) (hq.trans (keeps_changed s c).qualifier.symm)

/-- The last path that was given is where the vocabulary was put in the end. -/
theorem foldl_putBy (place : Vocabulary) (cs : List Change) :
    cs.foldl Vocabulary.putBy place =
      { place with importPath := (cs.filterMap Change.path?).getLastD place.importPath } := by
  induction cs generalizing place with
  | nil => rfl
  | cons c cs ih =>
    rw [List.foldl_cons, ih, List.filterMap_cons]
    cases hc : c.path? with
    | none =>
      rw [Vocabulary.putBy, hc]
      rfl
    | some p =>
      rw [Vocabulary.putBy, hc, List.getLastD_cons]
      rfl

/-- The place that the vocabulary was put in last, or the one that it had before. -/
def lastPlace (s : Settings) (cs : List Change) : Vocabulary :=
  ⟨(cs.filterMap Change.path?).getLastD s.vocabulary.importPath, s.vocabulary.qualifier⟩

/-- What becomes of settings in a run of changes. -/
structure Framed (s : Settings) (cs : List Change) : Prop where
  /-- All but the target and the path is left alone. -/
  keeps : s.Keeps (s.changedBy cs)
  /-- The target is the last one that was given. -/
  target : (s.changedBy cs).target = (cs.filterMap Change.target?).getLastD s.target
  /-- The path is the last one that was given, unless that put the vocabulary in a default
  place. -/
  path : s.lastPlace cs ∉ Vocabulary.defaultPlaces →
    (s.changedBy cs).vocabulary.importPath =
      (cs.filterMap Change.path?).getLastD s.vocabulary.importPath
  /-- Then the path is a default one. -/
  defaultPath : s.lastPlace cs ∈ Vocabulary.defaultPlaces →
    (s.changedBy cs).vocabulary.importPath ∈ Vocabulary.defaultPlaces.map (·.importPath)
  /-- And if it is not the one that was given, it is that of the target in the end. -/
  moved : (s.changedBy cs).vocabulary ≠ s.lastPlace cs → (s.changedBy cs).AtHome

/-- In every run of changes, what is not the target or the path stays, the target is the last one
that was given, and so is the path, unless it was a default one: then it may have moved to the
default path of the target in the end. -/
theorem framed_changedBy (s : Settings) (cs : List Change) : s.Framed cs := by
  have hstart : s.Remembers s.vocabulary := .inl rfl
  have hend : (s.changedBy cs).Remembers (s.lastPlace cs) := by
    have hrun := hstart.changedBy rfl cs
    rwa [foldl_putBy] at hrun
  refine ⟨keeps_changedBy s cs, target_changedBy s cs, fun hown => ?_, fun hdefault => ?_,
    fun hne => ?_⟩
  · rcases hend with hplace | ⟨hdefault, -⟩
    · exact congrArg Vocabulary.importPath hplace
    · exact absurd hdefault hown
  · rcases hend with hplace | ⟨-, hhome⟩
    · rw [hplace]
      exact List.mem_map_of_mem hdefault
    · rw [hhome]
      exact List.mem_map_of_mem (Vocabulary.defaultFor_mem _)
  · rcases hend with hplace | ⟨-, hhome⟩
    · exact absurd hplace hne
    · exact hhome

end Settings

/-- Where the vocabulary lives by default: two places under one qualifier. -/
example : Vocabulary.defaultPlaces =
    [⟨"github.com/go-fed/activity/streams/vocab", "vocab"⟩, ⟨"crate::vocab", "vocab"⟩] := by
  decide

end UniformIter
