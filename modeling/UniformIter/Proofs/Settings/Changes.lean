import UniformIter.Proofs.Settings.Acceptance

/-!
# Changes of settings

Settings that were accepted may be given another target and another path of the vocabulary, any
number of times and in any order. The target at the end is the last one that was given
(`Settings.target_changedBy`), so a target that no renderer has never comes from a file
(`Settings.known_or_given`).
-/

namespace UniformIter

/-- A change of settings. -/
inductive Change where
  | target (target : String)
  | vocabularyPath (importPath : String)
  deriving DecidableEq

/-- The target that a change gives. -/
def Change.target? : Change → Option String
  | .target t => some t
  | .vocabularyPath _ => none

namespace Settings

/-- The settings after a change. -/
def changed (s : Settings) : Change → Settings
  | .target t => s.withTarget t
  | .vocabularyPath p => s.withVocabularyPath p

/-- The settings after changes, one after the other. -/
def changedBy (s : Settings) (cs : List Change) : Settings := cs.foldl changed s

/-- A change gives its target, and keeps the old one if it has none. -/
theorem target_changed (s : Settings) (c : Change) :
    (s.changed c).target = c.target?.getD s.target := by
  cases c with
  | target t => rfl
  | vocabularyPath p => rfl

/-- The target in the end is the last one that was given. -/
theorem target_changedBy (s : Settings) (cs : List Change) :
    (s.changedBy cs).target = (cs.filterMap Change.target?).getLastD s.target := by
  induction cs generalizing s with
  | nil => rfl
  | cons c cs ih =>
    show ((s.changed c).changedBy cs).target = _
    rw [ih, target_changed, List.filterMap_cons]
    cases c.target? with
    | none => rfl
    | some t => rw [Option.getD_some, List.getLastD_cons]

/-- Settings from a file have a known target, unless another one was given since. -/
theorem known_or_given {f : SettingsFile} {s : Settings} (h : f.toSettings = .ok s)
    (cs : List Change) :
    (s.changedBy cs).target ∈ knownTargets ∨ .target (s.changedBy cs).target ∈ cs := by
  have hs := SettingsFile.target_known h
  rw [target_changedBy]
  cases hlast : (cs.filterMap Change.target?).getLast? with
  | none =>
    rw [List.getLastD_eq_getLast?, hlast]
    exact .inl hs
  | some t =>
    rw [List.getLastD_eq_getLast?, hlast]
    obtain ⟨c, hc, ht⟩ := List.mem_filterMap.1 (List.mem_of_getLast? hlast)
    cases c with
    | target u =>
      cases ht
      exact .inr hc
    | vocabularyPath p => cases ht

end Settings

end UniformIter
