import UniformIter.Proofs.Settings.Changes

/-!
# Settings for another target

A vocabulary that lives where the target has it by default (`Settings.AtHome`) moves along with
every change of the target, and any other one stays. What decides is the place alone, so a
vocabulary that was put by hand where another target has it by default is at home as soon as that
target comes up, and leaves with it.

Over a run of targets, the last of them is all that counts unless this happens on the way
(`Settings.withTarget_changedBy_iff`). Settings that were accepted know one such place: that of
Rust in a file for Go (`Settings.retargeted_iff`). To name the target in the file is the same as
to change it later, but for a file for Rust that names the place of Rust: later this place is
moved, and in the file it is kept (`SettingsFile.toSettings_retargeted`).
-/

namespace UniformIter

namespace Settings

/-- The vocabulary lives where the target has it by default. -/
def AtHome (s : Settings) : Prop := s.vocabulary = Vocabulary.defaultFor s.target

variable {s : Settings} {a b target : String}

/-! ## One change -/

theorem withTarget_of_atHome (h : s.AtHome) (target : String) :
    s.withTarget target = { s with vocabulary := Vocabulary.defaultFor target, target } := by
  unfold withTarget
  rw [if_pos (Vocabulary.isDefaultFor_iff.2 h)]

theorem withTarget_of_not_atHome (h : ¬s.AtHome) (target : String) :
    s.withTarget target = { s with target } := by
  unfold withTarget
  rw [if_neg fun hdefault => h (Vocabulary.isDefaultFor_iff.1 hdefault)]

/-- A change to the same target is none. -/
@[simp] theorem withTarget_self (s : Settings) : s.withTarget s.target = s := by
  by_cases h : s.AtHome
  · rw [withTarget_of_atHome h, ← h]
  · rw [withTarget_of_not_atHome h]

/-- A change of the target changes nothing else but the path of the vocabulary. -/
theorem withTarget_frame (s : Settings) (target : String) :
    s.withTarget target = { s with
      vocabulary := ⟨(s.withTarget target).vocabulary.importPath, s.vocabulary.qualifier⟩
      target } := by
  by_cases h : s.AtHome
  · have hqualifier : s.vocabulary.qualifier = (Vocabulary.defaultFor target).qualifier := by
      rw [h, Vocabulary.qualifier_defaultFor, Vocabulary.qualifier_defaultFor]
    rw [hqualifier, withTarget_of_atHome h]
  · rw [withTarget_of_not_atHome h]

/-! ## Two changes -/

theorem atHome_withTarget (h : s.AtHome) (target : String) : (s.withTarget target).AtHome := by
  rw [withTarget_of_atHome h]
  rfl

/-- Away from home, a target is met by its place alone. -/
theorem atHome_withTarget_iff (h : ¬s.AtHome) :
    (s.withTarget target).AtHome ↔ s.vocabulary = Vocabulary.defaultFor target := by
  rw [withTarget_of_not_atHome h]
  exact Iff.rfl

/-- From home on, the first of two targets does not count. -/
theorem withTarget_withTarget_of_atHome (h : s.AtHome) (a b : String) :
    (s.withTarget a).withTarget b = s.withTarget b := by
  rw [withTarget_of_atHome (atHome_withTarget h a), withTarget_of_atHome h,
    withTarget_of_atHome h]

/-- Neither does it if the vocabulary is at home under none of the two. -/
theorem withTarget_withTarget_of_away (h : ¬s.AtHome) (ha : ¬(s.withTarget a).AtHome)
    (b : String) : (s.withTarget a).withTarget b = s.withTarget b := by
  rw [withTarget_of_not_atHome ha, withTarget_of_not_atHome h, withTarget_of_not_atHome h]

/-- A vocabulary that comes home with the first target leaves with the second, and it is the same
without the first only if it has nowhere else to go. -/
theorem withTarget_withTarget_iff_of_arrived (h : ¬s.AtHome) (ha : (s.withTarget a).AtHome)
    (b : String) :
    (s.withTarget a).withTarget b = s.withTarget b ↔
      s.vocabulary = Vocabulary.defaultFor b := by
  rw [withTarget_of_atHome ha, withTarget_of_not_atHome h, withTarget_of_not_atHome h]
  constructor
  · intro heq
    exact (congrArg Settings.vocabulary heq).symm
  · intro hv
    rw [hv]

/-! ## A run of changes -/

/-- After a run of targets the last one decides as if it were the only one, unless the vocabulary
was away from home and came there on the way. Then it does so only if this is its place in the
end. -/
theorem withTarget_changedBy_iff (s : Settings) (targets : List String) (b : String) :
    (s.changedBy (targets.map .target)).withTarget b = s.withTarget b ↔
      s.AtHome ∨ (∀ a ∈ targets, s.vocabulary ≠ Vocabulary.defaultFor a) ∨
        s.vocabulary = Vocabulary.defaultFor b := by
  induction targets generalizing s with
  | nil => exact iff_of_true rfl (.inr (.inl fun a ha => absurd ha List.not_mem_nil))
  | cons a targets ih =>
    show ((s.withTarget a).changedBy (targets.map .target)).withTarget b = _ ↔ _
    -- At home the vocabulary stays so. Away from it, the first target either brings it home, for
    -- the rest of the run, or leaves it where it was.
    by_cases hhome : s.AtHome
    · rw [(ih _).2 (.inl (atHome_withTarget hhome a)), withTarget_withTarget_of_atHome hhome]
      exact iff_of_true rfl (.inl hhome)
    by_cases harrived : (s.withTarget a).AtHome
    · rw [(ih _).2 (.inl harrived), withTarget_withTarget_iff_of_arrived hhome harrived]
      have hplace := (atHome_withTarget_iff hhome).1 harrived
      constructor
      · exact fun hv => .inr (.inr hv)
      · rintro (h | hnone | hv)
        · exact absurd h hhome
        · exact absurd hplace (hnone a List.mem_cons_self)
        · exact hv
    · have hvocabulary : (s.withTarget a).vocabulary = s.vocabulary := by
        rw [withTarget_of_not_atHome hhome]
      have hplace := mt (atHome_withTarget_iff hhome).2 harrived
      rw [← withTarget_withTarget_of_away hhome harrived b, ih, hvocabulary, or_iff_right harrived,
        or_iff_right hhome, List.forall_mem_cons, and_iff_right hplace]

end Settings

/-! ## Settings that were accepted -/

namespace SettingsFile

variable {f : SettingsFile} {s : Settings}

/-- A file for Rust never leaves the vocabulary where Go has it. -/
theorem vocabulary_ne_go (h : f.toSettings = .ok s) (htarget : s.target = "rust") :
    s.vocabulary ≠ Vocabulary.defaultFor "go" := by
  rw [target_eq h] at htarget
  rw [vocabulary_eq h]
  by_cases hgo : f.vocabulary = Vocabulary.defaultFor "go"
  · rw [resolvedVocabulary_of_eq hgo, htarget]
    decide
  · rw [resolvedVocabulary_of_ne hgo]
    exact hgo

/-- The only place of another target that a file can put the vocabulary in is that of Rust, in a
file for Go. -/
theorem away_iff (h : f.toSettings = .ok s) {a : String} (ha : a ∈ knownTargets) :
    ¬s.AtHome ∧ s.vocabulary = Vocabulary.defaultFor a ↔
      s.target = "go" ∧ s.vocabulary = ⟨"crate::vocab", "vocab"⟩ ∧ a = "rust" := by
  have htarget := target_known h
  simp only [knownTargets, List.mem_cons, List.not_mem_nil, or_false] at htarget ha
  constructor
  · rintro ⟨haway, hplace⟩
    rcases htarget with hgo | hrust
    · rcases ha with rfl | rfl
      · exact absurd (hplace.trans (congrArg _ hgo.symm)) haway
      · exact ⟨hgo, hplace, rfl⟩
    · rcases ha with rfl | rfl
      · exact absurd hplace (vocabulary_ne_go h hrust)
      · exact absurd (hplace.trans (congrArg _ hrust.symm)) haway
  · rintro ⟨hgo, hplace, rfl⟩
    refine ⟨fun hhome => ?_, hplace⟩
    rw [Settings.AtHome, hgo, hplace] at hhome
    exact absurd hhome (by decide)

/-- Of two known targets the second decides as if it were the only one, unless they are Rust and
then Go, and Go finds the vocabulary that was put in the place of Rust. -/
theorem withTarget_withTarget_iff (h : f.toSettings = .ok s) {a b : String}
    (ha : a ∈ knownTargets) (hb : b ∈ knownTargets) :
    (s.withTarget a).withTarget b = s.withTarget b ↔
      ¬(s.target = "go" ∧ s.vocabulary = ⟨"crate::vocab", "vocab"⟩ ∧ a = "rust" ∧ b = "go") := by
  have hrun := s.withTarget_changedBy_iff [a] b
  rw [List.forall_mem_singleton] at hrun
  have haway := away_iff h ha
  refine Iff.trans hrun ⟨?_, fun hno => ?_⟩
  · rintro hkept ⟨hgo, hplace, rfl, rfl⟩
    obtain ⟨hhome, hplace⟩ := haway.2 ⟨hgo, hplace, rfl⟩
    rcases hkept with hkept | hkept | hkept
    · exact hhome hkept
    · exact hkept hplace
    · exact absurd (hplace.symm.trans hkept) (by decide)
  · by_cases hhome : s.AtHome
    · exact .inl hhome
    by_cases hplace : s.vocabulary = Vocabulary.defaultFor a
    · obtain ⟨hgo, hrust, ha⟩ := haway.1 ⟨hhome, hplace⟩
      simp only [knownTargets, List.mem_cons, List.not_mem_nil, or_false] at hb
      rcases hb with hb | hb
      · exact absurd ⟨hgo, hrust, ha, hb⟩ hno
      · exact .inr (.inr (by rw [hplace, ha, hb]))
    · exact .inr (.inl hplace)

end SettingsFile

/-- Of two targets the second decides as if it were the only one, and going back from the first
restores the settings, unless these are for Go with the vocabulary put by hand where Rust has it
by default: under Rust it is taken to be there by default, and Go moves it. -/
theorem Settings.retargeted_iff {f : SettingsFile} {s : Settings} (h : f.toSettings = .ok s)
    {a b : String} (ha : a ∈ knownTargets) (hb : b ∈ knownTargets) :
    ((s.withTarget a).withTarget b = s.withTarget b ↔
      ¬(s.target = "go" ∧ s.vocabulary = ⟨"crate::vocab", "vocab"⟩ ∧ a = "rust" ∧ b = "go")) ∧
    ((s.withTarget a).withTarget s.target = s ↔
      ¬(s.target = "go" ∧ s.vocabulary = ⟨"crate::vocab", "vocab"⟩ ∧ a = "rust")) ∧
    (s.target = "go" → s.vocabulary = ⟨"crate::vocab", "vocab"⟩ →
      (s.withTarget "rust").withTarget "go" = { s with vocabulary := {} }) := by
  refine ⟨SettingsFile.withTarget_withTarget_iff h ha hb, ?_, fun hgo hplace => ?_⟩
  · have hback := SettingsFile.withTarget_withTarget_iff h ha (SettingsFile.target_known h)
    rw [withTarget_self] at hback
    rw [hback]
    exact not_congr ⟨fun ⟨hgo, hplace, hrust, _⟩ => ⟨hgo, hplace, hrust⟩,
      fun ⟨hgo, hplace, hrust⟩ => ⟨hgo, hplace, hrust, hgo⟩⟩
  · obtain ⟨hhome, hplace⟩ :=
      (SettingsFile.away_iff h (a := "rust") (by decide)).2 ⟨hgo, hplace, rfl⟩
    rw [withTarget_of_atHome ((atHome_withTarget_iff hhome).2 hplace),
      withTarget_of_not_atHome hhome, Vocabulary.defaultFor_go, ← hgo]

/-- A path of the user's own is there again after Rust and back. -/
theorem retargeted_ownPath : ∃ s,
    SettingsFile.toSettings { vocabulary := ⟨"activity::vocab", "vocab"⟩ } = .ok s ∧
    "rust" ∈ knownTargets ∧ "go" ∈ knownTargets ∧
    (s.withTarget "rust").withTarget "go" = s.withTarget "go" ∧
    (s.withTarget "rust").withTarget "go" = s := by
  have hfile : ∃ s,
      SettingsFile.toSettings { vocabulary := ⟨"activity::vocab", "vocab"⟩ } = .ok s ∧
      s.target = "go" ∧ s.vocabulary ≠ ⟨"crate::vocab", "vocab"⟩ :=
    ⟨_, rfl, rfl, by decide⟩
  obtain ⟨s, hs, hgo, hplace⟩ := hfile
  have hrust : "rust" ∈ knownTargets := by decide
  have hgoKnown : "go" ∈ knownTargets := by decide
  obtain ⟨hpath, hback, -⟩ := Settings.retargeted_iff hs hrust hgoKnown
  rw [hgo] at hback
  exact ⟨s, hs, hrust, hgoKnown, hpath.2 fun h => hplace h.2.1, hback.2 fun h => hplace h.2.1⟩

/-- The place of Rust, put into a file for Go by hand, is lost after Rust and back. -/
theorem borrowedPath_lost : ∃ s,
    SettingsFile.toSettings { vocabulary := ⟨"crate::vocab", "vocab"⟩ } = .ok s ∧
    (s.withTarget "rust").withTarget "go" ≠ s.withTarget "go" ∧
    s.vocabulary.importPath = "crate::vocab" ∧
    ((s.withTarget "rust").withTarget "go").vocabulary.importPath =
      "github.com/go-fed/activity/streams/vocab" := by
  refine ⟨_, rfl, fun h => ?_, rfl, rfl⟩
  exact absurd (congrArg (fun t : Settings => t.vocabulary.importPath) h) (by decide)

/-! ## Another target in the file -/

/-- A file that is accepted is accepted for every known target. Only the target and the place of
the vocabulary depend on it. -/
theorem SettingsFile.toSettings_of_target {f : SettingsFile} {s : Settings}
    (h : f.toSettings = .ok s) {target : String} (ht : target ∈ knownTargets) :
    SettingsFile.toSettings { f with target } = .ok { s with
      target
      vocabulary := SettingsFile.resolvedVocabulary { f with target } } := by
  obtain ⟨hsound, registry, hregistry, rfl⟩ := toSettings_eq_ok_iff.1 h
  obtain ⟨-, hidentifiers, hobligatory⟩ := fault?_eq_none_iff.1 hsound
  exact toSettings_eq_ok_iff.2
    ⟨fault?_eq_none_iff.2 ⟨ht, hidentifiers, hobligatory⟩, registry, hregistry, rfl⟩

/-- A target that is changed later finds the vocabulary where the file would have it for this
target, unless the file is for Rust, names the place of Rust, and the target is Go. -/
theorem SettingsFile.importPath_withTarget_iff {f : SettingsFile} {s : Settings}
    (h : f.toSettings = .ok s) {target : String} (ht : target ∈ knownTargets) :
    (s.withTarget target).vocabulary.importPath =
        (SettingsFile.resolvedVocabulary { f with target }).importPath ↔
      ¬(f.target = "rust" ∧ target = "go" ∧ f.vocabulary = ⟨"crate::vocab", "vocab"⟩) := by
  have htarget := target_eq h
  have hvocabulary := vocabulary_eq h
  by_cases hgo : f.vocabulary = Vocabulary.defaultFor "go"
  · -- The file says nothing, so the place is that of the target both ways.
    rw [resolvedVocabulary_of_eq hgo, ← htarget] at hvocabulary
    rw [Settings.withTarget_of_atHome hvocabulary,
      resolvedVocabulary_of_eq (f := { f with target }) hgo]
    refine iff_of_true rfl fun ⟨_, _, hplace⟩ => ?_
    exact absurd (hgo.symm.trans hplace) (by decide)
  rw [resolvedVocabulary_of_ne (f := { f with target }) hgo]
  rw [resolvedVocabulary_of_ne hgo] at hvocabulary
  by_cases hhome : s.AtHome
  · -- The place is not that of Go, so the file is for Rust and names the place of Rust.
    have hplace : f.vocabulary = Vocabulary.defaultFor s.target := hvocabulary.symm.trans hhome
    have hrust : s.target = "rust" := by
      have hknown := target_known h
      simp only [knownTargets, List.mem_cons, List.not_mem_nil, or_false] at hknown
      exact hknown.resolve_left fun hno => hgo (hplace.trans (congrArg _ hno))
    rw [hrust] at hplace
    rw [Settings.withTarget_of_atHome hhome, hplace, ← htarget, hrust]
    simp only [knownTargets, List.mem_cons, List.not_mem_nil, or_false] at ht
    rcases ht with rfl | rfl
    · have hmoved : (Vocabulary.defaultFor "go").importPath ≠
          (Vocabulary.defaultFor "rust").importPath := by decide
      exact iff_of_false hmoved fun hno => hno ⟨rfl, rfl, rfl⟩
    · exact iff_of_true rfl fun hno => absurd hno.2.1 (by decide)
  · rw [Settings.withTarget_of_not_atHome hhome]
    refine iff_of_true (congrArg _ hvocabulary) fun ⟨hrust, _, hplace⟩ => hhome ?_
    rw [Settings.AtHome, hvocabulary, htarget, hplace, hrust]
    rfl

/-- A file that is accepted is accepted for every known target, and it stands for the settings
that a later change to this target gives, unless it is a file for Rust that names the place of
Rust and the target is Go. Then a later change moves the vocabulary, while the file keeps it, and
the two differ in nothing else. -/
theorem SettingsFile.toSettings_retargeted {f : SettingsFile} {s : Settings}
    (h : f.toSettings = .ok s) {target : String} (ht : target ∈ knownTargets) :
    ∃ t, SettingsFile.toSettings { f with target } = .ok t ∧
      (s.withTarget target = t ↔
        ¬(f.target = "rust" ∧ target = "go" ∧ f.vocabulary = ⟨"crate::vocab", "vocab"⟩)) ∧
      ((s.withTarget target).vocabulary.importPath = t.vocabulary.importPath ↔
        ¬(f.target = "rust" ∧ target = "go" ∧ f.vocabulary = ⟨"crate::vocab", "vocab"⟩)) ∧
      s.withTarget target = t.withVocabularyPath (s.withTarget target).vocabulary.importPath := by
  have hpath := importPath_withTarget_iff h ht
  have hqualifier : s.vocabulary.qualifier =
      (SettingsFile.resolvedVocabulary { f with target }).qualifier := by
    rw [vocabulary_eq h, qualifier_resolvedVocabulary, qualifier_resolvedVocabulary]
  have hframe := s.withTarget_frame target
  rw [hqualifier] at hframe
  refine ⟨_, toSettings_of_target h ht, ?_, hpath, hframe⟩
  rw [← hpath]
  -- By the frame, the path is all in which the two can differ.
  constructor
  · intro heq
    rw [heq]
  · intro hsame
    rw [hframe, hsame]

/-- A file for Rust that names the place of Rust: Go moves it later on and keeps it in the file,
and Rust changes nothing either way. -/
theorem toSettings_retargeted_rust : ∃ s t,
    SettingsFile.toSettings { target := "rust", vocabulary := ⟨"crate::vocab", "vocab"⟩ } =
      .ok s ∧
    SettingsFile.toSettings { target := "go", vocabulary := ⟨"crate::vocab", "vocab"⟩ } =
      .ok t ∧
    "go" ∈ knownTargets ∧ "rust" ∈ knownTargets ∧
    s.withTarget "go" ≠ t ∧
    (s.withTarget "go").vocabulary.importPath ≠ t.vocabulary.importPath ∧
    s.withTarget "rust" = s := by
  have hfile : ∃ s, SettingsFile.toSettings
      { target := "rust", vocabulary := ⟨"crate::vocab", "vocab"⟩ } = .ok s := ⟨_, rfl⟩
  obtain ⟨s, hs⟩ := hfile
  have hgo : "go" ∈ knownTargets := by decide
  have hrust : "rust" ∈ knownTargets := by decide
  obtain ⟨t, ht, hsame, hpath, -⟩ := SettingsFile.toSettings_retargeted hs hgo
  obtain ⟨u, hu, hkept, -, -⟩ := SettingsFile.toSettings_retargeted hs hrust
  rw [← Except.ok.inj (hs.symm.trans hu)] at hkept
  exact ⟨s, t, hs, ht, hgo, hrust, fun h => hsame.1 h ⟨rfl, rfl, rfl⟩,
    fun h => hpath.1 h ⟨rfl, rfl, rfl⟩, hkept.2 fun h => absurd h.2.1 (by decide)⟩

end UniformIter
