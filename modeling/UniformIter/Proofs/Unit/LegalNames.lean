import UniformIter.Proofs.Naming.Spellings
import UniformIter.Proofs.Settings.Acceptance
import UniformIter.Unit.Go
import UniformIter.Unit.Rust

/-!
# Which given names are legal

The names that a unit takes from its settings have the form of names in both languages, and
still have it after snake case. The form is all that is looked at: a word that the target
language keeps for itself is accepted, and so is the underscore alone
(`reservedNames_accepted`). `legalNames_iff` says for which settings all names are legal. In
Rust the dispatch function has more names to keep clear of than the other two, since `Match` is
no word of the language and its spelling in snake case is one.
-/

namespace UniformIter

/-! ## Names of a language -/

/-- The form of a name in Go and in Rust, as far as ASCII goes: letters, digits and underscores,
with no digit at the front. -/
def IsName (name : String) : Prop :=
  ∃ c r, name.toList = c :: r ∧ (c.isAlpha = true ∨ c = '_') ∧
    ∀ d ∈ r, d.isAlphanum = true ∨ d = '_'

/-- A name that can be declared and used in a language with these reserved words. -/
structure IsLegal (reserved : List String) (name : String) : Prop where
  form : IsName name
  free : name ∉ reserved
  visible : name ≠ "_"

/-- The reserved words of Go. -/
def Go.reservedWords : List String :=
  ["break", "case", "chan", "const", "continue", "default", "defer", "else", "fallthrough", "for",
    "func", "go", "goto", "if", "import", "interface", "map", "package", "range", "return",
    "select", "struct", "switch", "type", "var"]

/-- The reserved words of Rust in its edition of 2021: those in use and those kept for later. -/
def Rust.reservedWords : List String :=
  ["as", "async", "await", "break", "const", "continue", "crate", "dyn", "else", "enum", "extern",
    "false", "fn", "for", "if", "impl", "in", "let", "loop", "match", "mod", "move", "mut", "pub",
    "ref", "return", "self", "Self", "static", "struct", "super", "trait", "true", "type",
    "unsafe", "use", "where", "while"] ++
  ["abstract", "become", "box", "do", "final", "macro", "override", "priv", "try", "typeof",
    "unsized", "virtual", "yield"]

/-- The names that snake case makes reserved words of Rust. -/
def Rust.reservedSpellings : List String :=
  (Rust.reservedWords.filter isSmallWord).flatMap spellings

/-! ## Names of a unit -/

/-- The names that a unit in Go takes from its settings. -/
def Go.givenNames (s : Settings) : List String :=
  [s.package, s.dispatch.function, s.interface, s.vocabulary.qualifier]

/-- The names that a unit in Rust takes from its settings. -/
def Rust.givenNames (s : Settings) : List String :=
  [Rust.functionName s, s.interface, s.vocabulary.qualifier]

/-- Identifiers have the form of names. -/
theorem isName_of_isIdentifier {name : String} (h : isIdentifier name = true) : IsName name := by
  unfold isIdentifier at h
  cases hs : name.toList with
  | nil => rw [hs] at h; exact absurd h (by simp)
  | cons c r =>
    rw [hs, formIdentifier_cons, Bool.and_eq_true] at h
    refine ⟨c, r, hs, ?_, fun d hd => ?_⟩
    · exact of_continues (p := fun c => startsIdentifier c = true → c.isAlpha = true ∨ c = '_')
        (by decide) (continuesIdentifier_of_starts h.1) h.1
    · exact of_continues (p := fun d => d.isAlphanum = true ∨ d = '_') (by decide)
        (List.all_eq_true.1 h.2 d hd)

/-- What makes an identifier legal. -/
theorem isLegal_iff {reserved : List String} {name : String} (h : isIdentifier name = true) :
    IsLegal reserved name ↔ name ∉ "_" :: reserved := by
  rw [List.mem_cons, not_or]
  exact ⟨fun hl => ⟨hl.visible, hl.free⟩, fun hn => ⟨isName_of_isIdentifier h, hn.2, hn.1⟩⟩

theorem reservedWords_spelled : ∀ w ∈ Rust.reservedWords,
    isSmallWord w = true ∨ w.toList.any isCapital = true := by
  decide

/-- What makes the dispatch function of a unit in Rust legal. -/
theorem isLegal_functionName_iff {s : Settings} (h : isIdentifier s.dispatch.function = true) :
    IsLegal Rust.reservedWords (Rust.functionName s) ↔
      s.dispatch.function ∉ "_" :: Rust.reservedSpellings := by
  unfold Rust.functionName
  rw [isLegal_iff (isIdentifier_snakeCase h), List.mem_cons, List.mem_cons,
    snakeCase_eq_underscore_iff h, snakeCase_mem_iff h reservedWords_spelled]
  rfl

variable {f : SettingsFile} {s : Settings}

/-- When the names that a unit takes from accepted settings are legal in its language. They have
the form of names in any case. -/
theorem legalNames_iff (h : f.toSettings = .ok s) :
    (∀ n ∈ Go.givenNames s ++ Rust.givenNames s, IsName n) ∧
    (s.target = "go" → ((∀ n ∈ Go.givenNames s, IsLegal Go.reservedWords n) ↔
      ∀ n ∈ Go.givenNames s, n ∉ "_" :: Go.reservedWords)) ∧
    (s.target = "rust" → ((∀ n ∈ Rust.givenNames s, IsLegal Rust.reservedWords n) ↔
      s.dispatch.function ∉ "_" :: Rust.reservedSpellings ∧
      ∀ n ∈ [s.interface, s.vocabulary.qualifier], n ∉ "_" :: Rust.reservedWords)) := by
  have hs := SettingsFile.sound_of_toSettings h
  have hgo : ∀ n ∈ Go.givenNames s, isIdentifier n = true := by
    simp only [Go.givenNames, List.forall_mem_cons]
    exact ⟨hs.package, hs.function, hs.interface, hs.qualifier, by simp⟩
  have hfunction : isIdentifier (Rust.functionName s) = true := isIdentifier_snakeCase hs.function
  have hothers : ∀ n ∈ [s.interface, s.vocabulary.qualifier], isIdentifier n = true := by
    simp only [List.forall_mem_cons]
    exact ⟨hs.interface, hs.qualifier, by simp⟩
  refine ⟨?_, fun _ => ?_, fun _ => ?_⟩
  · intro n hn
    refine isName_of_isIdentifier ?_
    rcases List.mem_append.1 hn with hn | hn
    · exact hgo n hn
    · rcases List.mem_cons.1 hn with rfl | hn
      · exact hfunction
      · exact hothers n hn
  · exact forall₂_congr fun n hn => isLegal_iff (hgo n hn)
  · rw [Rust.givenNames, List.forall_mem_cons, isLegal_functionName_iff hs.function]
    exact and_congr_right' (forall₂_congr fun n hn => isLegal_iff (hothers n hn))

/-- A settings file for Rust in camel case. -/
def matchIterable : SettingsFile where
  target := "rust"
  dispatch := { function := "matchIterable" }

/-- Its unit has legal names throughout. -/
theorem legalNames_matchIterable : ∃ s, matchIterable.toSettings = .ok s ∧ s.target = "rust" ∧
    ∀ n ∈ Rust.givenNames s, IsLegal Rust.reservedWords n := by
  refine ⟨_, rfl, rfl, ?_⟩
  refine ((legalNames_iff (f := matchIterable) rfl).2.2 rfl).2 ⟨?_, ?_⟩
  · decide
  · decide

/-- A settings file for Go that names its package as Go names functions. -/
def functionPackage : SettingsFile where
  package := "func"

/-- A settings file for Rust whose dispatch function is the keyword of its own body, in Pascal
case. -/
def matchFunction : SettingsFile where
  target := "rust"
  dispatch := { function := "Match" }

/-- Both are accepted, and their units take names that are not legal. -/
theorem reservedNames_accepted :
    (∃ s, functionPackage.toSettings = .ok s ∧ s.target = "go" ∧
      ¬∀ n ∈ Go.givenNames s, IsLegal Go.reservedWords n) ∧
    ∃ s, matchFunction.toSettings = .ok s ∧ s.target = "rust" ∧
      ¬∀ n ∈ Rust.givenNames s, IsLegal Rust.reservedWords n := by
  refine ⟨⟨_, rfl, rfl, fun hall => ?_⟩, _, rfl, rfl, fun hall => ?_⟩
  · exact absurd (by decide) (hall "func" List.mem_cons_self).free
  · exact absurd (by decide) (hall "match" List.mem_cons_self).free

end UniformIter
