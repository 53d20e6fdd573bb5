import UniformIter.Registry.Basic

/-!
# Settings of a unit

What a unit is generated from: its target language, the names that it declares, where the
vocabulary of iterator types lives, and the registry. A settings file holds the same with the
registry still as two lists of names. Every field has a default, that of the `fetch` unit.
-/

namespace UniformIter

/-- The function that a unit declares to choose an adapter. -/
structure Dispatch where
  function : String := "begin"
  /-- The declared type of its argument. -/
  argumentType : String := "interface\x7b\x7d"
  /-- Whether it refuses a missing argument before it looks at any type. -/
  checkNil : Bool := true
  deriving Repr, DecidableEq

/-- Where the vocabulary of iterator types lives. -/
structure Vocabulary where
  importPath : String := "github.com/go-fed/activity/streams/vocab"
  /-- What stands before the names of the vocabulary. -/
  qualifier : String := "vocab"
  deriving Repr, DecidableEq

/-- Where the vocabulary lives in a Rust crate, unless the settings say otherwise. -/
def rustVocabularyPath : String := "crate::vocab"

/-- Where the vocabulary lives for a target, unless the settings say otherwise. -/
def Vocabulary.defaultFor (target : String) : Vocabulary :=
  if target = "rust" then { importPath := rustVocabularyPath } else {}

/-- Whether this is where the vocabulary lives for a target without any settings. -/
def Vocabulary.isDefaultFor (v : Vocabulary) (target : String) : Bool :=
  v == Vocabulary.defaultFor target

/-- The names of a registry as a settings file lists them. -/
structure NameLists where
  supported : List String := []
  unsupported : List String := []
  deriving Repr, DecidableEq

/-- A settings file. -/
structure SettingsFile where
  target : String := "go"
  package : String := "fetch"
  dispatch : Dispatch := {}
  /-- The interface that every adapter implements. -/
  interface : String := "Iter"
  vocabulary : Vocabulary := {}
  registry : NameLists := {}
  deriving Repr, DecidableEq

/-- The settings of a unit. -/
structure Settings where
  target : String
  package : String
  dispatch : Dispatch
  interface : String
  vocabulary : Vocabulary
  registry : Registry
  deriving DecidableEq

namespace Settings

/-- The same settings for another target. A vocabulary that lives where the old target has it
by default moves to where the new target has it; any other stays. -/
def withTarget (s : Settings) (target : String) : Settings :=
  { s with
    vocabulary :=
      if s.vocabulary.isDefaultFor s.target then Vocabulary.defaultFor target else s.vocabulary
    target }

/-- The same settings with the vocabulary at another path. -/
def withVocabularyPath (s : Settings) (importPath : String) : Settings :=
  { s with vocabulary := { s.vocabulary with importPath } }

end Settings

end UniformIter
