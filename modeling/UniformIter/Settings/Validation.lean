import UniformIter.Failure
import UniformIter.Settings.Basic

/-!
# From a settings file to settings

A settings file is checked field by field, and its names are made into a registry. The first
check that fails is the one that is told.
-/

namespace UniformIter

namespace Text

/-- The white space of Unicode. -/
def isWhiteSpace (c : Char) : Bool :=
  let n := c.toNat
  (0x09 ≤ n && n ≤ 0x0D) || n == 0x20 || n == 0x85 || n == 0xA0 || n == 0x1680 ||
    (0x2000 ≤ n && n ≤ 0x200A) || n == 0x2028 || n == 0x2029 || n == 0x202F ||
    n == 0x205F || n == 0x3000

/-- Whether a text holds only white space, or nothing. -/
def isBlankText (s : String) : Bool := s.toList.all isWhiteSpace

end Text

/-- The targets that a settings file may name. -/
def knownTargets : List String := ["go", "rust"]

namespace SettingsFile

/-- The fields that have to be identifiers, in the order in which they are checked. -/
def identifiers (f : SettingsFile) : List (String × String) :=
  [("package", f.package), ("dispatch.function", f.dispatch.function),
    ("interface", f.interface), ("vocab.qualifier", f.vocabulary.qualifier)]

/-- The fields that may not be blank, in the order in which they are checked. -/
def obligatory (f : SettingsFile) : List (String × String) :=
  [("dispatch.argument_type", f.dispatch.argumentType),
    ("vocab.import_path", f.vocabulary.importPath)]

/-- What is wrong with a settings file, its names apart. -/
def fault? (f : SettingsFile) : Option SettingsFault :=
  if !knownTargets.contains f.target then some (.invalidTarget f.target)
  else
    match f.identifiers.find? fun (_, value) => !isIdentifier value with
    | some (field, value) => some (.notIdentifier field value)
    | none =>
      (f.obligatory.find? fun (_, value) => Text.isBlankText value).map fun (field, _) =>
        .blank field

/-- Checks a settings file, its names apart. -/
def validate (f : SettingsFile) : Except Failure Unit :=
  match f.fault? with
  | some fault => .error (.settings fault)
  | none => .ok ()

/-- Where the vocabulary lives. A file that leaves it where it is by default gets the default
of its target. -/
def resolvedVocabulary (f : SettingsFile) : Vocabulary :=
  if f.vocabulary.isDefaultFor "go" then Vocabulary.defaultFor f.target else f.vocabulary

/-- The settings that a file stands for. -/
def toSettings (f : SettingsFile) : Except Failure Settings :=
  match f.fault? with
  | some fault => .error (.settings fault)
  | none =>
    match Registry.ofNames f.registry.supported f.registry.unsupported with
    | .error fault => .error (.registry fault)
    | .ok registry => .ok
      { target := f.target
        package := f.package
        dispatch := f.dispatch
        interface := f.interface
        vocabulary := f.resolvedVocabulary
        registry }

end SettingsFile

end UniformIter
