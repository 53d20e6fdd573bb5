import UniformIter.Registry.BuiltIn
import UniformIter.Settings.Validation

/-!
# Built-in settings

The settings of the two deployed units, and the text of an example file to start from.
-/

namespace UniformIter

/-- The two deployed units. -/
inductive Variant where
  /-- A private function that checks for a missing argument, without adapters for plain
  values. -/
  | fetch
  /-- A public function that does not check, with an adapter for every property. -/
  | fedutil
  deriving Repr, DecidableEq

namespace Variant

/-- The name of a unit. -/
def name : Variant → String
  | fetch => "fetch"
  | fedutil => "fedutil"

/-- Both units. -/
def all : List Variant := [fetch, fedutil]

/-- The unit with this name. -/
def ofName? (s : String) : Option Variant := all.find? (·.name == s)

/-- The settings file of a unit. -/
def file : Variant → SettingsFile
  | fetch =>
    { registry := ⟨BuiltIn.fetchSupported, BuiltIn.fetchUnsupported⟩ }
  | fedutil =>
    { package := "fedutil"
      dispatch := ⟨"Begin", "vocab.Type", false⟩
      registry := ⟨BuiltIn.fedutilSupported, []⟩ }

/-- The settings of a unit. -/
def settings (v : Variant) : Except Failure Settings := v.file.toSettings

end Variant

/-- The usual name of a settings file. -/
def usualFileName : String := "iterbridge.yaml"

/-- The lines of an example settings file. -/
def exampleLines : List String := [
    "# iterbridge generator configuration",
    "# Every field is optional; defaults match the fetch deployment.",
    "",
    "# Renderer: go or rust",
    "target: \"go\"",
    "",
    "# Package clause of the generated unit",
    "package: \"fetch\"",
    "",
    "# Dispatch function",
    "dispatch:",
    "  function: \"begin\"",
    "  argument_type: \"interface\x7b\x7d\"",
    "  # Reject nil before any type test",
    "  check_nil_argument: true",
    "",
    "# Interface implemented by every adapter",
    "interface: \"Iter\"",
    "",
    "# External iterator vocabulary (rust target default: crate::vocab)",
    "vocab:",
    "  import_path: \"github.com/go-fed/activity/streams/vocab\"",
    "  qualifier: \"vocab\"",
    "",
    "# Iterator type names; order is output order",
    "registry:",
    "  supported:",
    "    - \"ActivityStreamsObjectPropertyIterator\"",
    "    - \"ActivityStreamsToPropertyIterator\"",
    "  # Registered but left to the dispatch default branch",
    "  unsupported:",
    "    - \"ActivityStreamsNamePropertyIterator\""]

/-- The text of an example settings file. -/
def exampleText : String := String.join (exampleLines.map (· ++ "\n"))

end UniformIter
