import UniformIter.Decoding.OfDocument
import UniformIter.Decoding.OfJson
import UniformIter.Failure
import UniformIter.Settings.Basic

/-!
# Reading settings files

A settings file has the same fields in every format, and each of its records begins with the
defaults.
-/

namespace UniformIter

open Decoding (Format Field)

variable {ν ε : Type}

/-- The fields of the dispatch function. -/
def Dispatch.fields (F : Format ν ε) : List (Field ν ε Dispatch) :=
  [F.stringField "function" fun function d => { d with function },
    F.stringField "argument_type" fun argumentType d => { d with argumentType },
    F.booleanField "check_nil_argument" fun checkNil d => { d with checkNil }]

/-- The fields of the vocabulary. -/
def Vocabulary.fields (F : Format ν ε) : List (Field ν ε Vocabulary) :=
  [F.stringField "import_path" fun importPath v => { v with importPath },
    F.stringField "qualifier" fun qualifier v => { v with qualifier }]

/-- The fields of the registry. -/
def NameLists.fields (F : Format ν ε) : List (Field ν ε NameLists) :=
  [F.stringsField "supported" fun supported n => { n with supported },
    F.stringsField "unsupported" fun unsupported n => { n with unsupported }]

namespace SettingsFile

/-- The fields of a settings file. -/
def fields (F : Format ν ε) : List (Field ν ε SettingsFile) :=
  [F.stringField "target" fun target f => { f with target },
    F.stringField "package" fun package f => { f with package },
    ⟨"dispatch", fun v =>
      (F.record "struct DispatchConfig" (Dispatch.fields F) {} v).map fun dispatch f =>
        { f with dispatch }⟩,
    F.stringField "interface" fun interface f => { f with interface },
    ⟨"vocab", fun v =>
      (F.record "struct VocabConfig" (Vocabulary.fields F) {} v).map fun vocabulary f =>
        { f with vocabulary }⟩,
    ⟨"registry", fun v =>
      (F.record "struct RegistryConfig" (NameLists.fields F) {} v).map fun registry f =>
        { f with registry }⟩]

/-- The settings file in a value of some format. -/
def decode (F : Format ν ε) (v : ν) : Except ε SettingsFile :=
  F.record "struct GeneratorConfigFile" (fields F) {} v

/-- The settings file in a JSON value. -/
def ofJson (v : Json) : Except Decoding.Fault SettingsFile := decode Decoding.jsonFormat v

/-- The settings file in a document with this root. -/
def ofDocument (root : Option Document.Node) : Except Decoding.PlacedFault SettingsFile :=
  decode Decoding.documentFormat (Decoding.rootPlace root)

/-- The settings file in a text. -/
def ofText (text : String) : Except Failure SettingsFile :=
  match Document.read text with
  | none => .error (.settings .malformed)
  | some root =>
    match ofDocument root with
    | .ok f => .ok f
    | .error fault => .error (.settings (.undecodable fault))

end SettingsFile

end UniformIter
