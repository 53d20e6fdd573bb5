import UniformIter.Document.Content
import UniformIter.Settings.Basic

/-!
# Writing settings files

A settings file as a document: every field, in order.
-/

namespace UniformIter

open Document (Content)

/-- The dispatch function as a mapping. -/
def Dispatch.content (d : Dispatch) : Content :=
  .mapping [("function", .string d.function), ("argument_type", .string d.argumentType),
    ("check_nil_argument", .boolean d.checkNil)]

/-- The vocabulary as a mapping. -/
def Vocabulary.content (v : Vocabulary) : Content :=
  .mapping [("import_path", .string v.importPath), ("qualifier", .string v.qualifier)]

/-- The names of a registry as a mapping. -/
def NameLists.content (n : NameLists) : Content :=
  .mapping [("supported", .sequence (n.supported.map .string)),
    ("unsupported", .sequence (n.unsupported.map .string))]

/-- A settings file as a mapping. -/
def SettingsFile.content (f : SettingsFile) : Content :=
  .mapping [("target", .string f.target), ("package", .string f.package),
    ("dispatch", f.dispatch.content), ("interface", .string f.interface),
    ("vocab", f.vocabulary.content), ("registry", f.registry.content)]

/-- The text of a settings file. -/
def SettingsFile.text (f : SettingsFile) : String := f.content.text

end UniformIter
