import UniformIter.Proofs.Decoding.Written
import UniformIter.Settings.Decode
import UniformIter.Settings.Encode

/-!
# Reading back settings files

Whatever its strings are, a settings file that was written is read as itself (`ofText_text`). Its
text is a document that is read as the tree it was written from, and every record in this tree has
its entries in the order of its fields.
-/

namespace UniformIter

open Decoding Document

/-! ## The records inside -/

theorem Dispatch.record_content (d : Dispatch) {p : Place} (h : d.content.HeldBy p.node) :
    documentFormat.record "struct DispatchConfig" (Dispatch.fields documentFormat) {} p =
      .ok d := by
  have htakes : TakesAll (Dispatch.fields documentFormat)
      [("function", .string d.function), ("argument_type", .string d.argumentType),
        ("check_nil_argument", .boolean d.checkNil)]
      [fun e => { e with function := d.function },
        fun e => { e with argumentType := d.argumentType },
        fun e => { e with checkNil := d.checkNil }] :=
    ⟨takes_string _ _ _, takes_string _ _ _, takes_boolean _ _ _, trivial⟩
  exact record_written (by decide) htakes _ _ h

theorem Vocabulary.record_content (v : Vocabulary) {p : Place} (h : v.content.HeldBy p.node) :
    documentFormat.record "struct VocabConfig" (Vocabulary.fields documentFormat) {} p =
      .ok v := by
  have htakes : TakesAll (Vocabulary.fields documentFormat)
      [("import_path", .string v.importPath), ("qualifier", .string v.qualifier)]
      [fun w => { w with importPath := v.importPath },
        fun w => { w with qualifier := v.qualifier }] :=
    ⟨takes_string _ _ _, takes_string _ _ _, trivial⟩
  exact record_written (by decide) htakes _ _ h

theorem NameLists.record_content (n : NameLists) {p : Place} (h : n.content.HeldBy p.node) :
    documentFormat.record "struct RegistryConfig" (NameLists.fields documentFormat) {} p =
      .ok n := by
  have htakes : TakesAll (NameLists.fields documentFormat)
      [("supported", .sequence (n.supported.map .string)),
        ("unsupported", .sequence (n.unsupported.map .string))]
      [fun m => { m with supported := n.supported },
        fun m => { m with unsupported := n.unsupported }] :=
    ⟨takes_strings _ _ _, takes_strings _ _ _, trivial⟩
  exact record_written (by decide) htakes _ _ h

/-! ## Settings files -/

namespace SettingsFile

theorem ofDocument_content (f : SettingsFile) {n : Node} (h : f.content.HeldBy n) :
    ofDocument (some n) = .ok f := by
  have htakes : TakesAll (SettingsFile.fields documentFormat)
      [("target", .string f.target), ("package", .string f.package),
        ("dispatch", f.dispatch.content), ("interface", .string f.interface),
        ("vocab", f.vocabulary.content), ("registry", f.registry.content)]
      [fun g => { g with target := f.target }, fun g => { g with package := f.package },
        fun g => { g with dispatch := f.dispatch }, fun g => { g with interface := f.interface },
        fun g => { g with vocabulary := f.vocabulary },
        fun g => { g with registry := f.registry }] :=
    ⟨takes_string _ _ _, takes_string _ _ _,
      takes_of_read (fun _ => f.dispatch.record_content) _, takes_string _ _ _,
      takes_of_read (fun _ => f.vocabulary.record_content) _,
      takes_of_read (fun _ => f.registry.record_content) _, trivial⟩
  exact record_written (by decide) htakes _ _ h

/-- Every key of a settings file is a word. -/
theorem keyed_content (f : SettingsFile) : f.content.Keyed := by
  have hdispatch : f.dispatch.content.Keyed :=
    ⟨by decide, trivial, by decide, trivial, by decide, trivial, trivial⟩
  have hvocabulary : f.vocabulary.content.Keyed :=
    ⟨by decide, trivial, by decide, trivial, trivial⟩
  have hregistry : f.registry.content.Keyed :=
    ⟨by decide, Content.itemsKeyed_strings _, by decide, Content.itemsKeyed_strings _, trivial⟩
  exact ⟨by decide, trivial, by decide, trivial, by decide, hdispatch, by decide, trivial,
    by decide, hvocabulary, by decide, hregistry, trivial⟩

/-- A settings file that was written is read as itself. -/
theorem ofText_text (f : SettingsFile) : ofText f.text = .ok f := by
  obtain ⟨n, hread, hheld⟩ := f.content.read_text f.keyed_content
  rw [ofText, text, hread]
  dsimp only
  rw [f.ofDocument_content hheld]

end SettingsFile

end UniformIter
