import UniformIter.Proofs.Decoding.Selection
import UniformIter.Proofs.Settings.Vocabulary

/-!
# What a document says

Which documents are settings files, and what is in them. Every record of a settings file is
read by its fields alone: `SettingsFile.kinds` says what each field takes, `SettingsFile.HeldAt`
which value each has. The defaults are filled in field by field, so it makes no difference
whether a record is left out, empty, or there in part (`SettingsFile.decoded_of_read`).

A truth value is more than a plain word (`taggedBlock_decoded`): a literal block with the tag of
truth values is one too, and without the tag it is none.
-/

namespace UniformIter

open Decoding (FieldKind Place ToldByFields accepts_string accepts_boolean accepts_strings
  toOption_eq_some_iff rootPlace documentFormat)

/-! ## Kinds of fields -/

/-- What the fields of the dispatch function take. -/
def Dispatch.kinds : List FieldKind :=
  [.text "function", .text "argument_type", .truth "check_nil_argument"]

/-- What the fields of the vocabulary take. -/
def Vocabulary.kinds : List FieldKind := [.text "import_path", .text "qualifier"]

/-- What the fields of the registry take. -/
def NameLists.kinds : List FieldKind := [.texts "supported", .texts "unsupported"]

/-- What the fields of a settings file take. -/
def SettingsFile.kinds : List FieldKind :=
  [.text "target", .text "package", .record "dispatch" Dispatch.kinds, .text "interface",
    .record "vocab" Vocabulary.kinds, .record "registry" NameLists.kinds]

/-! ## Values of fields -/

/-- What stands at a place for the dispatch function. -/
structure Dispatch.HeldAt (p : Place) (d : Dispatch) : Prop where
  function : p.Fills "function" Place.HoldsText "begin" d.function
  argumentType : p.Fills "argument_type" Place.HoldsText "interface\x7b\x7d" d.argumentType
  checkNil : p.Fills "check_nil_argument" Place.HoldsTruth true d.checkNil

/-- What stands at a place for the vocabulary. -/
structure Vocabulary.HeldAt (p : Place) (v : Vocabulary) : Prop where
  importPath : p.Fills "import_path" Place.HoldsText "github.com/go-fed/activity/streams/vocab"
    v.importPath
  qualifier : p.Fills "qualifier" Place.HoldsText "vocab" v.qualifier

/-- What stands at a place for the registry. -/
structure NameLists.HeldAt (p : Place) (n : NameLists) : Prop where
  supported : p.Fills "supported" Place.HoldsTexts [] n.supported
  unsupported : p.Fills "unsupported" Place.HoldsTexts [] n.unsupported

/-- What stands at a place for a settings file. -/
structure SettingsFile.HeldAt (p : Place) (f : SettingsFile) : Prop where
  target : p.Fills "target" Place.HoldsText "go" f.target
  package : p.Fills "package" Place.HoldsText "fetch" f.package
  dispatch : p.Fills "dispatch" Dispatch.HeldAt {} f.dispatch
  interface : p.Fills "interface" Place.HoldsText "Iter" f.interface
  vocabulary : p.Fills "vocab" Vocabulary.HeldAt {} f.vocabulary
  registry : p.Fills "registry" NameLists.HeldAt {} f.registry

/-! ## The records inside -/

section Unique

variable {p : Place}

theorem Decoding.Place.HoldsText.unique {a b : String} (ha : p.HoldsText a)
    (hb : p.HoldsText b) : a = b :=
  Except.ok.inj ((Place.string_eq_ok_iff.2 ha).symm.trans (Place.string_eq_ok_iff.2 hb))

theorem Decoding.Place.HoldsTruth.unique {a b : Bool} (ha : p.HoldsTruth a)
    (hb : p.HoldsTruth b) : a = b :=
  Except.ok.inj ((Place.boolean_eq_ok_iff.2 ha).symm.trans (Place.boolean_eq_ok_iff.2 hb))

theorem Decoding.Place.HoldsTexts.unique {a b : List String} (ha : p.HoldsTexts a)
    (hb : p.HoldsTexts b) : a = b :=
  Except.ok.inj ((Place.strings_eq_ok_iff.2 ha).symm.trans (Place.strings_eq_ok_iff.2 hb))

end Unique

theorem Dispatch.toldByFields :
    ToldByFields (Dispatch.fields documentFormat) Dispatch.kinds {} Dispatch.HeldAt where
  names := by decide
  accepts := .cons (accepts_string _ _) <| .cons (accepts_string _ _) <|
    .cons (accepts_boolean _ _) .nil
  held title p d h := by
    have hfields := Dispatch.governs documentFormat
    simp only [slots, List.forall_mem_cons] at hfields
    obtain ⟨hfunction, hargument, hcheck, -⟩ := hfields
    exact ⟨hfunction.fills (by decide) (fun _ _ => Place.string_eq_ok_iff.1) h,
      hargument.fills (by decide) (fun _ _ => Place.string_eq_ok_iff.1) h,
      hcheck.fills (by decide) (fun _ _ => Place.boolean_eq_ok_iff.1) h⟩
  unique p a b ha hb := by
    cases a
    cases b
    congr
    · exact ha.function.unique (fun _ => Place.HoldsText.unique) hb.function
    · exact ha.argumentType.unique (fun _ => Place.HoldsText.unique) hb.argumentType
    · exact ha.checkNil.unique (fun _ => Place.HoldsTruth.unique) hb.checkNil
  same p q d h hp := by
    have hfunction : FieldKind.text "function" ∈ Dispatch.kinds := by simp [kinds]
    have hargument : FieldKind.text "argument_type" ∈ Dispatch.kinds := by simp [kinds]
    have hcheck : FieldKind.truth "check_nil_argument" ∈ Dispatch.kinds := by simp [kinds]
    exact ⟨h.fills_text hfunction hp.function, h.fills_text hargument hp.argumentType,
      h.fills_truth hcheck hp.checkNil⟩

theorem Vocabulary.toldByFields :
    ToldByFields (Vocabulary.fields documentFormat) Vocabulary.kinds {} Vocabulary.HeldAt where
  names := by decide
  accepts := .cons (accepts_string _ _) <| .cons (accepts_string _ _) .nil
  held title p v h := by
    have hfields := Vocabulary.governs documentFormat
    simp only [slots, List.forall_mem_cons] at hfields
    obtain ⟨hpath, hqualifier, -⟩ := hfields
    exact ⟨hpath.fills (by decide) (fun _ _ => Place.string_eq_ok_iff.1) h,
      hqualifier.fills (by decide) (fun _ _ => Place.string_eq_ok_iff.1) h⟩
  unique p a b ha hb := by
    cases a
    cases b
    congr
    · exact ha.importPath.unique (fun _ => Place.HoldsText.unique) hb.importPath
    · exact ha.qualifier.unique (fun _ => Place.HoldsText.unique) hb.qualifier
  same p q v h hp := by
    have hpath : FieldKind.text "import_path" ∈ Vocabulary.kinds := by simp [kinds]
    have hqualifier : FieldKind.text "qualifier" ∈ Vocabulary.kinds := by simp [kinds]
    exact ⟨h.fills_text hpath hp.importPath, h.fills_text hqualifier hp.qualifier⟩

theorem NameLists.toldByFields :
    ToldByFields (NameLists.fields documentFormat) NameLists.kinds {} NameLists.HeldAt where
  names := by decide
  accepts := .cons (accepts_strings _ _) <| .cons (accepts_strings _ _) .nil
  held title p n h := by
    have hfields := NameLists.governs documentFormat
    simp only [slots, List.forall_mem_cons] at hfields
    obtain ⟨hsupported, hunsupported, -⟩ := hfields
    exact ⟨hsupported.fills (by decide) (fun _ _ => Place.strings_eq_ok_iff.1) h,
      hunsupported.fills (by decide) (fun _ _ => Place.strings_eq_ok_iff.1) h⟩
  unique p a b ha hb := by
    cases a
    cases b
    congr
    · exact ha.supported.unique (fun _ => Place.HoldsTexts.unique) hb.supported
    · exact ha.unsupported.unique (fun _ => Place.HoldsTexts.unique) hb.unsupported
  same p q n h hp := by
    have hsupported : FieldKind.texts "supported" ∈ NameLists.kinds := by simp [kinds]
    have hunsupported : FieldKind.texts "unsupported" ∈ NameLists.kinds := by simp [kinds]
    exact ⟨h.fills_texts hsupported hp.supported, h.fills_texts hunsupported hp.unsupported⟩

/-! ## Settings files -/

namespace SettingsFile

theorem toldByFields :
    ToldByFields (fields documentFormat) kinds {} HeldAt where
  names := by decide
  accepts := .cons (accepts_string _ _) <| .cons (accepts_string _ _) <|
    .cons (Dispatch.toldByFields.accepts_field _ _ _) <| .cons (accepts_string _ _) <|
    .cons (Vocabulary.toldByFields.accepts_field _ _ _) <|
    .cons (NameLists.toldByFields.accepts_field _ _ _) .nil
  held title p f h := by
    have hfields := governs documentFormat
    simp only [slots, List.forall_mem_cons] at hfields
    obtain ⟨htarget, hpackage, hdispatch, hinterface, hvocabulary, hregistry, -⟩ := hfields
    exact ⟨htarget.fills (by decide) (fun _ _ => Place.string_eq_ok_iff.1) h,
      hpackage.fills (by decide) (fun _ _ => Place.string_eq_ok_iff.1) h,
      hdispatch.fills (by decide) (fun w d => Dispatch.toldByFields.held _ w d) h,
      hinterface.fills (by decide) (fun _ _ => Place.string_eq_ok_iff.1) h,
      hvocabulary.fills (by decide) (fun w v => Vocabulary.toldByFields.held _ w v) h,
      hregistry.fills (by decide) (fun w n => NameLists.toldByFields.held _ w n) h⟩
  unique p a b ha hb := by
    cases a
    cases b
    congr
    · exact ha.target.unique (fun _ => Place.HoldsText.unique) hb.target
    · exact ha.package.unique (fun _ => Place.HoldsText.unique) hb.package
    · exact ha.dispatch.unique (fun w => Dispatch.toldByFields.unique w _ _) hb.dispatch
    · exact ha.interface.unique (fun _ => Place.HoldsText.unique) hb.interface
    · exact ha.vocabulary.unique (fun w => Vocabulary.toldByFields.unique w _ _) hb.vocabulary
    · exact ha.registry.unique (fun w => NameLists.toldByFields.unique w _ _) hb.registry
  same p q f h hp := by
    have htarget : FieldKind.text "target" ∈ kinds := by simp [kinds]
    have hpackage : FieldKind.text "package" ∈ kinds := by simp [kinds]
    have hdispatch : FieldKind.record "dispatch" Dispatch.kinds ∈ kinds := by simp [kinds]
    have hinterface : FieldKind.text "interface" ∈ kinds := by simp [kinds]
    have hvocabulary : FieldKind.record "vocab" Vocabulary.kinds ∈ kinds := by simp [kinds]
    have hregistry : FieldKind.record "registry" NameLists.kinds ∈ kinds := by simp [kinds]
    exact ⟨h.fills_text htarget hp.target, h.fills_text hpackage hp.package,
      Dispatch.toldByFields.fills h hdispatch hp.dispatch,
      h.fills_text hinterface hp.interface,
      Vocabulary.toldByFields.fills h hvocabulary hp.vocabulary,
      NameLists.toldByFields.fills h hregistry hp.registry⟩

/-- Two documents that are the same record are the same settings file. -/
theorem ofDocument_congr {root root' : Option Document.Node} {f : SettingsFile}
    (h : (rootPlace root).Rearranged kinds (rootPlace root')) :
    ofDocument root = .ok f ↔ ofDocument root' = .ok f := by
  unfold ofDocument decode
  exact toldByFields.record_congr h

/-- What a text is read as, if it is a document. -/
theorem ofText_eq_ok_iff {text : String} {root : Option Document.Node}
    (hread : Document.read text = some root) {f : SettingsFile} :
    ofText text = .ok f ↔ ofDocument root = .ok f := by
  unfold ofText
  rw [hread]
  dsimp only
  cases ofDocument root with
  | ok g => exact ⟨fun h => congrArg _ (Except.ok.inj h), fun h => congrArg _ (Except.ok.inj h)⟩
  | error fault => exact ⟨nofun, nofun⟩

/-- A document is a settings file exactly if each of its records has scalars for keys, no field
twice, and in each field what the field takes. Then every field has the value that stands there,
and its default if none does. The same record in another order and with other entries between is
the same settings file; so neither the order of the keys nor a key that no field goes by makes a
difference, whatever stands behind it. -/
theorem decoded_of_read {text : String} {root : Option Document.Node}
    (hread : Document.read text = some root) :
    ((∃ f, ofText text = .ok f) ↔ (rootPlace root).Fits kinds) ∧
    (∀ f, ofText text = .ok f → HeldAt (rootPlace root) f) ∧
    (∀ text' root', Document.read text' = some root' →
      (rootPlace root).Rearranged kinds (rootPlace root') →
      ∀ f, ofText text = .ok f ↔ ofText text' = .ok f) ∧
    ∀ text' root' es fs, Document.read text' = some root' →
      (rootPlace root).SameEntries kinds (rootPlace root') es fs →
      ∀ f, ofText text = .ok f ↔ ofText text' = .ok f := by
  have hcongr : ∀ text' root', Document.read text' = some root' →
      (rootPlace root).Rearranged kinds (rootPlace root') →
      ∀ f, ofText text = .ok f ↔ ofText text' = .ok f := by
    intro text' root' hread' hsame f
    rw [ofText_eq_ok_iff hread, ofText_eq_ok_iff hread']
    exact ofDocument_congr hsame
  refine ⟨?_, fun f hf => ?_, hcongr, fun text' root' es fs hread' hsame =>
    hcongr text' root' hread' hsame.rearranged⟩
  · have hdocument : (∃ f, ofText text = .ok f) ↔ ∃ f, ofDocument root = .ok f :=
      exists_congr fun _ => ofText_eq_ok_iff hread
    rw [hdocument]
    exact toldByFields.exists_iff
  · exact toldByFields.held _ _ f ((ofText_eq_ok_iff hread).1 hf)

end SettingsFile

/-- A document with a part of a record, an empty list and a few entries that mean nothing. -/
def partialDocument : String :=
  "other: [1, 2]\ndispatch:\n  unknown: x\n  function: start\nregistry:\n  supported:\nother: y\n"

theorem decoded_partialDocument : ∃ root f, Document.read partialDocument = some root ∧
    SettingsFile.ofText partialDocument = .ok f ∧ (rootPlace root).Fits SettingsFile.kinds ∧
    SettingsFile.HeldAt (rootPlace root) f ∧ f = { dispatch := { function := "start" } } := by
  have hfile : (SettingsFile.ofText partialDocument).toOption =
      some { dispatch := { function := "start" } } := by
    decide +kernel
  have hf := toOption_eq_some_iff.1 hfile
  cases hread : Document.read partialDocument with
  | none =>
    rw [SettingsFile.ofText, hread] at hf
    cases hf
  | some root =>
    obtain ⟨hfits, hheld, -⟩ := SettingsFile.decoded_of_read hread
    exact ⟨root, _, rfl, hf, hfits.1 ⟨_, hf⟩, hheld _ hf, rfl⟩

/-- A truth value as a literal block with the tag of truth values. -/
def taggedBlock : String := "dispatch:\n  check_nil_argument: !!bool |-\n    false\n"

/-- The same block without the tag. -/
def untaggedBlock : String := "dispatch:\n  check_nil_argument: |-\n    false\n"

/-- A record with a sequence for a key. -/
def sequenceKey : String := "dispatch:\n  ? [function]\n  : begin\n"

/-- The scalars that stand for the truth value in a text. -/
def writtenTruth (text : String) : Option (List (Option Document.Scalar)) :=
  (Document.read text).map fun root =>
    ((rootPlace root).reached ["dispatch", "check_nil_argument"]).map Place.scalar?

/-- Whether a text is a settings file is not told by its truth value being plain, and not by its
being without quotes; and a key that is no scalar is refused where no field goes by it. -/
theorem taggedBlock_decoded :
    ((∃ f, SettingsFile.ofText taggedBlock = .ok f) ∧ writtenTruth taggedBlock =
      some [some ⟨.literal, "false", some (Document.Tag.standard "bool")⟩]) ∧
    ((¬∃ f, SettingsFile.ofText untaggedBlock = .ok f) ∧
      writtenTruth untaggedBlock = some [some ⟨.literal, "false", none⟩]) ∧
    ((¬∃ f, SettingsFile.ofText sequenceKey = .ok f) ∧
      ∃ root, Document.read sequenceKey = some root ∧ (rootPlace root).HasKeys ∧
        ∀ kind ∈ Dispatch.kinds, (rootPlace root).reached ["dispatch", kind.name] = []) := by
  have hok : ∀ {text : String}, (SettingsFile.ofText text).toOption.isSome = true →
      ∃ f, SettingsFile.ofText text = .ok f := by
    intro text h
    obtain ⟨f, hf⟩ := Option.isSome_iff_exists.1 h
    exact ⟨f, toOption_eq_some_iff.1 hf⟩
  have hno : ∀ {text : String}, (SettingsFile.ofText text).toOption = none →
      ¬∃ f, SettingsFile.ofText text = .ok f := by
    rintro text h ⟨f, hf⟩
    rw [hf] at h
    cases h
  refine ⟨⟨hok (by decide +kernel), by decide +kernel⟩,
    ⟨hno (by decide +kernel), by decide +kernel⟩, hno (by decide +kernel), ?_⟩
  have hroot : (Document.read sequenceKey).map (fun root =>
      (((rootPlace root).entries "").toOption.map (·.all fun entry => entry.toOption.isSome),
        Dispatch.kinds.all fun kind =>
          ((rootPlace root).reached ["dispatch", kind.name]).isEmpty)) =
      some (some true, true) := by
    decide +kernel
  obtain ⟨root, hread, hboth⟩ := Option.map_eq_some_iff.1 hroot
  obtain ⟨hkeys, hnone⟩ := Prod.mk.inj hboth
  obtain ⟨entries, hentries, htold⟩ := Option.map_eq_some_iff.1 hkeys
  refine ⟨root, hread, Place.hasKeys_iff.2 ⟨entries, toOption_eq_some_iff.1 hentries,
    fun entry hentry => ?_⟩, fun kind hkind => ?_⟩
  · obtain ⟨⟨name, v⟩, hv⟩ := Option.isSome_iff_exists.1 (List.all_eq_true.1 htold entry hentry)
    exact ⟨name, v, toOption_eq_some_iff.1 hv⟩
  · exact List.isEmpty_iff.1 (List.all_eq_true.1 hnone kind hkind)

end UniformIter
