import Mathlib.Data.List.Nodup
import UniformIter.Proofs.Decoding.Records

/-!
# Which documents can be read

A record can be read exactly if it is a mapping whose keys are all scalars, or nothing at all,
if none of its fields comes twice, and if what stands in a field is of the field's kind
(`exists_record_iff`). That is told by the tree alone, and the order of the entries plays no
part in it.

A string and a list of strings are of their kind as one expects (`Place.string_eq_ok_iff`,
`Place.strings_eq_ok_iff`). A truth value may also be a literal block, if it carries the tag of
truth values (`Place.boolean_eq_ok_iff`).
-/

namespace UniformIter.Document

/-- What a scalar says, wherever it stands. -/
structure Scalar where
  style : ScalarStyle
  text : String
  tag : Option Tag
  deriving DecidableEq

/-- The scalar that a node is. -/
def Node.scalar? : Node → Option Scalar
  | .scalar style text label => some ⟨style, text, label.tag⟩
  | _ => none

/-- Whether a scalar is more than text: a plain one is, and a literal block with the tag of truth
values. -/
def Scalar.IsBare (a : Scalar) : Prop :=
  a.style = .plain ∨ a.style = .literal ∧ a.tag = some (Tag.standard "bool")

end UniformIter.Document

namespace UniformIter.Decoding

open Document (Node Scalar PlainValue Tag)

/-! ## Outcomes -/

theorem toOption_eq_some_iff {ε α : Type} {x : Except ε α} {a : α} :
    x.toOption = some a ↔ x = .ok a := by
  cases x with
  | error e => exact ⟨nofun, nofun⟩
  | ok b => exact ⟨fun h => congrArg _ (Option.some.inj h), fun h => congrArg _ (Except.ok.inj h)⟩

/-- Reading one after the other succeeds if each can be read. -/
theorem mapM_eq_ok_iff {ε α β : Type} {f : α → Except ε β} {l : List α} {r : List β} :
    l.mapM f = .ok r ↔ l.map (fun a => (f a).toOption) = r.map some := by
  induction l generalizing r with
  | nil => cases r <;> simp [pure, Except.pure]
  | cons a l ih =>
    rw [List.mapM_cons, List.map_cons]
    cases f a with
    | error e =>
      refine ⟨nofun, fun h => ?_⟩
      cases r <;> cases h
    | ok b =>
      cases hl : l.mapM f with
      | error e =>
        refine ⟨nofun, fun h => ?_⟩
        cases r with
        | nil => cases h
        | cons c r =>
          have hok := ih.2 (List.cons.inj h).2
          rw [hl] at hok
          cases hok
      | ok bs =>
        refine ⟨fun h => ?_, fun h => ?_⟩
        · cases h
          rw [ih.1 hl]
          rfl
        · cases r with
          | nil => cases h
          | cons c r =>
            obtain ⟨hb, hr⟩ := List.cons.inj h
            have hok := ih.2 hr
            rw [hl] at hok
            cases hok
            cases hb
            rfl

/-! ## Kinds of values -/

/-- The words for a truth value. -/
def truthWords : Bool → List String
  | true => ["true", "True", "TRUE"]
  | false => ["false", "False", "FALSE"]

namespace Place

variable {p : Place}

/-- The scalar at a place. -/
def scalar? (p : Place) : Option Scalar := p.target.scalar?

/-- What the items of the sequence at a place are. -/
def items? (p : Place) : Option (List (Option Scalar)) :=
  match p.target with
  | .sequence ns _ => some (ns.map fun n => (p.root.resolve n).scalar?)
  | _ => none

/-- Nothing at all stands at a place. -/
def IsVoid (p : Place) : Prop := ∃ a, p.scalar? = some a ∧ a.style = .plain ∧ a.text = ""

/-- A scalar with this text stands at a place, in any style. -/
def HoldsText (p : Place) (s : String) : Prop := ∃ a, p.scalar? = some a ∧ a.text = s

/-- A truth value stands at a place. -/
def HoldsTruth (p : Place) (b : Bool) : Prop :=
  ∃ a, p.scalar? = some a ∧ a.IsBare ∧ a.text ∈ truthWords b

/-- A sequence of scalars with these texts stands at a place; nothing at all is an empty one. -/
def HoldsTexts (p : Place) (l : List String) : Prop :=
  (p.IsVoid ∧ l = []) ∨
    ∃ items, p.items? = some items ∧ items.map (·.map Scalar.text) = l.map some

/-- The entries of a record stand at a place: a mapping whose keys are scalars, or nothing at
all. -/
def HasKeys (p : Place) : Prop :=
  p.IsVoid ∨ ∃ es label, p.target = .mapping es label ∧
    ∀ k v, (k, v) ∈ es → ((p.root.resolve k).scalar?).isSome = true

theorem scalar?_of_target {style : Document.ScalarStyle} {text : String} {label : Document.Label}
    (h : p.target = .scalar style text label) : p.scalar? = some ⟨style, text, label.tag⟩ := by
  rw [scalar?, h]
  rfl

theorem scalar?_eq_none (h : ∀ style text label, p.target ≠ .scalar style text label) :
    p.scalar? = none := by
  unfold scalar? Node.scalar?
  split
  next htarget => exact absurd htarget (h _ _ _)
  next => rfl

theorem isVoid_iff {style : Document.ScalarStyle} {text : String} {label : Document.Label}
    (h : p.target = .scalar style text label) : p.IsVoid ↔ isVoid style text = true := by
  unfold IsVoid isVoid
  rw [scalar?_of_target h]
  simp

/-! ## Reading them -/

theorem toOption_string : (documentFormat.string p).toOption = p.scalar?.map Scalar.text := by
  show p.string.toOption = _
  unfold Place.string
  split
  next htarget =>
    rw [scalar?_of_target htarget]
    rfl
  next hno =>
    rw [scalar?_eq_none hno]
    rfl

/-- A string is any scalar. -/
theorem string_eq_ok_iff {s : String} : documentFormat.string p = .ok s ↔ p.HoldsText s := by
  rw [← toOption_eq_some_iff, toOption_string, Option.map_eq_some_iff]
  rfl

theorem toOption_boolean : (documentFormat.boolean p).toOption = p.scalar?.bind fun a =>
    if mayBeBoolean a.style a.tag then PlainValue.boolean? a.text else none := by
  show p.boolean.toOption = _
  unfold Place.boolean
  split
  next style text label htarget =>
    rw [scalar?_of_target htarget, Option.bind_some]
    dsimp only
    split
    next h => rw [h]; rfl
    next h => rw [h]; rfl
  next hno =>
    rw [scalar?_eq_none hno]
    rfl

theorem boolean?_eq_some_iff {text : String} {b : Bool} :
    PlainValue.boolean? text = some b ↔ text ∈ truthWords b := by
  unfold PlainValue.boolean?
  constructor
  · intro h
    split at h
    next hyes =>
      cases h
      simpa [truthWords, or_assoc] using hyes
    next =>
      split at h
      next hno =>
        cases h
        simpa [truthWords, or_assoc] using hno
      next => cases h
  · cases b
    all_goals
      simp only [truthWords, List.mem_cons, List.not_mem_nil, or_false]
      rintro (rfl | rfl | rfl) <;> decide

theorem mayBeBoolean_iff {a : Scalar} : mayBeBoolean a.style a.tag = true ↔ a.IsBare := by
  unfold mayBeBoolean Scalar.IsBare
  simp

/-- A truth value is one of its words, where this is more than text. -/
theorem boolean_eq_ok_iff {b : Bool} : documentFormat.boolean p = .ok b ↔ p.HoldsTruth b := by
  rw [← toOption_eq_some_iff, toOption_boolean, Option.bind_eq_some_iff]
  refine exists_congr fun a => and_congr_right fun _ => ?_
  by_cases hbare : a.IsBare
  · rw [if_pos (mayBeBoolean_iff.2 hbare), boolean?_eq_some_iff, and_iff_right hbare]
  · rw [if_neg fun h => hbare (mayBeBoolean_iff.1 h)]
    exact ⟨nofun, fun h => absurd h.1 hbare⟩

theorem not_isVoid (h : ∀ style text label, p.target ≠ .scalar style text label) : ¬p.IsVoid := by
  rintro ⟨a, ha, -⟩
  rw [scalar?_eq_none h] at ha
  cases ha

/-- The items of a sequence one after the other, by what they say. -/
theorem mapM_string_inside {ns : List Node} {l : List String} :
    (ns.zipIdx.map fun (n, i) => p.inside (.index i) n).mapM documentFormat.string = .ok l ↔
      (ns.map fun n => (p.root.resolve n).scalar?).map (·.map Scalar.text) = l.map some := by
  have hfst : ns.map (fun n => (p.root.resolve n).scalar?.map Scalar.text) =
      ns.zipIdx.map fun (n, _) => (p.root.resolve n).scalar?.map Scalar.text := by
    have h := congrArg (List.map fun n => (p.root.resolve n).scalar?.map Scalar.text)
      (List.zipIdx_map_fst 0 ns)
    rw [List.map_map] at h
    exact h.symm
  have hlhs : (ns.zipIdx.map fun (n, i) => p.inside (.index i) n).map
        (fun q => (documentFormat.string q).toOption) =
      ns.zipIdx.map fun (n, _) => (p.root.resolve n).scalar?.map Scalar.text := by
    rw [List.map_map]
    exact List.map_congr_left fun (n, i) _ => toOption_string
  rw [mapM_eq_ok_iff, hlhs, ← hfst, List.map_map]
  rfl

/-- A list of strings is a sequence of scalars. -/
theorem strings_eq_ok_iff {l : List String} :
    documentFormat.strings p = .ok l ↔ p.HoldsTexts l := by
  have hitems : documentFormat.items p = p.items := rfl
  unfold Format.strings HoldsTexts
  rw [hitems]
  unfold Place.items items?
  cases htarget : p.target with
  | scalar style text label =>
    rw [isVoid_iff htarget]
    dsimp only
    by_cases hvoid : isVoid style text = true
    · rw [if_pos hvoid]
      simp [hvoid, pure, Except.pure, eq_comm]
    · rw [if_neg hvoid]
      simp [hvoid, mismatch]
  | sequence ns label =>
    have hvoid : ¬p.IsVoid := not_isVoid fun _ _ _ h => by rw [htarget] at h; cases h
    dsimp only
    rw [mapM_string_inside]
    simp [hvoid]
  | mapping es label =>
    have hvoid : ¬p.IsVoid := not_isVoid fun _ _ _ h => by rw [htarget] at h; cases h
    simp [hvoid, mismatch]
  | aliasOf id q =>
    have hvoid : ¬p.IsVoid := not_isVoid fun _ _ _ h => by rw [htarget] at h; cases h
    simp [hvoid, mismatch]

end Place

/-! ## Records -/

variable {ν ε ρ : Type} {fields : List (Field ν ε ρ)} {duplicate : String → ε}

/-- The values of the entries with a name. -/
def valuesOf (name : String) (entries : List (Except ε (String × ν))) : List ν :=
  entries.filterMap fun
    | .ok (n, v) => if n = name then some v else none
    | .error _ => none

theorem valuesOf_cons_self (name : String) (v : ν) (more : List (Except ε (String × ν))) :
    valuesOf name (.ok (name, v) :: more) = v :: valuesOf name more :=
  List.filterMap_cons_some (if_pos rfl)

theorem valuesOf_cons_other {n name : String} (h : n ≠ name) (v : ν)
    (more : List (Except ε (String × ν))) :
    valuesOf name (.ok (n, v) :: more) = valuesOf name more :=
  List.filterMap_cons_none (if_neg h)

/-- What values a field can take: a single one at most, that can be read, and none if the field's
name has come before. -/
structure Field.Admits (field : Field ν ε ρ) (before : Prop) (vs : List ν) : Prop where
  fresh : before → vs = []
  once : vs.length ≤ 1
  read : ∀ v ∈ vs, ∃ update, field.read v = .ok update

theorem Field.admits_nil (field : Field ν ε ρ) (before : Prop) : field.Admits before [] where
  fresh _ := rfl
  once := Nat.zero_le 1
  read _ hmem := absurd hmem List.not_mem_nil

theorem Field.admits_cons_iff {field : Field ν ε ρ} {before : Prop} {v : ν} {vs : List ν} :
    field.Admits before (v :: vs) ↔
      ¬before ∧ (∃ update, field.read v = .ok update) ∧ vs = [] := by
  constructor
  · rintro ⟨fresh, once, read⟩
    refine ⟨fun h => ?_, read v List.mem_cons_self, ?_⟩
    · cases fresh h
    · exact List.eq_nil_of_length_eq_zero (by rw [List.length_cons] at once; omega)
  · rintro ⟨hnew, hread, rfl⟩
    exact ⟨fun h => absurd h hnew, Nat.le_refl 1, List.forall_mem_singleton.2 hread⟩

/-- Entries that can all be assigned, the names in `seen` having come before: each can be told,
and every field admits the values of its name. -/
structure Assignable (fields : List (Field ν ε ρ)) (seen : List String)
    (entries : List (Except ε (String × ν))) : Prop where
  told : ∀ entry ∈ entries, ∃ name v, entry = .ok (name, v)
  admits : ∀ name field, fields.find? (·.name == name) = some field →
    field.Admits (name ∈ seen) (valuesOf name entries)

namespace Assignable

variable {seen : List String} {name : String} {v : ν} {more : List (Except ε (String × ν))}

theorem nil : Assignable fields seen ([] : List (Except ε (String × ν))) where
  told _ hmem := absurd hmem List.not_mem_nil
  admits _ field _ := field.admits_nil _

/-- An entry that no field goes by changes nothing. -/
theorem cons_unknown_iff (hnone : fields.find? (·.name == name) = none) :
    Assignable fields seen (.ok (name, v) :: more) ↔ Assignable fields seen more := by
  have hother : ∀ n field, fields.find? (·.name == n) = some field →
      valuesOf n (.ok (name, v) :: more) = valuesOf n more := by
    rintro n field hfield
    refine valuesOf_cons_other ?_ v more
    rintro rfl
    rw [hnone] at hfield
    cases hfield
  constructor
  · rintro ⟨told, admits⟩
    exact ⟨fun e he => told e (List.mem_cons_of_mem _ he),
      fun n f hf => hother n f hf ▸ admits n f hf⟩
  · rintro ⟨told, admits⟩
    exact ⟨List.forall_mem_cons.2 ⟨⟨name, v, rfl⟩, told⟩,
      fun n f hf => (hother n f hf).symm ▸ admits n f hf⟩

/-- An entry that a field goes by has not come before and can be read, and its name comes no
more. -/
theorem cons_known_iff {field : Field ν ε ρ}
    (hsome : fields.find? (·.name == name) = some field) :
    Assignable fields seen (.ok (name, v) :: more) ↔
      name ∉ seen ∧ (∃ update, field.read v = .ok update) ∧
        Assignable fields (name :: seen) more := by
  have hself := valuesOf_cons_self name v more
  -- The entry is a value of its own field alone; to any other one it is as if it were not there.
  constructor
  · rintro ⟨told, admits⟩
    have hown := admits name field hsome
    rw [hself, Field.admits_cons_iff] at hown
    obtain ⟨hnew, hread, hlast⟩ := hown
    refine ⟨hnew, hread, fun e he => told e (List.mem_cons_of_mem _ he), fun n f hf => ?_⟩
    by_cases heq : name = n
    · rw [← heq, hlast]
      exact f.admits_nil _
    · obtain ⟨fresh, once, read⟩ := valuesOf_cons_other heq v more ▸ admits n f hf
      exact ⟨fun hn => fresh ((List.mem_cons.1 hn).resolve_left (Ne.symm heq)), once, read⟩
  · rintro ⟨hnew, hread, told, admits⟩
    refine ⟨List.forall_mem_cons.2 ⟨⟨name, v, rfl⟩, told⟩, fun n f hf => ?_⟩
    by_cases heq : name = n
    · subst heq
      obtain rfl : field = f := Option.some.inj (hsome.symm.trans hf)
      rw [hself]
      exact Field.admits_cons_iff.2
        ⟨hnew, hread, (admits name field hsome).fresh List.mem_cons_self⟩
    · rw [valuesOf_cons_other heq v more]
      obtain ⟨fresh, once, read⟩ := admits n f hf
      exact ⟨fun hn => fresh (List.mem_cons_of_mem _ hn), once, read⟩

end Assignable

/-- Assigning succeeds exactly for such entries. -/
theorem exists_assign_iff {seen : List String} {record : ρ}
    {entries : List (Except ε (String × ν))} :
    (∃ result, assign fields duplicate seen record entries = .ok result) ↔
      Assignable fields seen entries := by
  -- The induction is on the entries, for any names seen and any record so far.
  induction entries generalizing seen record with
  | nil => exact ⟨fun _ => .nil, fun _ => ⟨record, rfl⟩⟩
  | cons entry more ih =>
    cases entry with
    | error e =>
      refine ⟨fun ⟨_, h⟩ => ?_, fun ⟨told, _⟩ => ?_⟩
      · cases h
      · obtain ⟨name, v, h⟩ := told _ List.mem_cons_self
        cases h
    | ok nv =>
      obtain ⟨name, v⟩ := nv
      cases hfield : fields.find? (·.name == name) with
      | none =>
        rw [Assignable.cons_unknown_iff hfield, ← ih, assign, hfield]
      | some field =>
        rw [Assignable.cons_known_iff hfield]
        constructor
        · rintro ⟨result, h⟩
          obtain ⟨n, w, heq, hstep⟩ := assign_cons h
          cases heq
          rcases hstep with ⟨hnone, -⟩ | ⟨found, update, hsome, hnew, hread, hrest⟩
          · rw [hfield] at hnone
            cases hnone
          · obtain rfl : field = found := Option.some.inj (hfield.symm.trans hsome)
            exact ⟨hnew, ⟨update, hread⟩, ih.1 ⟨result, hrest⟩⟩
        · rintro ⟨hnew, ⟨update, hread⟩, hmore⟩
          have hrest : ∃ result,
              assign fields duplicate (name :: seen) (update record) more = .ok result :=
            ih.2 hmore
          obtain ⟨result, hresult⟩ := hrest
          refine ⟨result, ?_⟩
          rw [assign, hfield]
          dsimp only
          rw [if_neg (fun h => hnew (List.contains_iff_mem.1 h)), hread]
          exact hresult

/-! ## Records in a document -/

/-- The field of a name, if no two fields share one. -/
theorem find?_name_iff (hnames : (fields.map (·.name)).Nodup) {name : String}
    {field : Field ν ε ρ} :
    fields.find? (·.name == name) = some field ↔ field ∈ fields ∧ field.name = name := by
  constructor
  · intro h
    exact ⟨List.mem_of_find?_eq_some h, by simpa using List.find?_some h⟩
  · rintro ⟨hmem, rfl⟩
    cases hfound : fields.find? (·.name == field.name) with
    | none => exact absurd (List.find?_eq_none.1 hfound field hmem) (by simp)
    | some other =>
      have hname : other.name = field.name := by simpa using List.find?_some hfound
      rw [List.inj_on_of_nodup_map hnames (List.mem_of_find?_eq_some hfound) hmem hname]

namespace Place

variable {p : Place}

/-- What a key leads to are the values of its entries. -/
theorem reached_eq_valuesOf {title name : String}
    {entries : List (Except PlacedFault (String × Place))} (h : p.entries title = .ok entries) :
    p.reached [name] = valuesOf name entries := by
  unfold Place.entries at h
  unfold reached
  split at h
  next es _ htarget =>
    cases h
    rw [htarget]
    dsimp only
    unfold valuesOf
    rw [List.filterMap_map, List.filterMap_eq_flatMap_toList]
    refine congrArg es.flatMap (funext fun kv => ?_)
    obtain ⟨k, v⟩ := kv
    dsimp only [Function.comp_apply]
    cases p.entry k v with
    | error _ => rfl
    | ok nq =>
      dsimp only
      split <;> rfl
  next style text _ htarget =>
    rw [htarget]
    split at h
    · cases h
      rfl
    · cases h
  next => cases h

/-- Whether there are entries at a place and all can be told. -/
theorem hasKeys_iff {title : String} : p.HasKeys ↔
    ∃ entries, p.entries title = .ok entries ∧
      ∀ entry ∈ entries, ∃ name v, entry = .ok (name, v) := by
  have htold : ∀ k v, ((p.root.resolve k).scalar?).isSome = true ↔
      ∃ name w, p.entry k v = .ok (name, w) := by
    intro k v
    unfold Place.entry Node.scalar?
    cases p.root.resolve k <;> simp
  unfold HasKeys Place.entries
  cases htarget : p.target with
  | scalar style text label =>
    rw [isVoid_iff htarget]
    dsimp only
    by_cases hvoid : isVoid style text = true
    · rw [if_pos hvoid]
      exact ⟨fun _ => ⟨[], rfl, fun _ h => absurd h List.not_mem_nil⟩, fun _ => .inl hvoid⟩
    · rw [if_neg hvoid]
      simp [hvoid, mismatch]
  | sequence ns label =>
    have hvoid : ¬p.IsVoid := not_isVoid fun _ _ _ h => by rw [htarget] at h; cases h
    simp [hvoid, mismatch]
  | aliasOf id q =>
    have hvoid : ¬p.IsVoid := not_isVoid fun _ _ _ h => by rw [htarget] at h; cases h
    simp [hvoid, mismatch]
  | mapping es label =>
    have hvoid : ¬p.IsVoid := not_isVoid fun _ _ _ h => by rw [htarget] at h; cases h
    constructor
    · rintro (h | ⟨es', label', heq, hkeys⟩)
      · exact absurd h hvoid
      · cases heq
        refine ⟨_, rfl, fun entry hentry => ?_⟩
        obtain ⟨⟨k, v⟩, hkv, rfl⟩ := List.mem_map.1 hentry
        exact (htold k v).1 (hkeys k v hkv)
    · rintro ⟨entries, heq, hall⟩
      cases heq
      refine .inr ⟨es, label, rfl, fun k v hkv => (htold k v).2 (hall _ ?_)⟩
      exact List.mem_map.2 ⟨(k, v), hkv, rfl⟩

end Place

/-- A record can be read from a place exactly if there are entries and each field admits what is
written for it. -/
theorem exists_record_iff {fields : List (Field Place PlacedFault ρ)}
    (hnames : (fields.map (·.name)).Nodup) {title : String} {defaults : ρ} {p : Place} :
    (∃ result, documentFormat.record title fields defaults p = .ok result) ↔
      p.HasKeys ∧ ∀ field ∈ fields, (p.reached [field.name]).length ≤ 1 ∧
        ∀ w ∈ p.reached [field.name], ∃ update, field.read w = .ok update := by
  have hentries : documentFormat.entries title (fields.map (·.name)) p = p.entries title := rfl
  have hkeys : p.HasKeys ↔ ∃ entries, p.entries title = .ok entries ∧
      ∀ entry ∈ entries, ∃ name v, entry = .ok (name, v) := Place.hasKeys_iff
  unfold Format.record
  rw [hentries, hkeys]
  cases hp : p.entries title with
  | error e => simp
  | ok entries =>
    dsimp only
    rw [exists_assign_iff]
    constructor
    · rintro ⟨told, admits⟩
      refine ⟨⟨entries, rfl, told⟩, fun field hfield => ?_⟩
      obtain ⟨-, once, read⟩ := admits field.name field ((find?_name_iff hnames).2 ⟨hfield, rfl⟩)
      rw [Place.reached_eq_valuesOf hp]
      exact ⟨once, read⟩
    · rintro ⟨⟨_, heq, told⟩, hall⟩
      cases heq
      refine ⟨told, fun name field hfind => ?_⟩
      obtain ⟨hfield, rfl⟩ := (find?_name_iff hnames).1 hfind
      obtain ⟨once, read⟩ := hall field hfield
      rw [Place.reached_eq_valuesOf hp] at once read
      exact ⟨fun h => absurd h List.not_mem_nil, once, read⟩

end UniformIter.Decoding
