import Mathlib.Data.List.Forall2
import UniformIter.Proofs.Decoding.Kinds

/-!
# Records by their fields

What can be read from a place and what comes of it, field by field instead of entry by entry. A
`FieldKind` is what one field takes, `Place.Fits` that all fields of a record can take what is
written for them, and `Place.Fills` what the value of one is, written or by default.

None of this looks at more than what stands behind the keys of the fields. So it makes no
difference in which order the entries stand, and which others stand between them
(`Place.Rearranged`). In the simplest case two mappings have the same entries of the fields in
another order (`Place.SameEntries`).
-/

namespace UniformIter.Decoding

open Document (Node Scalar)

variable {ρ α β : Type}

/-! ## The same value -/

namespace Place

variable {p q : Place}

/-- The same scalar stands at two places, or a sequence of the same scalars. -/
structure SameValue (p q : Place) : Prop where
  scalar : p.scalar? = q.scalar?
  items : p.items? = q.items?

theorem SameValue.holdsText_iff (h : p.SameValue q) (s : String) :
    p.HoldsText s ↔ q.HoldsText s := by
  unfold HoldsText
  rw [h.scalar]

theorem SameValue.holdsTruth_iff (h : p.SameValue q) (b : Bool) :
    p.HoldsTruth b ↔ q.HoldsTruth b := by
  unfold HoldsTruth
  rw [h.scalar]

theorem SameValue.holdsTexts_iff (h : p.SameValue q) (l : List String) :
    p.HoldsTexts l ↔ q.HoldsTexts l := by
  unfold HoldsTexts IsVoid
  rw [h.scalar, h.items]

end Place

/-! ## Kinds of fields -/

/-- What a field of a record is for: the values that it takes, and which of them are the same. -/
structure FieldKind where
  name : String
  takes : Place → Prop
  same : Place → Place → Prop
  takes_iff : ∀ p q, same p q → (takes p ↔ takes q)

namespace FieldKind

/-- A field that takes strings. -/
def text (name : String) : FieldKind where
  name := name
  takes p := ∃ s, p.HoldsText s
  same := Place.SameValue
  takes_iff _ _ h := exists_congr h.holdsText_iff

/-- A field that takes a truth value. -/
def truth (name : String) : FieldKind where
  name := name
  takes p := ∃ b, p.HoldsTruth b
  same := Place.SameValue
  takes_iff _ _ h := exists_congr h.holdsTruth_iff

/-- A field that takes a list of strings. -/
def texts (name : String) : FieldKind where
  name := name
  takes p := ∃ l, p.HoldsTexts l
  same := Place.SameValue
  takes_iff _ _ h := exists_congr h.holdsTexts_iff

end FieldKind

namespace Place

variable {kinds : List FieldKind} {p q : Place}

/-- What stands at a place is a record with fields of these kinds. -/
structure Fits (kinds : List FieldKind) (p : Place) : Prop where
  keys : p.HasKeys
  once : ∀ kind ∈ kinds, (p.reached [kind.name]).length ≤ 1
  takes : ∀ kind ∈ kinds, ∀ w ∈ p.reached [kind.name], kind.takes w

/-- The entries of the mapping at a place with one of these keys, in the order in which they
stand. -/
def entriesOf (names : List String) (p : Place) : List (String × Place) :=
  match p.target with
  | .mapping es _ => es.filterMap fun (k, v) =>
    match p.entry k v with
    | .ok (n, w) => if n ∈ names then some (n, w) else none
    | .error _ => none
  | _ => []

/-- Two places are the same record: both have entries, and those that a field goes by are the same
in some order. Nothing is said of the others. -/
structure Rearranged (kinds : List FieldKind) (p q : Place) : Prop where
  keys : p.HasKeys ↔ q.HasKeys
  entries : ∃ es, es.Perm (p.entriesOf (kinds.map (·.name))) ∧
    List.Forall₂ (fun a b => a.1 = b.1 ∧ ∀ kind ∈ kinds, kind.name = a.1 → kind.same a.2 b.2) es
      (q.entriesOf (kinds.map (·.name)))

/-- What a key leads to is found among the entries. -/
theorem reached_eq_entriesOf {names : List String} {name : String} (h : name ∈ names) :
    p.reached [name] = ((p.entriesOf names).filter (·.1 == name)).map Prod.snd := by
  unfold reached entriesOf
  cases p.target with
  | mapping es _ =>
    dsimp only
    induction es with
    | nil => rfl
    | cons kv es ih =>
      obtain ⟨k, v⟩ := kv
      rw [List.flatMap_cons, List.filterMap_cons, ih]
      dsimp only
      cases p.entry k v with
      | error _ => rfl
      | ok nw =>
        obtain ⟨n, w⟩ := nw
        dsimp only
        by_cases hn : n = name
        · rw [if_pos hn, if_pos (hn ▸ h), List.filter_cons_of_pos (by simpa using hn)]
          rfl
        · rw [if_neg hn]
          by_cases hmem : n ∈ names
          · rw [if_pos hmem, List.filter_cons_of_neg (by simpa using hn)]
            rfl
          · rw [if_neg hmem]
            rfl
  | _ => rfl

namespace Rearranged

variable {kind : FieldKind}

/-- What a field's key leads to is the same. -/
theorem reached (h : Rearranged kinds p q) (hkind : kind ∈ kinds) :
    ∃ ws, ws.Perm (p.reached [kind.name]) ∧ List.Forall₂ kind.same ws (q.reached [kind.name]) := by
  obtain ⟨es, hperm, hsame⟩ := h.entries
  have hname : kind.name ∈ kinds.map (·.name) := List.mem_map_of_mem hkind
  refine ⟨(es.filter (·.1 == kind.name)).map Prod.snd, ?_, ?_⟩
  · rw [reached_eq_entriesOf hname]
    exact (hperm.filter _).map _
  · rw [reached_eq_entriesOf hname]
    generalize q.entriesOf (kinds.map (·.name)) = fs at hsame
    clear hperm
    -- Entries in one place have one name, so both are kept or both are left out.
    induction hsame with
    | nil => exact .nil
    | @cons a b es fs hab _ ih =>
      obtain ⟨hkey, hvalue⟩ := hab
      by_cases hn : a.1 = kind.name
      · rw [List.filter_cons_of_pos (by simpa using hn),
          List.filter_cons_of_pos (by simpa [← hkey] using hn), List.map_cons, List.map_cons]
        exact .cons (hvalue kind hkind hn.symm) ih
      · rw [List.filter_cons_of_neg (by simpa using hn),
          List.filter_cons_of_neg (by simpa [← hkey] using hn)]
        exact ih

theorem length_reached (h : Rearranged kinds p q) (hkind : kind ∈ kinds) :
    (p.reached [kind.name]).length = (q.reached [kind.name]).length := by
  obtain ⟨ws, hperm, hsame⟩ := h.reached hkind
  rw [← hperm.length_eq, hsame.length_eq]

theorem takes_iff (h : Rearranged kinds p q) (hkind : kind ∈ kinds) :
    (∀ w ∈ p.reached [kind.name], kind.takes w) ↔ ∀ w ∈ q.reached [kind.name], kind.takes w := by
  obtain ⟨ws, hperm, hsame⟩ := h.reached hkind
  have hleft : (∀ w ∈ p.reached [kind.name], kind.takes w) ↔ ∀ w ∈ ws, kind.takes w :=
    ⟨fun hall w hw => hall w (hperm.mem_iff.1 hw), fun hall w hw => hall w (hperm.mem_iff.2 hw)⟩
  rw [hleft]
  generalize q.reached [kind.name] = vs at hsame
  clear hleft hperm
  induction hsame with
  | nil => exact Iff.rfl
  | cons hab _ ih =>
    rw [List.forall_mem_cons, List.forall_mem_cons]
    exact and_congr (kind.takes_iff _ _ hab) ih

/-- Two places that are the same record fit the same kinds. -/
theorem fits_iff (h : Rearranged kinds p q) : p.Fits kinds ↔ q.Fits kinds := by
  constructor
  · rintro ⟨keys, once, takes⟩
    exact ⟨h.keys.1 keys, fun k hk => h.length_reached hk ▸ once k hk,
      fun k hk => (h.takes_iff hk).1 (takes k hk)⟩
  · rintro ⟨keys, once, takes⟩
    exact ⟨h.keys.2 keys, fun k hk => (h.length_reached hk).symm ▸ once k hk,
      fun k hk => (h.takes_iff hk).2 (takes k hk)⟩

end Rearranged

/-! ## Another order, and other entries -/

/-- The entries with one of these keys, in the order in which they stand. -/
def knownEntries (names : List String) (es : List (Node × Node)) : List (String × Node) :=
  es.filterMap fun (k, v) =>
    match k with
    | .scalar _ name _ => if name ∈ names then some (name, v) else none
    | _ => none

theorem resolve_of_scalar {k : Node} (h : k.scalar?.isSome = true) (root : Node) :
    root.resolve k = k := by
  cases k with
  | scalar style text label => rfl
  | _ => cases h

theorem entriesOf_eq_knownEntries {names : List String} {es : List (Node × Node)}
    {label : Document.Label} (hp : p.target = .mapping es label)
    (hkeys : ∀ k v, (k, v) ∈ es → k.scalar?.isSome = true) :
    p.entriesOf names = (knownEntries names es).map fun (n, v) => (n, p.inside (.key n) v) := by
  have hentry : ∀ k v, (k, v) ∈ es → (match p.entry k v with
      | .ok (n, w) => if n ∈ names then some (n, w) else none
      | .error _ => none) = (match k with
        | .scalar _ name _ => if name ∈ names then some (name, v) else none
        | _ => none).map fun (n, v) => (n, p.inside (.key n) v) := by
    intro k v hkv
    cases k with
    | scalar style text label =>
      show (if text ∈ names then some (text, p.inside (.key text) v) else none) =
        (if text ∈ names then some (text, v) else none).map _
      split <;> rfl
    | _ => exact absurd (hkeys _ v hkv) (by simp [Node.scalar?])
  unfold entriesOf knownEntries
  rw [hp, List.map_filterMap]
  exact List.filterMap_congr fun (k, v) hkv => hentry k v hkv

/-- Two mappings with scalars for keys and, in some order, the same entries of the fields. What
else is in either of them plays no part. -/
structure SameEntries (kinds : List FieldKind) (p q : Place) (es fs : List (Node × Node)) :
    Prop where
  left : ∃ label, p.target = .mapping es label
  right : ∃ label, q.target = .mapping fs label
  leftKeys : ∀ k v, (k, v) ∈ es → k.scalar?.isSome = true
  rightKeys : ∀ k v, (k, v) ∈ fs → k.scalar?.isSome = true
  perm : (knownEntries (kinds.map (·.name)) es).Perm (knownEntries (kinds.map (·.name)) fs)
  same : ∀ name v, (name, v) ∈ knownEntries (kinds.map (·.name)) es → ∀ kind ∈ kinds,
    kind.name = name → kind.same (p.inside (.key name) v) (q.inside (.key name) v)

/-- Such mappings are the same record. -/
theorem SameEntries.rearranged {es fs : List (Node × Node)} (h : SameEntries kinds p q es fs) :
    p.Rearranged kinds q := by
  obtain ⟨label, hp⟩ := h.left
  obtain ⟨label', hq⟩ := h.right
  have hkeys : p.HasKeys ∧ q.HasKeys := by
    refine ⟨.inr ⟨es, label, hp, fun k v hkv => ?_⟩, .inr ⟨fs, label', hq, fun k v hkv => ?_⟩⟩
    · rw [resolve_of_scalar (h.leftKeys k v hkv)]
      exact h.leftKeys k v hkv
    · rw [resolve_of_scalar (h.rightKeys k v hkv)]
      exact h.rightKeys k v hkv
  refine ⟨iff_of_true hkeys.1 hkeys.2,
    (knownEntries (kinds.map (·.name)) fs).map fun (n, v) => (n, p.inside (.key n) v), ?_, ?_⟩
  · rw [entriesOf_eq_knownEntries hp h.leftKeys]
    exact h.perm.symm.map _
  · rw [entriesOf_eq_knownEntries hq h.rightKeys, List.forall₂_map_left_iff,
      List.forall₂_map_right_iff, List.forall₂_same]
    exact fun (n, v) hmem => ⟨rfl, h.same n v (h.perm.mem_iff.2 hmem)⟩

end Place

/-- A field that takes a record with fields of these kinds. -/
def FieldKind.record (name : String) (kinds : List FieldKind) : FieldKind where
  name := name
  takes := Place.Fits kinds
  same := Place.Rearranged kinds
  takes_iff _ _ h := h.fits_iff

/-! ## Which records can be read -/

/-- A field reads what this kind of field takes. -/
structure Field.Accepts (field : Field Place PlacedFault ρ) (kind : FieldKind) : Prop where
  name : field.name = kind.name
  read : ∀ w, (∃ update, field.read w = .ok update) ↔ kind.takes w

/-- A field that sets what its value reads as takes what can be read. -/
theorem accepts_of_read {name : String} {kind : FieldKind} {read : Place → Except PlacedFault β}
    (hname : name = kind.name) (h : ∀ w, (∃ b, read w = .ok b) ↔ kind.takes w)
    (set : β → ρ → ρ) : Field.Accepts ⟨name, fun p => (read p).map set⟩ kind := by
  refine ⟨hname, fun w => ?_⟩
  rw [← h w]
  constructor
  · rintro ⟨update, hread⟩
    obtain ⟨b, hb, -⟩ := exists_of_map_eq_ok hread
    exact ⟨b, hb⟩
  · rintro ⟨b, hb⟩
    refine ⟨set b, ?_⟩
    dsimp only
    rw [hb]
    rfl

theorem accepts_string (name : String) (set : String → ρ → ρ) :
    Field.Accepts (documentFormat.stringField name set) (.text name) :=
  accepts_of_read (by rfl) (fun _ => exists_congr fun _ => Place.string_eq_ok_iff) set

theorem accepts_boolean (name : String) (set : Bool → ρ → ρ) :
    Field.Accepts (documentFormat.booleanField name set) (.truth name) :=
  accepts_of_read (by rfl) (fun _ => exists_congr fun _ => Place.boolean_eq_ok_iff) set

theorem accepts_strings (name : String) (set : List String → ρ → ρ) :
    Field.Accepts (documentFormat.stringsField name set) (.texts name) :=
  accepts_of_read (by rfl) (fun _ => exists_congr fun _ => Place.strings_eq_ok_iff) set

/-- A record can be read exactly from a place that fits the kinds of its fields. -/
theorem exists_record_iff_fits {fields : List (Field Place PlacedFault ρ)}
    {kinds : List FieldKind} (hnames : (fields.map (·.name)).Nodup)
    (h : List.Forall₂ Field.Accepts fields kinds) {title : String} {defaults : ρ} {p : Place} :
    (∃ result, documentFormat.record title fields defaults p = .ok result) ↔ p.Fits kinds := by
  have hall : (∀ field ∈ fields, (p.reached [field.name]).length ≤ 1 ∧
      ∀ w ∈ p.reached [field.name], ∃ update, field.read w = .ok update) ↔
      ∀ kind ∈ kinds, (p.reached [kind.name]).length ≤ 1 ∧
        ∀ w ∈ p.reached [kind.name], kind.takes w := by
    clear hnames
    induction h with
    | nil => exact ⟨fun _ _ h => absurd h List.not_mem_nil, fun _ _ h => absurd h List.not_mem_nil⟩
    | cons hfield _ ih =>
      rw [List.forall_mem_cons, List.forall_mem_cons, ih, hfield.name]
      simp only [hfield.read]
  rw [exists_record_iff hnames, hall]
  exact ⟨fun ⟨keys, h⟩ => ⟨keys, fun k hk => (h k hk).1, fun k hk => (h k hk).2⟩,
    fun h => ⟨h.keys, fun k hk => ⟨h.once k hk, h.takes k hk⟩⟩⟩

/-! ## Values of fields -/

/-- The value of a field: the one that stands behind its key, or the default if nothing does. -/
def Place.Fills (p : Place) (name : String) (holds : Place → α → Prop) (default value : α) :
    Prop :=
  (p.reached [name] = [] ∧ value = default) ∨ ∃ w, p.reached [name] = [w] ∧ holds w value

theorem Place.Fills.unique {p : Place} {name : String} {holds : Place → α → Prop}
    {default a b : α} (hholds : ∀ w, holds w a → holds w b → a = b)
    (ha : p.Fills name holds default a) (hb : p.Fills name holds default b) : a = b := by
  rcases ha with ⟨hnil, rfl⟩ | ⟨w, hw, ha⟩
  · rcases hb with ⟨-, rfl⟩ | ⟨w, hw, -⟩
    · rfl
    · rw [hnil] at hw
      cases hw
  · rcases hb with ⟨hnil, -⟩ | ⟨v, hv, hb⟩
    · rw [hnil] at hw
      cases hw
    · rw [hv] at hw
      cases hw
      exact hholds w ha hb

/-- What a record holds in a field that was read. -/
theorem Governs.fills {fields : List (Field Place PlacedFault ρ)} {name title : String}
    {read : Place → Except PlacedFault α} {part : ρ → α} (g : Governs fields name read part)
    (hnames : (fields.map (·.name)).Nodup) {holds : Place → α → Prop}
    (hholds : ∀ w a, read w = .ok a → holds w a) {defaults result : ρ} {p : Place}
    (h : documentFormat.record title fields defaults p = .ok result) :
    p.Fills name holds (part defaults) (part result) := by
  obtain ⟨hno, hyes⟩ := g.document h
  obtain ⟨field, hfind, -⟩ := g.own
  obtain ⟨hfield, rfl⟩ := (find?_name_iff hnames).1 hfind
  have honce := (((exists_record_iff hnames).1 ⟨result, h⟩).2 field hfield).1
  cases hreached : p.reached [field.name] with
  | nil => exact .inl ⟨hreached, hno hreached⟩
  | cons w more =>
    rw [hreached, List.length_cons] at honce
    obtain rfl : more = [] := List.eq_nil_of_length_eq_zero (by omega)
    refine .inr ⟨w, hreached, hholds w _ (hyes w ?_)⟩
    rw [hreached]
    exact List.mem_cons_self

namespace Place.Rearranged

variable {kinds : List FieldKind} {kind : FieldKind} {p q : Place}

/-- A field has the same value in the same record, if what it holds is the same for what is the
same. -/
theorem fills (h : Rearranged kinds p q) (hkind : kind ∈ kinds) {holds : Place → α → Prop}
    {default value : α} (hholds : ∀ a b, kind.same a b → holds a value → holds b value)
    (hp : p.Fills kind.name holds default value) : q.Fills kind.name holds default value := by
  obtain ⟨ws, hperm, hsame⟩ := h.reached hkind
  rcases hp with ⟨hnil, rfl⟩ | ⟨w, hw, hvalue⟩
  · rw [hnil, List.perm_nil] at hperm
    subst hperm
    exact .inl ⟨List.forall₂_nil_left_iff.1 hsame, rfl⟩
  · rw [hw, List.perm_singleton] at hperm
    subst hperm
    obtain ⟨v, vs, hwv, hmore, hv⟩ := List.forall₂_cons_left_iff.1 hsame
    rw [List.forall₂_nil_left_iff.1 hmore] at hv
    exact .inr ⟨v, hv, hholds w v hwv hvalue⟩

theorem fills_text (h : Rearranged kinds p q) {name : String} (hkind : .text name ∈ kinds)
    {default value : String} (hp : p.Fills name HoldsText default value) :
    q.Fills name HoldsText default value :=
  h.fills hkind (fun _ _ hsame => (hsame.holdsText_iff value).1) hp

theorem fills_truth (h : Rearranged kinds p q) {name : String} (hkind : .truth name ∈ kinds)
    {default value : Bool} (hp : p.Fills name HoldsTruth default value) :
    q.Fills name HoldsTruth default value :=
  h.fills hkind (fun _ _ hsame => (hsame.holdsTruth_iff value).1) hp

theorem fills_texts (h : Rearranged kinds p q) {name : String} (hkind : .texts name ∈ kinds)
    {default value : List String} (hp : p.Fills name HoldsTexts default value) :
    q.Fills name HoldsTexts default value :=
  h.fills hkind (fun _ _ hsame => (hsame.holdsTexts_iff value).1) hp

end Place.Rearranged

/-! ## Records as a whole -/

/-- A record that is told by its fields: what each takes, and what each holds once it was read. -/
structure ToldByFields (fields : List (Field Place PlacedFault ρ)) (kinds : List FieldKind)
    (defaults : ρ) (holds : Place → ρ → Prop) : Prop where
  names : (fields.map (·.name)).Nodup
  accepts : List.Forall₂ Field.Accepts fields kinds
  held : ∀ title p result, documentFormat.record title fields defaults p = .ok result →
    holds p result
  unique : ∀ p a b, holds p a → holds p b → a = b
  same : ∀ p q a, p.Rearranged kinds q → holds p a → holds q a

namespace ToldByFields

variable {fields : List (Field Place PlacedFault ρ)} {kinds : List FieldKind} {defaults : ρ}
  {holds : Place → ρ → Prop} {title : String} {p q : Place} {result : ρ}

theorem exists_iff (h : ToldByFields fields kinds defaults holds) :
    (∃ result, documentFormat.record title fields defaults p = .ok result) ↔ p.Fits kinds :=
  exists_record_iff_fits h.names h.accepts

/-- What a record is read as. -/
theorem record_eq_ok_iff (h : ToldByFields fields kinds defaults holds) :
    documentFormat.record title fields defaults p = .ok result ↔
      p.Fits kinds ∧ holds p result := by
  constructor
  · intro hread
    exact ⟨h.exists_iff.1 ⟨result, hread⟩, h.held title p result hread⟩
  · rintro ⟨hfits, hholds⟩
    have hsome : ∃ found, documentFormat.record title fields defaults p = .ok found :=
      h.exists_iff.2 hfits
    obtain ⟨found, hread⟩ := hsome
    rw [hread, h.unique p found result (h.held title p found hread) hholds]

/-- The same record is read as the same. -/
theorem record_congr (h : ToldByFields fields kinds defaults holds)
    (hsame : p.Rearranged kinds q) :
    documentFormat.record title fields defaults p = .ok result ↔
      documentFormat.record title fields defaults q = .ok result := by
  rw [h.record_eq_ok_iff, h.record_eq_ok_iff, hsame.fits_iff]
  refine and_congr_right fun hq => ⟨h.same p q result hsame, fun hresult => ?_⟩
  -- What the first place is read as is held at the second one too, where only one value is.
  have hsome : ∃ found, documentFormat.record title fields defaults p = .ok found :=
    h.exists_iff.2 (hsame.fits_iff.2 hq)
  obtain ⟨found, hread⟩ := hsome
  have hfound := h.held title p found hread
  rwa [h.unique q result found hresult (h.same p q found hsame hfound)]

/-- A field of another record that holds this one. -/
theorem accepts_field {σ : Type} (h : ToldByFields fields kinds defaults holds)
    (title name : String) (set : ρ → σ → σ) :
    Field.Accepts ⟨name, fun p => (documentFormat.record title fields defaults p).map set⟩
      (.record name kinds) :=
  accepts_of_read (by rfl) (fun _ => h.exists_iff) set

theorem fills (h : ToldByFields fields kinds defaults holds) {outer : List FieldKind}
    {name : String} (hsame : p.Rearranged outer q) (hkind : .record name kinds ∈ outer)
    {default value : ρ} (hp : p.Fills name holds default value) :
    q.Fills name holds default value :=
  hsame.fills hkind (fun a b hab => h.same a b value hab) hp

end ToldByFields

end UniformIter.Decoding
