import UniformIter.Decoding.OfDocument

/-!
# What a record holds after it was read

Entries are taken one after the other, and `assign_cons` says all that one of them can do. Where
one field alone decides about a part of the record (`Governs`), that part is what the entry with
the field's name reads as, and the default if there is no such entry (`Governs.record_eq`); a
second entry of the name is a fault, so it does not matter which one is meant. Of fields with
different names that set a part each and keep those of the others, every one decides about its own
(`Slot.governs`).

In a document a record is a mapping. `Place.reached` finds what stands in it behind a path of
keys.
-/

namespace UniformIter.Decoding

variable {ν ε ρ α : Type} {fields : List (Field ν ε ρ)} {duplicate : String → ε}

/-- An entry that did no harm has a name that no field goes by, or it set the field of a name
that had not come before. -/
theorem assign_cons {seen : List String} {record result : ρ} {entry : Except ε (String × ν)}
    {more : List (Except ε (String × ν))}
    (h : assign fields duplicate seen record (entry :: more) = .ok result) :
    ∃ name v, entry = .ok (name, v) ∧
      ((fields.find? (·.name == name) = none ∧
          assign fields duplicate seen record more = .ok result) ∨
        ∃ field update, fields.find? (·.name == name) = some field ∧ name ∉ seen ∧
          field.read v = .ok update ∧
          assign fields duplicate (name :: seen) (update record) more = .ok result) := by
  cases entry with
  | error e => cases h
  | ok nv =>
    obtain ⟨name, v⟩ := nv
    refine ⟨name, v, rfl, ?_⟩
    rw [assign] at h
    cases hfield : fields.find? (·.name == name) with
    | none =>
      rw [hfield] at h
      exact .inl ⟨rfl, h⟩
    | some field =>
      rw [hfield] at h
      refine .inr ⟨field, ?_⟩
      dsimp only at h
      split at h
      · cases h
      next hseen =>
        split at h
        · cases h
        next update hread =>
          exact ⟨update, rfl, fun hmem => hseen (List.contains_iff_mem.2 hmem), hread, h⟩

/-- A name that came before does not come again. -/
theorem not_mem_of_seen {name : String} (hname : (fields.find? (·.name == name)).isSome)
    {seen : List String} (hseen : name ∈ seen) {record result : ρ}
    {entries : List (Except ε (String × ν))}
    (h : assign fields duplicate seen record entries = .ok result) (v : ν) :
    .ok (name, v) ∉ entries := by
  induction entries generalizing seen record with
  | nil => exact List.not_mem_nil
  | cons entry more ih =>
    obtain ⟨n, w, rfl, hstep⟩ := assign_cons h
    rw [List.mem_cons, not_or]
    rcases hstep with ⟨hnone, hrest⟩ | ⟨field, update, hsome, hnew, -, hrest⟩
    · refine ⟨fun heq => ?_, ih hseen hrest⟩
      cases heq
      rw [hnone] at hname
      exact absurd hname (by simp)
    · refine ⟨fun heq => ?_, ih (List.mem_cons_of_mem _ hseen) hrest⟩
      cases heq
      exact hnew hseen

/-- A field that leaves a part of the record alone. -/
def Field.Keeps (field : Field ν ε ρ) (part : ρ → α) : Prop :=
  ∀ v update, field.read v = .ok update → ∀ r, part (update r) = part r

/-- What a field sets comes from what its value reads as. -/
theorem exists_of_map_eq_ok {β γ : Type} {read : Except ε β} {set : β → γ} {update : γ}
    (h : read.map set = .ok update) : ∃ b, read = .ok b ∧ set b = update := by
  cases read with
  | error e => cases h
  | ok b => exact ⟨b, rfl, Except.ok.inj h⟩

/-- A part of a record that the field of one name alone decides about: it becomes what that
field's value reads as, and no other field touches it. -/
structure Governs (fields : List (Field ν ε ρ)) (name : String) (read : ν → Except ε α)
    (part : ρ → α) : Prop where
  own : ∃ field, fields.find? (·.name == name) = some field ∧
    ∀ v update, field.read v = .ok update → ∃ a, read v = .ok a ∧ ∀ r, part (update r) = a
  others : ∀ field ∈ fields, field.name ≠ name → field.Keeps part

/-! ### Fields that set a part each -/

/-- A field that sets a part of the record to what its value reads as. -/
structure Slot (ν ε ρ : Type) where
  {part : Type}
  name : String
  read : ν → Except ε part
  get : ρ → part
  set : part → ρ → ρ
  get_set : ∀ a r, get (set a r) = a

namespace Slot

/-- The field of a slot. -/
def field (slot : Slot ν ε ρ) : Field ν ε ρ := ⟨slot.name, fun v => (slot.read v).map slot.set⟩

/-- Two slots with different names that leave each other's part alone. -/
structure Apart (slot other : Slot ν ε ρ) : Prop where
  name : slot.name ≠ other.name
  left : ∀ a r, slot.get (other.set a r) = slot.get r
  right : ∀ a r, other.get (slot.set a r) = other.get r

variable {slot other : Slot ν ε ρ}

theorem keeps_of_get_set (h : ∀ a r, slot.get (other.set a r) = slot.get r) :
    other.field.Keeps slot.get := by
  intro v update hread r
  obtain ⟨a, -, rfl⟩ := exists_of_map_eq_ok hread
  exact h a r

/-- Of slots that are all apart each governs its own part. -/
theorem governs {slots : List (Slot ν ε ρ)} (hapart : slots.Pairwise Apart) :
    ∀ slot ∈ slots, Governs (slots.map field) slot.name slot.read slot.get := by
  induction slots with
  | nil => exact fun _ h => absurd h List.not_mem_nil
  | cons first more ih =>
    obtain ⟨hfirst, hmore⟩ := List.pairwise_cons.1 hapart
    rw [List.map_cons]
    refine List.forall_mem_cons.2 ⟨⟨?own, ?others⟩, fun slot hslot => ⟨?tailOwn, ?tailOthers⟩⟩
    case own =>
      refine ⟨first.field, List.find?_cons_of_pos (beq_self_eq_true _), fun v update hread => ?_⟩
      obtain ⟨a, ha, rfl⟩ := exists_of_map_eq_ok hread
      exact ⟨a, ha, first.get_set a⟩
    case others =>
      refine List.forall_mem_cons.2 ⟨fun h => absurd rfl h, List.forall_mem_map.2 ?_⟩
      exact fun other hother _ => keeps_of_get_set (hfirst other hother).left
    case tailOwn =>
      obtain ⟨own, hfind, hread⟩ := (ih hmore slot hslot).own
      have hother : (first.field.name == slot.name) = false :=
        beq_false_of_ne (hfirst slot hslot).name
      refine ⟨own, ?_, hread⟩
      rw [List.find?_cons, hother]
      exact hfind
    case tailOthers =>
      refine List.forall_mem_cons.2 ⟨fun _ => ?_, (ih hmore slot hslot).others⟩
      exact keeps_of_get_set (hfirst slot hslot).right

end Slot

namespace Governs

variable {name : String} {read : ν → Except ε α} {part : ρ → α}

/-- Without an entry of its name a part of a record stays as it is. With one it is what that
entry reads as. -/
theorem assign_eq (g : Governs fields name read part) {seen : List String} {record result : ρ}
    {entries : List (Except ε (String × ν))}
    (h : assign fields duplicate seen record entries = .ok result) :
    ((∀ v, .ok (name, v) ∉ entries) → part result = part record) ∧
      ∀ v, .ok (name, v) ∈ entries → read v = .ok (part result) := by
  obtain ⟨own, hown, hread⟩ := g.own
  induction entries generalizing seen record with
  | nil =>
    cases h
    exact ⟨fun _ => rfl, fun v hv => absurd hv List.not_mem_nil⟩
  | cons entry more ih =>
    obtain ⟨n, w, rfl, hstep⟩ := assign_cons h
    rcases hstep with ⟨hnone, hrest⟩ | ⟨field, update, hsome, hnew, hupdate, hrest⟩
    · obtain ⟨hno, hyes⟩ := ih hrest
      refine ⟨fun hv => hno fun v hm => hv v (List.mem_cons_of_mem _ hm), fun v hv => ?_⟩
      rcases List.mem_cons.1 hv with heq | hm
      · cases heq
        rw [hown] at hnone
        cases hnone
      · exact hyes v hm
    · obtain ⟨hno, hyes⟩ := ih hrest
      by_cases hn : n = name
      · subst hn
        rw [hown] at hsome
        cases hsome
        obtain ⟨a, ha, hpart⟩ := hread w update hupdate
        have hlast : ∀ v, .ok (n, v) ∉ more :=
          not_mem_of_seen (by rw [hown]; rfl) List.mem_cons_self hrest
        have hresult : part result = a := (hno hlast).trans (hpart record)
        refine ⟨fun hv => absurd List.mem_cons_self (hv w), fun v hv => ?_⟩
        rcases List.mem_cons.1 hv with heq | hm
        · cases heq
          rw [ha, hresult]
        · exact absurd hm (hlast v)
      · have hother : field.name ≠ name := by
          have hfound : field.name = n := by simpa using List.find?_some hsome
          exact hfound ▸ hn
        have hsame := g.others field (List.mem_of_find?_eq_some hsome) hother w update hupdate
          record
        refine ⟨fun hv => ?_, fun v hv => ?_⟩
        · rw [hno fun v hm => hv v (List.mem_cons_of_mem _ hm), hsame]
        · rcases List.mem_cons.1 hv with heq | hm
          · cases heq
            exact absurd rfl hn
          · exact hyes v hm

/-- The same of a whole record, which begins with its defaults. -/
theorem record_eq (g : Governs fields name read part) {F : Format ν ε} {title : String}
    {defaults result : ρ} {v : ν} (h : F.record title fields defaults v = .ok result) :
    ∃ entries, F.entries title (fields.map (·.name)) v = .ok entries ∧
      ((∀ w, .ok (name, w) ∉ entries) → part result = part defaults) ∧
      ∀ w, .ok (name, w) ∈ entries → read w = .ok (part result) := by
  unfold Format.record at h
  split at h
  · cases h
  next entries hentries => exact ⟨entries, hentries, g.assign_eq h⟩

end Governs

/-! ## Records in a document -/

namespace Place

/-- The places that a path of keys leads to. -/
def reached (p : Place) : List String → List Place
  | [] => [p]
  | name :: path =>
    match p.target with
    | .mapping es _ => es.flatMap fun (k, v) =>
      match p.entry k v with
      | .ok (n, q) => if n = name then q.reached path else []
      | .error _ => []
    | _ => []

/-- A path of keys leads where its second half leads from the places of its first. -/
theorem reached_append (p : Place) (path more : List String) :
    p.reached (path ++ more) = (p.reached path).flatMap (·.reached more) := by
  induction path generalizing p with
  | nil => simp [reached]
  | cons name path ih =>
    rw [List.cons_append, reached, reached]
    split
    next es _ _ =>
      rw [List.flatMap_assoc]
      refine congrArg es.flatMap (funext fun (k, v) => ?_)
      dsimp only
      split
      next n q _ =>
        by_cases hn : n = name
        · rw [if_pos hn, if_pos hn, ih]
        · rw [if_neg hn, if_neg hn, List.flatMap_nil]
      next => rfl
    next => rfl

/-- A path of keys leads to where its rest leads from an entry with its first key. -/
theorem mem_reached_cons {p q : Place} {title name : String} {path : List String}
    {entries : List (Except PlacedFault (String × Place))}
    (h : p.entries title = .ok entries) :
    q ∈ p.reached (name :: path) ↔ ∃ w, .ok (name, w) ∈ entries ∧ q ∈ w.reached path := by
  unfold Place.entries at h
  rw [reached]
  split at h
  next es _ htarget =>
    cases h
    rw [htarget]
    simp only [List.mem_flatMap, List.mem_map]
    constructor
    · rintro ⟨⟨k, v⟩, hkv, hq⟩
      dsimp only at hq
      split at hq
      next n w hentry =>
        split at hq
        next hn => exact ⟨w, ⟨(k, v), hkv, hn ▸ hentry⟩, hq⟩
        next => cases hq
      next => cases hq
    · rintro ⟨w, ⟨⟨k, v⟩, hkv, hentry⟩, hq⟩
      refine ⟨(k, v), hkv, ?_⟩
      dsimp only at hentry ⊢
      rw [hentry]
      simpa using hq
  next style text _ htarget =>
    rw [htarget]
    split at h
    · cases h
      simp
    · cases h
  next => cases h

end Place

/-- What a part of a record in a document holds: what stands behind the key of its field, and
the default if nothing does. -/
theorem Governs.document {fields : List (Field Place PlacedFault ρ)} {name : String}
    {read : Place → Except PlacedFault α} {part : ρ → α} (g : Governs fields name read part)
    {title : String} {defaults result : ρ} {p : Place}
    (h : documentFormat.record title fields defaults p = .ok result) :
    (p.reached [name] = [] → part result = part defaults) ∧
      ∀ w ∈ p.reached [name], read w = .ok (part result) := by
  obtain ⟨entries, hentries, hno, hyes⟩ := g.record_eq h
  have hreached : ∀ w, w ∈ p.reached [name] ↔ .ok (name, w) ∈ entries := by
    intro w
    rw [Place.mem_reached_cons hentries]
    simp [Place.reached]
  refine ⟨fun hnil => hno fun w hw => ?_, fun w hw => hyes w ((hreached w).1 hw)⟩
  have hmem := (hreached w).2 hw
  rw [hnil] at hmem
  cases hmem

/-- The same of a part of a record that stands in a field of another one. -/
theorem Governs.nested {β : Type} {fields : List (Field Place PlacedFault ρ)}
    {inner : List (Field Place PlacedFault α)} {name key title : String} {defaults : α}
    {part : ρ → α} {read : Place → Except PlacedFault β} {deep : α → β}
    (g : Governs fields name (documentFormat.record title inner defaults) part)
    (g' : Governs inner key read deep) {whole : String} {base result : ρ} {p : Place}
    (hbase : part base = defaults)
    (h : documentFormat.record whole fields base p = .ok result) :
    (p.reached [name, key] = [] → deep (part result) = deep defaults) ∧
      ∀ w ∈ p.reached [name, key], read w = .ok (deep (part result)) := by
  obtain ⟨hno, hyes⟩ := g.document h
  have hreached : p.reached [name, key] = (p.reached [name]).flatMap (·.reached [key]) :=
    p.reached_append [name] [key]
  rw [hreached]
  constructor
  · intro hnil
    cases houter : p.reached [name] with
    | nil => rw [hno houter, hbase]
    | cons w more =>
      have hw : w ∈ p.reached [name] := by rw [houter]; exact List.mem_cons_self
      exact (g'.document (hyes w hw)).1 (List.flatMap_eq_nil_iff.1 hnil w hw)
  · intro w hw
    obtain ⟨outer, houter, hw⟩ := List.mem_flatMap.1 hw
    exact (g'.document (hyes outer houter)).2 w hw

end UniformIter.Decoding
