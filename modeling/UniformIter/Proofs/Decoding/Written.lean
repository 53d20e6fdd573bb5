import UniformIter.Decoding.OfDocument
import UniformIter.Proofs.Document.Tree

/-!
# Reading back written records

A record whose entries were written in the order of its fields is read as what the entries say,
one field after the other (`record_written`). What a field needs for that is `Field.Takes`: from
any node that holds the entry's value it reads the same update. All fields set what their value
reads as (`takes_of_read`), those that hold a record of their own not excepted.
-/

namespace UniformIter.Decoding

open Document (Content Node)

/-- A node of a written document is no alias, so it stands for itself. -/
theorem Place.target_of_heldBy {c : Content} {p : Place} (h : c.HeldBy p.node) :
    p.target = p.node := by
  have hnode : ∀ id q, p.node ≠ .aliasOf id q := by
    intro id q heq
    rw [heq] at h
    match c, h with
    | .boolean _, ⟨_, h⟩ => cases h
    | .string _, ⟨_, h⟩ => cases h
    | .sequence _, ⟨_, _, h, _⟩ => cases h
    | .mapping _, ⟨_, _, h, _⟩ => cases h
  unfold Place.target Node.resolve
  split
  next id q heq => exact absurd heq (hnode id q)
  next => rfl

/-! ## Values -/

/-- A string is read as itself, in whatever style it was written. -/
theorem string_written {s : String} {p : Place} (h : (Content.string s).HeldBy p.node) :
    documentFormat.string p = .ok s := by
  obtain ⟨q, hnode⟩ := h
  have htarget := p.target_of_heldBy (c := .string s) ⟨q, hnode⟩
  show p.string = _
  rw [Place.string, htarget, hnode]

/-- A truth value is read as itself. -/
theorem boolean_written {b : Bool} {p : Place} (h : (Content.boolean b).HeldBy p.node) :
    documentFormat.boolean p = .ok b := by
  obtain ⟨q, hnode⟩ := h
  have htarget := p.target_of_heldBy (c := .boolean b) ⟨q, hnode⟩
  show p.boolean = _
  rw [Place.boolean, htarget, hnode]
  cases b <;> rfl

theorem items_written {l : List String} {nodes : List Node} (p : Place)
    (h : Content.ItemsHeldBy (l.map .string) nodes) (start : Nat) :
    ((nodes.zipIdx start).map fun (n, i) => p.inside (.index i) n).mapM documentFormat.string =
      .ok l := by
  induction l generalizing nodes start with
  | nil =>
    obtain rfl : nodes = [] := h
    rfl
  | cons s l ih =>
    obtain ⟨n, rest, rfl, hn, hrest⟩ := h
    have hstring : documentFormat.string (p.inside (.index start) n) = .ok s :=
      string_written hn
    rw [List.zipIdx_cons, List.map_cons, List.mapM_cons, hstring, ih hrest]
    rfl

/-- Strings are read one after the other. -/
theorem strings_written {l : List String} {p : Place}
    (h : (Content.sequence (l.map .string)).HeldBy p.node) :
    documentFormat.strings p = .ok l := by
  obtain ⟨nodes, q, hnode, hheld⟩ := h
  have htarget := p.target_of_heldBy (c := .sequence (l.map .string)) ⟨nodes, q, hnode, hheld⟩
  have hitems : documentFormat.items p =
      .ok (nodes.zipIdx.map fun (n, i) => p.inside (.index i) n) := by
    show p.items = _
    rw [Place.items, htarget, hnode]
  rw [Format.strings, hitems]
  exact items_written p hheld 0

/-! ## Fields -/

variable {ν ε ρ : Type}

/-- From any node that holds an entry's value the field of that name reads this update. -/
structure Field.Takes (field : Field Place PlacedFault ρ) (entry : String × Content)
    (update : ρ → ρ) : Prop where
  name : field.name = entry.1
  read : ∀ p : Place, entry.2.HeldBy p.node → field.read p = .ok update

/-- A field that sets what its value reads as. -/
theorem takes_of_read {β : Type} {name : String} {read : Place → Except PlacedFault β}
    {content : Content} {value : β}
    (h : ∀ p : Place, content.HeldBy p.node → read p = .ok value) (set : β → ρ → ρ) :
    Field.Takes ⟨name, fun p => (read p).map set⟩ (name, content) (set value) := by
  refine ⟨rfl, fun p hp => ?_⟩
  dsimp only
  rw [h p hp]
  rfl

theorem takes_string (name s : String) (set : String → ρ → ρ) :
    Field.Takes (documentFormat.stringField name set) (name, .string s) (set s) :=
  takes_of_read (fun _ => string_written) set

theorem takes_boolean (name : String) (b : Bool) (set : Bool → ρ → ρ) :
    Field.Takes (documentFormat.booleanField name set) (name, .boolean b) (set b) :=
  takes_of_read (fun _ => boolean_written) set

theorem takes_strings (name : String) (l : List String) (set : List String → ρ → ρ) :
    Field.Takes (documentFormat.stringsField name set) (name, .sequence (l.map .string))
      (set l) :=
  takes_of_read (fun _ => strings_written) set

/-! ## Records -/

/-- Each field takes the entry in its place. -/
def TakesAll : List (Field Place PlacedFault ρ) → List (String × Content) → List (ρ → ρ) → Prop
  | [], [], [] => True
  | field :: fields, entry :: entries, update :: updates =>
    field.Takes entry update ∧ TakesAll fields entries updates
  | _, _, _ => False

/-- The field of a name that no field before it has is found by its name. -/
theorem find?_name {before : List (Field ν ε ρ)} {field : Field ν ε ρ}
    (h : field.name ∉ before.map (·.name)) (after : List (Field ν ε ρ)) :
    (before ++ field :: after).find? (·.name == field.name) = some field := by
  have hnone : before.find? (·.name == field.name) = none := by
    rw [List.find?_eq_none]
    intro other hother heq
    exact h (List.mem_map.2 ⟨other, hother, beq_iff_eq.1 heq⟩)
  rw [List.find?_append, hnone, Option.none_or]
  exact List.find?_cons_of_pos (beq_self_eq_true field.name)

/-- Entries in the order of the fields are all assigned, those before them having been so. -/
theorem assign_written (before : List (Field Place PlacedFault ρ))
    {after : List (Field Place PlacedFault ρ)}
    (hnodup : ((before ++ after).map (·.name)).Nodup) {entries : List (String × Content)}
    {updates : List (ρ → ρ)} (h : TakesAll after entries updates) {nodes : List (Node × Node)}
    (hnodes : Content.EntriesHeldBy entries nodes) (duplicate : String → PlacedFault) (p : Place)
    (record : ρ) :
    assign (before ++ after) duplicate (before.map (·.name)).reverse record
        (nodes.map fun (k, v) => p.entry k v) =
      .ok (updates.foldl (fun record update => update record) record) := by
  -- Each field moves from those to come to those before, and its name to the names seen.
  induction after generalizing before entries updates nodes record with
  | nil =>
    match entries, updates, h with
    | [], [], _ =>
      obtain rfl : nodes = [] := hnodes
      rfl
  | cons field after ih =>
    match entries, updates, h with
    | (name, value) :: entries, update :: updates, h =>
      obtain ⟨q, n, rest, rfl, hn, hrest⟩ := hnodes
      obtain ⟨⟨rfl, hread⟩, hmore⟩ := h
      have hentry : p.entry (.scalar .plain field.name ⟨none, none, q⟩) n =
          .ok (field.name, p.inside (.key field.name) n) := rfl
      have hnew : field.name ∉ before.map (·.name) := by
        rw [List.map_append, List.map_cons] at hnodup
        intro hmem
        exact (List.nodup_append.1 hnodup).2.2 _ hmem _ List.mem_cons_self rfl
      have hseen : ¬(before.map (·.name)).reverse.contains field.name = true := by
        rwa [List.contains_iff_mem, List.mem_reverse]
      have hupdate : field.read (p.inside (.key field.name) n) = .ok update := hread _ hn
      have hrecursion := ih (before ++ [field]) (by rwa [List.append_assoc]) hmore hrest
        (update record)
      rw [List.append_assoc, List.singleton_append, List.map_append, List.reverse_append]
        at hrecursion
      rw [List.map_cons]
      dsimp only
      rw [hentry, assign, find?_name hnew]
      dsimp only
      rw [if_neg hseen, hupdate]
      exact hrecursion

/-- A written record is read as what its entries say. -/
theorem record_written {fields : List (Field Place PlacedFault ρ)}
    {entries : List (String × Content)} {updates : List (ρ → ρ)}
    (hnodup : (fields.map (·.name)).Nodup) (h : TakesAll fields entries updates) (title : String)
    (defaults : ρ) {p : Place} (hp : (Content.mapping entries).HeldBy p.node) :
    documentFormat.record title fields defaults p =
      .ok (updates.foldl (fun record update => update record) defaults) := by
  obtain ⟨nodes, q, hnode, hheld⟩ := hp
  have htarget := p.target_of_heldBy (c := .mapping entries) ⟨nodes, q, hnode, hheld⟩
  have hentries : documentFormat.entries title (fields.map (·.name)) p =
      .ok (nodes.map fun (k, v) => p.entry k v) := by
    show p.entries title = _
    rw [Place.entries, htarget, hnode]
  rw [Format.record, hentries]
  exact assign_written [] hnodup h hheld _ p defaults

end UniformIter.Decoding
