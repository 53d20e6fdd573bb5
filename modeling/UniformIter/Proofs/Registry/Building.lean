import UniformIter.Proofs.Registry.Entries

/-!
# Which names make a registry

A registry is built name by name, and the first name that cannot be added is the fault. What can
be added depends on the names before it alone: a name for an iterator type that is not among them
(`Listable`). `Registry.collect_of_listable` and `Registry.collect_of_concerns` say what becomes of
a whole list of names, `Registry.ofNames_ok_or_concerns` that one of the two is the case, and
`Registry.lists_of_ofNames` what a registry tells of the two lists that it was built from.
-/

namespace UniformIter

/-! ## Names in order -/

/-- Names that make a registry: each of them names an iterator type, and none comes twice. -/
structure Listable (names : List String) : Prop where
  sound : ∀ n ∈ names, NamesIterator n
  nodup : names.Nodup

/-- What is wrong with a name behind others: what is wrong with it by itself, or else that it is
one of them. -/
inductive RegistryFault.Concerns (earlier : List String) (name : String) :
    RegistryFault → Prop where
  | malformed {f : NameFault} (h : f.Concerns name) : Concerns earlier name (.malformed name f)
  | duplicate (h : NamesIterator name) (hearlier : name ∈ earlier) :
    Concerns earlier name (.duplicate name)

namespace Listable

variable {earlier more : List String} {name : String}

theorem nil : Listable [] := ⟨fun _ h => absurd h List.not_mem_nil, List.nodup_nil⟩

theorem of_append (h : Listable (earlier ++ more)) : Listable earlier :=
  ⟨fun n hn => h.sound n (List.mem_append_left more hn), (List.nodup_append.mp h.nodup).1⟩

/-- One name more can be listed if it names an iterator type that is not there. -/
theorem concat_iff :
    Listable (earlier ++ [name]) ↔ Listable earlier ∧ NamesIterator name ∧ name ∉ earlier := by
  constructor
  · intro h
    refine ⟨h.of_append, h.sound name (List.mem_append_right earlier List.mem_cons_self), ?_⟩
    intro hmem
    exact (List.nodup_append.mp h.nodup).2.2 name hmem name List.mem_cons_self rfl
  · rintro ⟨h, hname, hno⟩
    constructor
    · intro n hn
      rcases List.mem_append.mp hn with hn | hn
      · exact h.sound n hn
      · rw [List.mem_singleton.mp hn]
        exact hname
    · rw [List.nodup_append]
      refine ⟨h.nodup, List.nodup_singleton name, ?_⟩
      intro a ha b hb hab
      rw [List.mem_singleton.mp hb] at hab
      exact hno (hab ▸ ha)

/-- A name that can be listed is not told to be wrong, and every other one is. -/
theorem concat_iff_not_concerns (h : Listable earlier) :
    Listable (earlier ++ [name]) ↔ ∀ f : RegistryFault, ¬f.Concerns earlier name := by
  rw [concat_iff]
  constructor
  · rintro ⟨-, hname, hno⟩ f hf
    cases hf with
    | malformed hf =>
      rw [← nameFault?_eq_some_iff, nameFault?_eq_none_iff.mpr hname] at hf
      cases hf
    | duplicate _ hmem => exact hno hmem
  · intro hsound
    have hname : NamesIterator name := by
      rw [← nameFault?_eq_none_iff]
      cases hf : nameFault? name with
      | none => rfl
      | some f => exact absurd (.malformed (nameFault?_eq_some_iff.mp hf)) (hsound _)
    exact ⟨h, hname, fun hmem => hsound _ (.duplicate hname hmem)⟩

/-- Names can be listed behind others, or there is a first one among them that cannot. -/
theorem append_or_concerns (h : Listable earlier) (names : List String) :
    Listable (earlier ++ names) ∨
      ∃ before n after f, names = before ++ n :: after ∧ Listable (earlier ++ before) ∧
        RegistryFault.Concerns (earlier ++ before) n f := by
  induction names generalizing earlier with
  | nil =>
    rw [List.append_nil]
    exact .inl h
  | cons name names ih =>
    by_cases hname : Listable (earlier ++ [name])
    · rcases ih hname with hall | ⟨before, n, after, f, rfl, hbefore, hf⟩
      · rw [List.append_assoc] at hall
        exact .inl hall
      · rw [List.append_assoc] at hbefore hf
        exact .inr ⟨name :: before, n, after, f, rfl, hbefore, hf⟩
    · rw [h.concat_iff_not_concerns, not_forall] at hname
      obtain ⟨f, hf⟩ := hname
      refine .inr ⟨[], name, names, f, rfl, ?_, ?_⟩
      · rw [List.append_nil]
        exact h
      · rw [List.append_nil]
        exact not_not.mp hf

end Listable

/-- Names can be listed exactly if nothing is wrong with any of them behind those before it. -/
theorem listable_iff {names : List String} :
    Listable names ↔ ∀ before n after, names = before ++ n :: after →
      ∀ f : RegistryFault, ¬f.Concerns before n := by
  constructor
  · rintro h before n after rfl
    have hn : Listable (before ++ [n]) := by
      rw [List.append_cons] at h
      exact h.of_append
    exact (hn.of_append.concat_iff_not_concerns).mp hn
  · intro h
    rcases Listable.nil.append_or_concerns names with hall | ⟨before, n, after, f, hsplit, -, hf⟩
    · exact hall
    · exact absurd hf (h before n after hsplit f)

namespace Registry

/-! ## Name by name -/

/-- The names of a registry in order, each with whether it gets an adapter. -/
def marks (r : Registry) : List (String × Bool) :=
  r.entries.map fun e => (e.iterator.text, e.supported)

/-- The names of a registry in order. -/
def texts (r : Registry) : List String := r.marks.map Prod.fst

theorem texts_eq (r : Registry) : r.texts = r.names.map (·.text) := by
  rw [texts, marks, names, List.map_map, List.map_map]
  rfl

theorem mem_texts {r : Registry} {n : IteratorName} : n.text ∈ r.texts ↔ n ∈ r.names := by
  rw [texts_eq, List.mem_map]
  constructor
  · rintro ⟨m, hm, hmn⟩
    rw [← IteratorName.text_injective hmn]
    exact hm
  · intro hn
    exact ⟨n, hn, rfl⟩

theorem marks_add (r : Registry) (e : Entry) (h : e.iterator ∉ r.names) :
    (r.add e h).marks = r.marks ++ [(e.iterator.text, e.supported)] := by
  rw [marks, entries_add, List.map_append]
  rfl

theorem texts_of_marks {r r' : Registry} {p : String × Bool} (h : r'.marks = r.marks ++ [p]) :
    r'.texts = r.texts ++ [p.1] := by
  rw [texts, h, List.map_append]
  rfl

variable {r : Registry} {name : String} {more : List (String × Bool)}

/-- One step: a name that can be listed is added at the end. -/
theorem collect_cons_of_listable (h : Listable (r.texts ++ [name])) (supported : Bool)
    (more : List (String × Bool)) :
    ∃ r' : Registry, r'.marks = r.marks ++ [(name, supported)] ∧
      collect r ((name, supported) :: more) = collect r' more := by
  obtain ⟨-, hname, hno⟩ := Listable.concat_iff.mp h
  have htext : IteratorName.ofText name = .ok ⟨name, nameFault?_eq_none_iff.mpr hname⟩ :=
    IteratorName.ofText_eq_ok_iff.mpr rfl
  have hnew : (⟨name, nameFault?_eq_none_iff.mpr hname⟩ : IteratorName) ∉ r.names := by
    intro hmem
    exact hno (mem_texts.mpr hmem)
  refine ⟨_, marks_add r ⟨_, supported⟩ hnew, ?_⟩
  rw [collect, htext]
  dsimp only
  rw [dif_neg hnew]

/-- One step: a name that something is wrong with is the fault. -/
theorem collect_cons_of_concerns {f : RegistryFault} (h : f.Concerns r.texts name)
    (supported : Bool) (more : List (String × Bool)) :
    collect r ((name, supported) :: more) = (r, some f) := by
  cases h with
  | malformed hf => rw [collect, IteratorName.ofText_eq_error_iff.mpr hf]
  | duplicate hname hmem =>
    have htext : IteratorName.ofText name = .ok ⟨name, nameFault?_eq_none_iff.mpr hname⟩ :=
      IteratorName.ofText_eq_ok_iff.mpr rfl
    have hold : (⟨name, nameFault?_eq_none_iff.mpr hname⟩ : IteratorName) ∈ r.names :=
      mem_texts.mp hmem
    rw [collect, htext]
    dsimp only
    rw [dif_pos hold]

/-- Names that can be listed are all added, in order. -/
theorem collect_of_listable (h : Listable (r.texts ++ more.map Prod.fst)) :
    ∃ r' : Registry, collect r more = (r', none) ∧ r'.marks = r.marks ++ more := by
  induction more generalizing r with
  | nil => exact ⟨r, rfl, (List.append_nil r.marks).symm⟩
  | cons p more ih =>
    obtain ⟨name, supported⟩ := p
    rw [List.map_cons, List.append_cons] at h
    obtain ⟨r', hmarks, hstep⟩ := collect_cons_of_listable h.of_append supported more
    have htexts : r'.texts = r.texts ++ [name] := texts_of_marks hmarks
    rw [← htexts] at h
    obtain ⟨r'', hrest, hall⟩ := ih h
    refine ⟨r'', hstep.trans hrest, ?_⟩
    rw [hall, hmarks, List.append_assoc]
    rfl

/-- Behind names that can be listed, one that something is wrong with is the fault. -/
theorem collect_of_concerns {before after : List String} {f : RegistryFault}
    (hmore : more.map Prod.fst = before ++ name :: after) (h : Listable (r.texts ++ before))
    (hf : f.Concerns (r.texts ++ before) name) : (collect r more).2 = some f := by
  induction before generalizing r more with
  | nil =>
    obtain ⟨⟨name, supported⟩, more, rfl, rfl, -⟩ := List.map_eq_cons_iff.mp hmore
    rw [List.append_nil] at hf
    rw [collect_cons_of_concerns hf]
  | cons first before ih =>
    obtain ⟨⟨first, supported⟩, more, rfl, rfl, hrest⟩ := List.map_eq_cons_iff.mp hmore
    rw [List.append_cons] at h hf
    obtain ⟨r', hmarks, hstep⟩ := collect_cons_of_listable h.of_append supported more
    have htexts : r'.texts = r.texts ++ [first] := texts_of_marks hmarks
    rw [← htexts] at h hf
    rw [hstep]
    exact ih hrest h hf

/-! ## Two lists of names -/

variable {s u : List String} {f : RegistryFault}

theorem map_fst_marked (s u : List String) : (marked s u).map Prod.fst = s ++ u := by
  rw [marked, List.map_append, List.map_map, List.map_map]
  show s.map id ++ u.map id = s ++ u
  rw [List.map_id, List.map_id]

theorem ofNames_of_listable (h : Listable (s ++ u)) :
    ∃ r : Registry, ofNames s u = .ok r ∧ r.marks = marked s u := by
  have hall : Listable (empty.texts ++ (marked s u).map Prod.fst) := by
    rw [map_fst_marked]
    exact h
  obtain ⟨r, hrun, hmarks⟩ := collect_of_listable hall
  refine ⟨r, ?_, hmarks⟩
  rw [ofNames, hrun]

theorem ofNames_of_concerns {before after : List String} {name : String}
    (hsplit : s ++ u = before ++ name :: after) (h : Listable before)
    (hf : f.Concerns before name) : ofNames s u = .error f := by
  rw [← map_fst_marked] at hsplit
  have hrun := collect_of_concerns (r := empty) hsplit h hf
  unfold ofNames
  split
  next hnone =>
    rw [hnone] at hrun
    cases hrun
  next hsome =>
    rw [hsome] at hrun
    cases hrun
    rfl

/-- A registry is built, or a name is the first one that something is wrong with. -/
theorem ofNames_ok_or_concerns (s u : List String) :
    Listable (s ++ u) ∧ (∃ r : Registry, ofNames s u = .ok r ∧ r.marks = marked s u) ∨
      ∃ before name after f, s ++ u = before ++ name :: after ∧ Listable before ∧
        RegistryFault.Concerns before name f ∧ ofNames s u = .error f := by
  rcases Listable.nil.append_or_concerns (s ++ u) with h | ⟨before, n, after, f, hsplit, h, hf⟩
  · exact .inl ⟨h, ofNames_of_listable h⟩
  · exact .inr ⟨before, n, after, f, hsplit, h, hf, ofNames_of_concerns hsplit h hf⟩

theorem marks_of_ofNames {r : Registry} (h : ofNames s u = .ok r) : r.marks = marked s u := by
  rcases ofNames_ok_or_concerns s u with ⟨-, r', hr', hmarks⟩ | ⟨_, _, _, f, -, -, -, hf⟩
  · rw [hr'] at h
    cases h
    exact hmarks
  · rw [hf] at h
    cases h

theorem exists_ofNames_iff : (∃ r, ofNames s u = .ok r) ↔ Listable (s ++ u) := by
  constructor
  · rintro ⟨r, hr⟩
    rcases ofNames_ok_or_concerns s u with ⟨hall, -⟩ | ⟨_, _, _, f, -, -, -, hf⟩
    · exact hall
    · rw [hf] at hr
      cases hr
  · intro h
    obtain ⟨r, hr, -⟩ := ofNames_of_listable h
    exact ⟨r, hr⟩

theorem ofNames_eq_error_iff :
    ofNames s u = .error f ↔ ∃ before name after, s ++ u = before ++ name :: after ∧
      Listable before ∧ f.Concerns before name := by
  constructor
  · intro h
    rcases ofNames_ok_or_concerns s u with ⟨-, r, hr, -⟩ | ⟨before, n, after, g, hsplit, hb, hg, he⟩
    · rw [hr] at h
      cases h
    · rw [he] at h
      cases h
      exact ⟨before, n, after, hsplit, hb, hg⟩
  · rintro ⟨before, name, after, hsplit, hb, hf⟩
    exact ofNames_of_concerns hsplit hb hf

/-! ## What a registry tells of its lists -/

theorem mem_texts_iff {r : Registry} {q : String} :
    q ∈ r.texts ↔ ∃ e ∈ r.entries, e.iterator.text = q := by
  rw [texts, marks, List.map_map, List.mem_map]
  rfl

/-- A name that stands in a registry is looked up there, and no other entry has it. -/
theorem get?_of_mem {r : Registry} {e : Entry} (h : e ∈ r.entries) :
    r.get? e.iterator.text = some e := by
  unfold get?
  cases hfind : r.entries.find? fun d => d.iterator.text == e.iterator.text with
  | none =>
    have hno := List.find?_eq_none.mp hfind e h
    exact absurd (beq_iff_eq.mpr rfl) hno
  | some d =>
    have hname : d.iterator.text = e.iterator.text := by simpa using List.find?_some hfind
    rw [eq_of_iterator (List.mem_of_find?_eq_some hfind) h (IteratorName.text_injective hname)]

theorem get?_eq_none {r : Registry} {q : String} (h : q ∉ r.texts) : r.get? q = none := by
  unfold get?
  rw [List.find?_eq_none]
  intro e he hname
  exact h (mem_texts_iff.mpr ⟨e, he, by simpa using hname⟩)

/-- No two entries of a registry have one container. -/
theorem nodup_containers (r : Registry) : (r.entries.map (·.container)).Nodup := by
  have hmap : r.entries.map (·.container) = r.names.map (·.container) := by
    rw [names, List.map_map]
    rfl
  rw [hmap]
  exact r.nodup.map fun _ _ => IteratorName.container_injective

/-- The supported entries are those of the supported names, in order. -/
theorem texts_supported {r : Registry} (h : r.marks = marked s u) :
    r.supported.map (·.iterator.text) = s := by
  have hfilter : r.supported.map (·.iterator.text) =
      (r.marks.filter Prod.snd).map Prod.fst := by
    rw [marks, List.filter_map, List.map_map]
    rfl
  rw [hfilter, h, marked, List.filter_append, List.filter_map, List.filter_map]
  simp [Function.comp_def]

/-- The unsupported entries are those of the unsupported names, in order. -/
theorem texts_unsupported {r : Registry} (h : r.marks = marked s u) :
    r.unsupported.map (·.iterator.text) = u := by
  have hfilter : r.unsupported.map (·.iterator.text) =
      (r.marks.filter fun p => !p.2).map Prod.fst := by
    rw [marks, List.filter_map, List.map_map]
    rfl
  rw [hfilter, h, marked, List.filter_append, List.filter_map, List.filter_map]
  simp [Function.comp_def]

/-- What a registry tells of the supported and the unsupported names that it was built from. -/
structure Lists (r : Registry) (s u : List String) : Prop where
  /-- The entries are the supported names and then the unsupported ones, in order. -/
  entries : r.entries.map (fun e => (e.iterator.text, e.supported)) =
    s.map (·, true) ++ u.map (·, false)
  /-- Each entry has the container that its name tells of. -/
  containers : ∀ e ∈ r.entries, e.container.text ≠ "" ∧
    e.iterator.text = e.container.text ++ iteratorSuffix
  nodup_containers : (r.entries.map (·.container)).Nodup
  supported : r.supported.map (·.iterator.text) = s
  unsupported : r.unsupported.map (·.iterator.text) = u
  /-- A name of either list is looked up as the only entry that has it. -/
  found : ∀ q, q ∈ s ∨ q ∈ u → ∃ e ∈ r.entries, r.get? q = some e ∧ e.iterator.text = q ∧
    ∀ d ∈ r.entries, d.iterator.text = q → d = e
  absent : ∀ q, q ∉ s → q ∉ u → r.get? q = none
  isSupported : ∀ q, r.isSupported q = true ↔ q ∈ s
  length : r.entries.length = s.length + u.length

/-- A registry with the names of two lists tells them apart, and every other name from them. -/
theorem lists_of_marks {r : Registry} (h : r.marks = marked s u) : r.Lists s u := by
  have htexts : r.texts = s ++ u := by
    rw [texts, h, map_fst_marked]
  constructor
  case entries => exact h
  case containers =>
    intro e _
    exact ⟨e.iterator.container_ne_empty, e.iterator.text_eq⟩
  case nodup_containers => exact r.nodup_containers
  case supported => exact texts_supported h
  case unsupported => exact texts_unsupported h
  case found =>
    intro q hq
    rw [← List.mem_append, ← htexts, mem_texts_iff] at hq
    obtain ⟨e, he, rfl⟩ := hq
    refine ⟨e, he, get?_of_mem he, rfl, ?_⟩
    intro d hd hname
    exact eq_of_iterator hd he (IteratorName.text_injective hname)
  case absent =>
    intro q hs hu
    apply get?_eq_none
    rw [htexts, List.mem_append]
    rintro (hq | hq)
    · exact hs hq
    · exact hu hq
  case isSupported =>
    intro q
    rw [isSupported_iff, ← List.mem_map, texts_supported h]
  case length =>
    have hlength := congrArg List.length htexts
    rw [texts, marks, List.length_map, List.length_map, List.length_append] at hlength
    exact hlength

theorem lists_of_ofNames {r : Registry} (h : ofNames s u = .ok r) : r.Lists s u :=
  lists_of_marks (marks_of_ofNames h)

/-- Two lists of names make a registry exactly if every one of them names an iterator type and
none comes twice, and the registry lists them. Otherwise the fault is that of the first name that
something is wrong with, behind the names before it. -/
theorem ofNames_outcome (s u : List String) :
    ((∃ r, ofNames s u = .ok r) ↔
      (∀ n ∈ s ++ u, isIdentifier n = true ∧ ∃ c, c ≠ "" ∧ n = c ++ iteratorSuffix) ∧
        (s ++ u).Nodup) ∧
    (∀ r, ofNames s u = .ok r → r.Lists s u) ∧
    ∀ f, ofNames s u = .error f ↔
      ∃ before name after, s ++ u = before ++ name :: after ∧ f.Concerns before name ∧
        ∀ front n rest, before = front ++ n :: rest →
          ∀ g : RegistryFault, ¬g.Concerns front n := by
  refine ⟨?_, fun r => lists_of_ofNames, ?_⟩
  · rw [exists_ofNames_iff]
    constructor
    · intro h
      exact ⟨fun n hn => ⟨(h.sound n hn).identifier, (h.sound n hn).container⟩, h.nodup⟩
    · rintro ⟨hsound, hnodup⟩
      exact ⟨fun n hn => ⟨(hsound n hn).1, (hsound n hn).2⟩, hnodup⟩
  · intro f
    rw [ofNames_eq_error_iff]
    constructor
    · rintro ⟨before, name, after, hsplit, hbefore, hf⟩
      exact ⟨before, name, after, hsplit, hf, listable_iff.mp hbefore⟩
    · rintro ⟨before, name, after, hsplit, hf, hbefore⟩
      exact ⟨before, name, after, hsplit, listable_iff.mpr hbefore, hf⟩

/-- Names that hold each other make a registry. One that comes twice is the fault although the
name behind it tells of no container. -/
theorem ofNames_outcome_nested :
    (∃ r, ofNames ["FooIteratorIterator", "FooIterator"] ["BarIterator"] = .ok r ∧
      r.Lists ["FooIteratorIterator", "FooIterator"] ["BarIterator"] ∧
      r.entries.map (·.container.text) = ["FooIterator", "Foo", "Bar"]) ∧
    ofNames ["FooIterator"] ["FooIterator", "Bar"] = .error (.duplicate "FooIterator") := by
  constructor
  · have hrun : ∃ r, ofNames ["FooIteratorIterator", "FooIterator"] ["BarIterator"] = .ok r ∧
        r.entries.map (·.container.text) = ["FooIterator", "Foo", "Bar"] :=
      ⟨_, rfl, by decide⟩
    obtain ⟨r, hr, hcontainers⟩ := hrun
    exact ⟨r, hr, (ofNames_outcome _ _).2.1 r hr, hcontainers⟩
  · have hfoo : NamesIterator "FooIterator" := ⟨by decide, "Foo", by decide, rfl⟩
    apply ((ofNames_outcome ["FooIterator"] ["FooIterator", "Bar"]).2.2 _).mpr
    refine ⟨["FooIterator"], "FooIterator", ["Bar"], rfl, ?_, ?_⟩
    · exact .duplicate hfoo List.mem_cons_self
    · have hfirst : Listable ([] ++ ["FooIterator"]) :=
        Listable.concat_iff.mpr ⟨.nil, hfoo, List.not_mem_nil⟩
      exact listable_iff.mp hfirst

end Registry

end UniformIter
