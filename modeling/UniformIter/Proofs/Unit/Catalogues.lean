import UniformIter.Proofs.Text.ByteOrder

/-!
# What a catalogue keeps

A catalogue keeps, under every name, the renderer that was added last under it, and keeps them in
the order of their names (`Catalogue.Keeps`). To add one renderer keeps this (`Keeps.add`), and so
does any series of them (`Keeps.addAll`). What is kept decides everything else: what a look-up
finds, which names are listed, and that the order in which names came leaves no trace
(`Catalogue.grown_addAll`).
-/

namespace UniformIter

namespace Catalogue

variable {c d : Catalogue} {rs qs : List Renderer} {r : Renderer} {n : String}

/-! ## Histories -/

/-- The catalogue with more renderers, added one after the other. -/
def addAll (c : Catalogue) (rs : List Renderer) : Catalogue := rs.foldl add c

/-- The renderer that came last under a name. -/
def lastNamed (rs : List Renderer) (n : String) : Option Renderer :=
  rs.reverse.find? (·.name == n)

theorem lastNamed_concat (rs : List Renderer) (r : Renderer) (n : String) :
    lastNamed (rs ++ [r]) n = if r.name = n then some r else lastNamed rs n := by
  rw [lastNamed, List.reverse_append, List.reverse_singleton, List.singleton_append]
  exact Keyed.find?_cons r rs.reverse n

theorem lastNamed_append (rs qs : List Renderer) (n : String) :
    lastNamed (rs ++ qs) n = (lastNamed qs n).or (lastNamed rs n) := by
  rw [lastNamed, List.reverse_append, List.find?_append]
  rfl

theorem lastNamed_eq_some_iff : lastNamed rs n = some r ↔
    r.name = n ∧ ∃ before after, rs = before ++ r :: after ∧ ∀ q ∈ after, q.name ≠ n := by
  rw [lastNamed, List.find?_eq_some_iff_append, beq_iff_eq]
  refine and_congr_right fun _ => ⟨?_, ?_⟩
  · rintro ⟨after, before, hsplit, hafter⟩
    refine ⟨before.reverse, after.reverse, ?_, fun q hq => ?_⟩
    · rw [← List.reverse_reverse rs, hsplit]
      simp
    · simpa using hafter q (List.mem_reverse.1 hq)
  · rintro ⟨before, after, rfl, hafter⟩
    refine ⟨after.reverse, before.reverse, by simp, fun q hq => ?_⟩
    simpa using hafter q (List.mem_reverse.1 hq)

theorem lastNamed_eq_none_iff : lastNamed rs n = none ↔ ∀ r ∈ rs, r.name ≠ n := by
  rw [lastNamed, List.find?_eq_none]
  simp

theorem isSome_lastNamed_iff : (lastNamed rs n).isSome = true ↔ n ∈ rs.map (·.name) := by
  rw [Option.isSome_iff_ne_none, Ne, lastNamed_eq_none_iff, List.mem_map]
  simp

/-- Where no name comes twice, the last renderer of a name is the only one. -/
theorem lastNamed_eq_some_iff_mem (h : (rs.map (·.name)).Nodup) :
    lastNamed rs n = some r ↔ r ∈ rs ∧ r.name = n := by
  constructor
  · intro hlast
    obtain ⟨hname, before, after, rfl, -⟩ := lastNamed_eq_some_iff.1 hlast
    exact ⟨List.mem_append_right before List.mem_cons_self, hname⟩
  · rintro ⟨hmem, rfl⟩
    obtain ⟨before, after, rfl⟩ := List.append_of_mem hmem
    refine lastNamed_eq_some_iff.2 ⟨rfl, before, after, rfl, fun q hq hname => ?_⟩
    rw [List.map_append, List.map_cons] at h
    have hno := (List.nodup_cons.1 (List.nodup_append.1 h).2.1).1
    exact hno (hname ▸ List.mem_map_of_mem hq)

theorem lastNamed_eq_of_perm (hperm : qs.Perm rs) (h : (rs.map (·.name)).Nodup) (n : String) :
    lastNamed qs n = lastNamed rs n := by
  have hqs : (qs.map (·.name)).Nodup := (hperm.map (·.name)).nodup_iff.2 h
  refine Option.ext fun r => ?_
  rw [lastNamed_eq_some_iff_mem hqs, lastNamed_eq_some_iff_mem h, hperm.mem_iff]

/-! ## What is kept -/

/-- A catalogue keeps what came last under each name of a history, in the order of the names. -/
structure Keeps (c : Catalogue) (rs : List Renderer) : Prop where
  ascending : c.renderers.Pairwise (·.name < ·.name)
  last : ∀ n, c.get? n = lastNamed rs n

theorem keeps_empty : empty.Keeps [] where
  ascending := List.Pairwise.nil
  last _ := rfl

namespace Keeps

/-- One renderer more. -/
theorem add (h : c.Keeps rs) (r : Renderer) : (c.add r).Keeps (rs ++ [r]) where
  ascending := Keyed.ascending_insert r h.ascending
  last n := by
    rw [lastNamed_concat, ← h.last n]
    exact Keyed.find?_insert r c.renderers n

/-- A series of renderers more. -/
theorem addAll (h : c.Keeps rs) (qs : List Renderer) : (c.addAll qs).Keeps (rs ++ qs) := by
  induction qs generalizing c rs with
  | nil =>
    rw [List.append_nil]
    exact h
  | cons q qs ih =>
    rw [List.append_cons]
    exact ih (h.add q)

theorem mem_names_iff (h : c.Keeps rs) : n ∈ c.names ↔ (c.get? n).isSome = true := by
  rw [names, List.mem_map, Option.isSome_iff_exists]
  constructor
  · rintro ⟨r, hr, rfl⟩
    exact ⟨r, (Keyed.mem_iff_find? h.ascending).1 hr⟩
  · rintro ⟨r, hr⟩
    refine ⟨r, List.mem_of_find?_eq_some hr, ?_⟩
    rw [h.last] at hr
    exact (lastNamed_eq_some_iff.1 hr).1

theorem names_ascending (h : c.Keeps rs) : c.names.Pairwise (· < ·) :=
  List.pairwise_map.2 h.ascending

/-- The names of a history are all that decides which names are listed. -/
theorem names_eq (hc : c.Keeps rs) (hd : d.Keeps qs)
    (h : ∀ n, n ∈ rs.map (·.name) ↔ n ∈ qs.map (·.name)) : c.names = d.names := by
  refine List.Perm.eq_of_pairwise (fun _ _ _ _ hab hba => absurd hab (String.lt_asymm hba))
    hc.names_ascending hd.names_ascending ?_
  rw [List.perm_ext_iff_of_nodup (hc.names_ascending.imp Std.ne_of_lt)
    (hd.names_ascending.imp Std.ne_of_lt)]
  intro n
  rw [hc.mem_names_iff, hd.mem_names_iff, hc.last, hd.last, isSome_lastNamed_iff,
    isSome_lastNamed_iff, h]

/-- What came last under each name decides the catalogue. -/
theorem eq_of_lastNamed (hc : c.Keeps rs) (hd : d.Keeps qs)
    (h : ∀ n, lastNamed rs n = lastNamed qs n) : c = d := by
  cases c
  cases d
  congr 1
  refine Keyed.eq_of_find?_eq hc.ascending hd.ascending fun n => ?_
  exact (hc.last n).trans ((h n).trans (hd.last n).symm)

end Keeps

/-! ## Catalogues that grow -/

/-- What is told by a catalogue that began with the renderers `first` in it and to which others
were added, one after the other. -/
structure Grown (start : Catalogue) (first rs : List Renderer) : Prop where
  /-- The renderer of a name is the one that came last under it. -/
  found : ∀ n r, (start.addAll rs).get? n = some r ↔ r.name = n ∧
    ∃ before after, first ++ rs = before ++ r :: after ∧ ∀ q ∈ after, q.name ≠ n
  absent : ∀ n, (start.addAll rs).get? n = none ↔ ∀ r ∈ first ++ rs, r.name ≠ n
  /-- The names are in the strict order of their bytes. -/
  ascending : (start.addAll rs).names.Pairwise fun m n => utf8 m < utf8 n
  distinct : (start.addAll rs).names.Nodup
  listed : ∀ n, n ∈ (start.addAll rs).names ↔ ((start.addAll rs).get? n).isSome = true
  /-- Which names are listed depends on the names alone. -/
  names : ∀ qs, (∀ n, n ∈ qs.map (·.name) ↔ n ∈ rs.map (·.name)) →
    (start.addAll qs).names = (start.addAll rs).names
  /-- Renderers with names of their own may come in any order. -/
  anyOrder : ∀ qs, qs.Perm rs → (rs.map (·.name)).Nodup → start.addAll qs = start.addAll rs

theorem Keeps.grown {start : Catalogue} {first : List Renderer} (h : start.Keeps first)
    (rs : List Renderer) : Grown start first rs where
  found n r := by
    rw [(h.addAll rs).last, lastNamed_eq_some_iff]
  absent n := by
    rw [(h.addAll rs).last, lastNamed_eq_none_iff]
  ascending := (h.addAll rs).names_ascending.imp utf8_lt_utf8
  distinct := (h.addAll rs).names_ascending.imp Std.ne_of_lt
  listed _ := (h.addAll rs).mem_names_iff
  names qs hnames := by
    refine (h.addAll qs).names_eq (h.addAll rs) fun n => ?_
    rw [List.map_append, List.map_append, List.mem_append, List.mem_append, hnames]
  anyOrder qs hperm hnodup := by
    refine (h.addAll qs).eq_of_lastNamed (h.addAll rs) fun n => ?_
    rw [lastNamed_append, lastNamed_append, lastNamed_eq_of_perm hperm hnodup]

/-- However a catalogue grows from the empty one, and from the one that comes with the program. -/
theorem grown_addAll (rs : List Renderer) :
    Grown empty [] rs ∧ Grown standard [Go.renderer, Rust.renderer] rs :=
  ⟨keeps_empty.grown rs, ((keeps_empty.add Go.renderer).add Rust.renderer).grown rs⟩

end Catalogue

end UniformIter
