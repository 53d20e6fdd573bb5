import UniformIter.Proofs.Iteration.Equality

/-!
# Walks to the end

The loop over an adapter goes on to the following one until an adapter equals its own end, which is
made anew at every step (`Adapter.Loop`). Nothing bounds it but the property: it is over exactly if
the cursor comes to the owner's end, after as many visits as the cursor has steps to go
(`Adapter.loop_iff`), and a walk with a limit on its visits is the beginning of it
(`Adapter.walk_of_loop`). `Dispatcher.loop_of_begin` says so of the adapters that a dispatcher
answers with, and that a list is visited element by element.
-/

namespace UniformIter

namespace PropertyKind

/-- So many steps lead from a cursor to one that is the same as the owner's end, and no fewer. -/
structure EndsAfter (K : PropertyKind) (o : K.Owner) (c : K.Cursor) (n : Nat) : Prop where
  there : K.sameCursor (K.next^[n] c) (K.stop o) = true
  before : ∀ m, m < n → K.sameCursor (K.next^[m] c) (K.stop o) = false

variable {K : PropertyKind} {o : K.Owner} {c : K.Cursor} {n : Nat}

theorem endsAfter_zero_iff : K.EndsAfter o c 0 ↔ K.sameCursor c (K.stop o) = true := by
  constructor
  · intro h
    exact h.there
  · intro h
    exact ⟨h, fun m hm => absurd hm (Nat.not_lt_zero m)⟩

theorem endsAfter_succ_iff : K.EndsAfter o c (n + 1) ↔
    K.sameCursor c (K.stop o) = false ∧ K.EndsAfter o (K.next c) n := by
  constructor
  · intro h
    exact ⟨h.before 0 (Nat.succ_pos n), h.there, fun m hm => h.before (m + 1) (by omega)⟩
  · rintro ⟨hfirst, hrest⟩
    refine ⟨hrest.there, ?_⟩
    intro m hm
    cases m with
    | zero => exact hfirst
    | succ m => exact hrest.before m (by omega)

/-- Before the end no cursor comes twice: from there on the end would be as far as it was. -/
theorem EndsAfter.ne_of_lt (h : K.EndsAfter o c n) {i j : Nat} (hij : i < j) (hj : j < n) :
    K.next^[i] c ≠ K.next^[j] c := by
  intro heq
  obtain ⟨r, rfl⟩ : ∃ r, n = r + j := ⟨n - j, by omega⟩
  have hsooner : K.next^[r + i] c = K.next^[r + j] c := by
    rw [Function.iterate_add_apply, Function.iterate_add_apply, heq]
  have hthere := h.there
  rw [← hsooner, h.before (r + i) (by omega)] at hthere
  cases hthere

theorem EndsAfter.unique {m : Nat} (hm : K.EndsAfter o c m) (hn : K.EndsAfter o c n) : m = n := by
  rcases Nat.lt_trichotomy m n with hlt | heq | hlt
  · have hno := hn.before m hlt
    rw [hm.there] at hno
    cases hno
  · exact heq
  · have hno := hm.before n hlt
    rw [hn.there] at hno
    cases hno

/-! ## Lists -/

/-- The cursor of a list goes on by one index at a time. -/
theorem iterate_next_listCursor (elements : List Element) {i : Nat} (hi : i ≤ elements.length) :
    ListCursor.next^[i] ⟨elements, 0⟩ = ⟨elements, i⟩ := by
  induction i with
  | zero => rfl
  | succ i ih =>
    rw [Function.iterate_succ_apply', ih (by omega), ListCursor.next]
    dsimp only
    rw [Nat.min_eq_left hi]

section

variable {iteratorType typeName : String} (h : K = listProperty iteratorType typeName)
  (s : Shared (List Element))

/-- The end of a list is as many steps away as the list has elements. -/
theorem endsAfter_listOwner :
    K.EndsAfter (listOwner h s) (K.first (listOwner h s)) s.value.length := by
  subst h
  constructor
  · show (ListCursor.next^[s.value.length] ⟨s.value, 0⟩ == ⟨s.value, s.value.length⟩) = true
    rw [iterate_next_listCursor _ (Nat.le_refl _), beq_self_eq_true]
  · intro m hm
    show (ListCursor.next^[m] ⟨s.value, 0⟩ == ⟨s.value, s.value.length⟩) = false
    rw [iterate_next_listCursor _ (Nat.le_of_lt hm), beq_eq_false_iff_ne]
    intro heq
    have hindex : m = s.value.length := congrArg ListCursor.index heq
    omega

/-- So many steps behind the first element the cursor shows the element with this index. -/
theorem shown_listOwner {i : Nat} (hi : i < s.value.length) :
    K.hasAny (K.next^[i] (K.first (listOwner h s))) = true ∧
    K.iri? (K.next^[i] (K.first (listOwner h s))) = s.value[i].iri? ∧
    K.object? (K.next^[i] (K.first (listOwner h s))) = s.value[i].object? := by
  subst h
  show decide ((ListCursor.next^[i] ⟨s.value, 0⟩).index <
      (ListCursor.next^[i] ⟨s.value, 0⟩).elements.length) = true ∧
    (ListCursor.next^[i] ⟨s.value, 0⟩).current?.bind Element.iri? = _ ∧
    (ListCursor.next^[i] ⟨s.value, 0⟩).current?.bind Element.object? = _
  rw [iterate_next_listCursor _ (Nat.le_of_lt hi)]
  have hcurrent : (⟨s.value, i⟩ : ListCursor).current? = some s.value[i] :=
    List.getElem?_eq_getElem hi
  rw [hcurrent]
  exact ⟨decide_eq_true hi, rfl, rfl⟩

end

end PropertyKind

variable {κ : Type} {kinds : κ → PropertyKind}

namespace Adapter

/-- The loop over an adapter: it is over where an adapter equals its own end, and otherwise visits
the adapter and goes on at the following one. -/
inductive Loop [DecidableEq κ] :
    Adapter kinds → List (Adapter kinds) → Adapter kinds → Prop where
  | done {a : Adapter kinds} (h : a.equals a.stop = true) : Loop a [] a
  | visit {a last : Adapter kinds} {visited : List (Adapter kinds)}
    (h : a.equals a.stop = false) (rest : Loop a.next visited last) : Loop a (a :: visited) last

variable [DecidableEq κ] {a last : Adapter kinds} {visited : List (Adapter kinds)}

theorem Loop.last_equals_stop (h : Loop a visited last) : last.equals last.stop = true := by
  induction h with
  | done h => exact h
  | visit _ _ ih => exact ih

/-- With a limit a walk makes the first visits of the loop, and is over if these are all. -/
theorem walk_of_loop (h : Loop a visited last) (limit : Nat) :
    a.walk limit = ⟨visited.take limit, decide (visited.length ≤ limit)⟩ := by
  induction h generalizing limit with
  | done h =>
    cases limit with
    | zero => simp [walk, h]
    | succ limit => simp [walk, h]
  | visit h _ ih =>
    cases limit with
    | zero => simp [walk, h]
    | succ limit => simp [walk, h, ih limit]

variable {k : κ} {o : (kinds k).Owner}

/-- The loop visits the cursors on the way to the end, one after the other, and is over there. -/
theorem loop_iff {c : (kinds k).Cursor} :
    Loop ⟨k, o, c⟩ visited last ↔ ∃ n, (kinds k).EndsAfter o c n ∧
      visited = (List.range n).map (fun i => ⟨k, o, (kinds k).next^[i] c⟩) ∧
      last = ⟨k, o, (kinds k).next^[n] c⟩ := by
  constructor
  · intro h
    generalize ha : (⟨k, o, c⟩ : Adapter kinds) = a at h
    induction h generalizing c with
    | done h =>
      subst ha
      rw [equals_stop] at h
      exact ⟨0, PropertyKind.endsAfter_zero_iff.mpr h, rfl, rfl⟩
    | visit h _ ih =>
      subst ha
      rw [equals_stop] at h
      obtain ⟨n, hn, rfl, rfl⟩ := ih rfl
      refine ⟨n + 1, PropertyKind.endsAfter_succ_iff.mpr ⟨h, hn⟩, ?_, rfl⟩
      rw [List.range_succ_eq_map, List.map_cons, List.map_map]
      rfl
  · rintro ⟨n, hn, rfl, rfl⟩
    induction n generalizing c with
    | zero =>
      have hends := PropertyKind.endsAfter_zero_iff.mp hn
      rw [← equals_stop] at hends
      exact .done hends
    | succ n ih =>
      obtain ⟨hgoes, hrest⟩ := PropertyKind.endsAfter_succ_iff.mp hn
      rw [← equals_stop] at hgoes
      rw [List.range_succ_eq_map, List.map_cons, List.map_map]
      exact .visit hgoes (ih hrest)

/-- The loop over an adapter visits so many cursors of an owner, from the first one on, one after
the other and none of them twice, and is over behind them. -/
structure Covers (a : Adapter kinds) (k : κ) (o : (kinds k).Owner) (n : Nat)
    (visited : List (Adapter kinds)) (last : Adapter kinds) : Prop where
  exactly : ∀ vs b, Loop a vs b ↔ vs = visited ∧ b = last
  length : visited.length = n
  visit : ∀ (i : Nat) (hi : i < visited.length),
    visited[i].StandsAt k o ((kinds k).next^[i] ((kinds k).first o))
  finish : last.StandsAt k o ((kinds k).next^[n] ((kinds k).first o))
  ended : last.equals last.stop = true
  once : (kinds k).TellsCursors → visited.Pairwise fun b c => b.equals c = false
  limited : ∀ limit, a.walk limit = ⟨visited.take limit, decide (n ≤ limit)⟩

/-- Adapters of one owner at cursors that differ are not equal, if the kind tells cursors apart. -/
theorem equals_eq_false_of_cursor (hkind : (kinds k).TellsCursors) {c d : (kinds k).Cursor}
    (h : c ≠ d) : (⟨k, o, c⟩ : Adapter kinds).equals ⟨k, o, d⟩ = false := by
  rw [equals_of_owner, Bool.eq_false_iff]
  intro hsame
  exact h ((hkind c d).mp hsame)

/-- Where the end is so many steps away, the loop from the first element covers what lies before
it. -/
theorem covers_of_endsAfter {n : Nat} (h : (kinds k).EndsAfter o ((kinds k).first o) n) :
    (first k o : Adapter kinds).Covers k o n
      ((List.range n).map fun i => ⟨k, o, (kinds k).next^[i] ((kinds k).first o)⟩)
      ⟨k, o, (kinds k).next^[n] ((kinds k).first o)⟩ := by
  have hloop : Loop (first k o : Adapter kinds) _ _ := loop_iff.mpr ⟨n, h, rfl, rfl⟩
  have hlength : ((List.range n).map fun i =>
      (⟨k, o, (kinds k).next^[i] ((kinds k).first o)⟩ : Adapter kinds)).length = n := by
    rw [List.length_map, List.length_range]
  constructor
  case exactly =>
    intro vs b
    constructor
    · intro hrun
      obtain ⟨m, hm, rfl, rfl⟩ := loop_iff.mp hrun
      obtain rfl := hm.unique h
      exact ⟨rfl, rfl⟩
    · rintro ⟨rfl, rfl⟩
      exact hloop
  case length => exact hlength
  case visit =>
    intro i hi
    apply StandsAt.of_place
    rw [List.getElem_map, List.getElem_range]
  case finish => exact StandsAt.of_place rfl
  case ended => exact hloop.last_equals_stop
  case once =>
    intro hkind
    rw [List.pairwise_map]
    apply List.pairwise_lt_range.imp_of_mem
    intro i j _ hj hij
    exact equals_eq_false_of_cursor hkind (h.ne_of_lt hij (List.mem_range.mp hj))
  case limited =>
    intro limit
    rw [walk_of_loop hloop, hlength]

end Adapter

open Adapter

/-- The loop over what a dispatcher answers with. If the owner's end is `n` steps away from its
first cursor, the loop makes `n` visits, whose adapters stand at these cursors in order, and is over
at an adapter that equals its own end; if the loop is ever over, the end is as far away as it made
visits. The loop over a list visits each element once, in the order of the list, and shows it. -/
theorem Dispatcher.loop_of_begin [DecidableEq κ] {d : Dispatcher kinds} {k : κ}
    {o : (kinds k).Owner} {a : Adapter kinds} (h : d.begin (some (.property k o)) = .ok a) :
    (∀ n, (kinds k).EndsAfter o ((kinds k).first o) n →
      ∃ visited last, a.Covers k o n visited last) ∧
    (∀ visited last, Loop a visited last →
      (kinds k).EndsAfter o ((kinds k).first o) visited.length) ∧
    ∀ (iteratorType typeName : String) (hk : kinds k = listProperty iteratorType typeName)
      (s : Shared (List Element)), o = PropertyKind.listOwner hk s →
      ∃ visited last, a.Covers k o s.value.length visited last ∧
        visited.Pairwise (fun b c => b.equals c = false) ∧
        visited.map (fun b => (b.hasAny, b.iri?, b.object?)) =
          s.value.map fun e => (true, e.iri?, e.object?) := by
  obtain ⟨j, p, hv, -, rfl⟩ := begin_some_eq_ok_iff.mp h
  obtain ⟨rfl, hp⟩ := Dynamic.property.inj hv
  obtain rfl := eq_of_heq hp
  refine ⟨?_, ?_, ?_⟩
  · intro n hn
    exact ⟨_, _, covers_of_endsAfter hn⟩
  · intro visited last hloop
    obtain ⟨n, hn, rfl, -⟩ := loop_iff.mp hloop
    rw [List.length_map, List.length_range]
    exact hn
  · rintro iteratorType typeName hk s rfl
    have hends : (kinds k).EndsAfter _ ((kinds k).first _) s.value.length :=
      PropertyKind.endsAfter_listOwner hk s
    have hcovers := covers_of_endsAfter hends
    refine ⟨_, _, hcovers, ?_, ?_⟩
    · apply hcovers.once
      rw [hk]
      exact tellsCursors_listProperty _ _
    · apply List.ext_getElem
      · simp
      · intro i hi _
        have hlt : i < s.value.length := by simpa using hi
        obtain ⟨hany, hiri, hobject⟩ := PropertyKind.shown_listOwner hk s hlt
        simp only [List.getElem_map, List.getElem_range, Prod.mk.injEq]
        exact ⟨hany, hiri, hobject⟩

/-- A reference and an object behind it are visited in this order, and nothing else is. -/
theorem Dispatcher.loop_of_begin_pair :
    ∃ (d : Dispatcher listOrNumber) (a : Adapter listOrNumber)
      (visited : List (Adapter listOrNumber)) (last : Adapter listOrNumber),
      d.begin (some (.property true
        (Shared.mk 4 [.iri "https://a/", .object (.boolean true)]))) = .ok a ∧
      Loop a visited last ∧ last.equals last.stop = true ∧
      visited.map (fun b => (b.hasAny, b.iri?, b.object?)) =
        [(true, some "https://a/", none), (true, none, some (.boolean true))] := by
  have hname : nameFault? "BarIterator" = none := by decide
  let d : Dispatcher listOrNumber := ⟨true, [⟨⟨⟨"BarIterator", hname⟩, true⟩, true⟩]⟩
  let s : Shared (List Element) := ⟨4, [.iri "https://a/", .object (.boolean true)]⟩
  have hbegin : d.begin (some (.property true s)) = .ok (first true s) := rfl
  obtain ⟨-, -, hlist⟩ := loop_of_begin hbegin
  obtain ⟨visited, last, hcovers, -, hshown⟩ := hlist _ _ rfl s rfl
  exact ⟨d, _, visited, last, hbegin, (hcovers.exactly _ _).mpr ⟨rfl, rfl⟩, hcovers.ended, hshown⟩

end UniformIter
