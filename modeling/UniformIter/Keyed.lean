/-!
# Lists in the order of a key

Lists that hold each key at most once and are in ascending order of their keys. Strings are
ordered by their characters, which is also the order of their bytes.

An item that is put into its place is found by its key and changes what is found by no other
(`find?_insert`), and the order is kept (`ascending_insert`). In an ascending list nothing counts
but what is found in it (`eq_of_find?_eq`).
-/

namespace UniformIter.Keyed

variable {α : Type}

/-- Puts an item into its place; it replaces the one with the same key. -/
def insert (key : α → String) (a : α) : List α → List α
  | [] => [a]
  | b :: more =>
    if key a < key b then a :: b :: more
    else if key a = key b then a :: more
    else b :: insert key a more

/-- The item with a key. -/
def find? (key : α → String) (k : String) (l : List α) : Option α := l.find? (key · == k)

/-- A list in the order of a key, with items of one key in the order in which they came. -/
def sorted (key : α → String) (l : List α) : List α := l.mergeSort fun a b => !(key b < key a)

/-! ## What is found -/

variable {key : α → String}

theorem find?_cons (a : α) (l : List α) (k : String) :
    find? key k (a :: l) = if key a = k then some a else find? key k l := by
  unfold find?
  by_cases ha : key a = k
  · rw [if_pos ha, List.find?_cons_of_pos (by simpa using ha)]
  · rw [if_neg ha, List.find?_cons_of_neg (by simpa using ha)]

/-- An item that is put into its place is the one with its key, and changes no other. -/
theorem find?_insert (a : α) (l : List α) (k : String) :
    find? key k (insert key a l) = if key a = k then some a else find? key k l := by
  induction l with
  | nil => exact find?_cons a [] k
  | cons b more ih =>
    rw [insert]
    split
    next => exact find?_cons a (b :: more) k
    next =>
      split
      next heq => rw [find?_cons, find?_cons b, heq]; split <;> rfl
      next hne =>
        rw [find?_cons, find?_cons, ih]
        by_cases hb : key b = k
        · rw [if_pos hb, if_pos hb, if_neg fun ha => hne (ha.trans hb.symm)]
        · rw [if_neg hb, if_neg hb]

theorem mem_insert {a x : α} {l : List α} (h : x ∈ insert key a l) : x = a ∨ x ∈ l := by
  induction l with
  | nil => exact .inl (List.mem_singleton.1 h)
  | cons b more ih =>
    rw [insert] at h
    split at h
    next => exact List.mem_cons.1 h
    next =>
      split at h
      next => exact (List.mem_cons.1 h).imp_right (List.mem_cons_of_mem b)
      next =>
        rcases List.mem_cons.1 h with rfl | h
        · exact .inr List.mem_cons_self
        · exact (ih h).imp_right (List.mem_cons_of_mem b)

/-! ## The order -/

/-- The order of the keys is kept. -/
theorem ascending_insert (a : α) {l : List α} (h : l.Pairwise (key · < key ·)) :
    (insert key a l).Pairwise (key · < key ·) := by
  induction l with
  | nil => exact List.pairwise_singleton _ _
  | cons b more ih =>
    obtain ⟨hb, hmore⟩ := List.pairwise_cons.1 h
    rw [insert]
    split
    next hlt =>
      refine List.pairwise_cons.2 ⟨?_, h⟩
      rw [List.forall_mem_cons]
      exact ⟨hlt, fun x hx => String.lt_trans hlt (hb x hx)⟩
    next hnot =>
      split
      next heq => exact List.pairwise_cons.2 ⟨fun x hx => heq ▸ hb x hx, hmore⟩
      next hne =>
        refine List.pairwise_cons.2 ⟨fun x hx => ?_, ih hmore⟩
        rcases mem_insert hx with rfl | hx
        · exact Std.lt_of_le_of_ne (String.not_lt.1 hnot) (Ne.symm hne)
        · exact hb x hx

/-- In an ascending list the items are those that are found by their keys. -/
theorem mem_iff_find? {a : α} {l : List α} (h : l.Pairwise (key · < key ·)) :
    a ∈ l ↔ find? key (key a) l = some a := by
  constructor
  · intro ha
    obtain ⟨before, after, rfl⟩ := List.append_of_mem ha
    refine List.find?_eq_some_iff_append.2 ⟨beq_self_eq_true _, before, after, rfl, ?_⟩
    intro b hb
    have hlt : key b < key a := (List.pairwise_append.1 h).2.2 b hb a List.mem_cons_self
    simpa using Std.ne_of_lt hlt
  · exact List.mem_of_find?_eq_some

/-- Ascending lists in which the same is found are the same. -/
theorem eq_of_find?_eq {l m : List α} (hl : l.Pairwise (key · < key ·))
    (hm : m.Pairwise (key · < key ·)) (h : ∀ k, find? key k l = find? key k m) : l = m := by
  have hne : ∀ {x y : α}, key x < key y → x ≠ y := fun hlt heq =>
    Std.ne_of_lt hlt (congrArg key heq)
  refine List.Perm.eq_of_pairwise
    (fun _ _ _ _ hab hba => absurd hab (String.lt_asymm hba)) hl hm ?_
  rw [List.perm_ext_iff_of_nodup (hl.imp hne) (hm.imp hne)]
  intro a
  rw [mem_iff_find? hl, mem_iff_find? hm, h]

end UniformIter.Keyed
