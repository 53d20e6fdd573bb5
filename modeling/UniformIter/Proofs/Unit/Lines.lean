import UniformIter.Proofs.Unit.Scan

/-!
# Reading lines one by one

Some of what a unit says is said in the front of a line, whatever stands behind it: a name that
is declared, between a keyword and an opening bracket. `Finds` keeps account of what a reader of
single lines finds in the lines of a unit, part by part.
-/

namespace UniformIter.Scan

/-! ## A name at the front -/

/-- The name at the front of a line, between two texts. -/
def nameBetween? (before after : String) (l : List Char) : Option String :=
  if before.toList.isPrefixOf l then
    let r := l.drop before.toList.length
    let word := r.takeWhile continuesIdentifier
    if formIdentifier word && after.toList.isPrefixOf (r.dropWhile continuesIdentifier) then
      some (String.ofList word)
    else none
  else none

/-- A name is read as it was written, if no name goes on into the text behind it. -/
theorem nameBetween?_written (before after : String) {n : String} (hn : isIdentifier n = true)
    (ha : after.toList.head?.any (fun c => !continuesIdentifier c) = true) (rest : List Char) :
    nameBetween? before after (before.toList ++ (n.toList ++ (after.toList ++ rest))) = some n := by
  have hhead : ∀ c ∈ (after.toList ++ rest).head?, continuesIdentifier c = false := by
    cases hs : after.toList with
    | nil => rw [hs] at ha; exact absurd ha (by simp)
    | cons c r =>
      rw [hs] at ha
      simpa using ha
  have hid : formIdentifier n.toList = true := hn
  obtain ⟨htake, hdrop⟩ := takeWhile_run
    (List.all_eq_true.1 (all_continues_of_formIdentifier hid)) hhead
  have hafter : after.toList.isPrefixOf (after.toList ++ rest) = true :=
    List.isPrefixOf_iff_prefix.2 (List.prefix_append _ _)
  unfold nameBetween?
  rw [if_pos (List.isPrefixOf_iff_prefix.2 (List.prefix_append _ _)), List.drop_left]
  dsimp only
  rw [htake, hdrop, hid, hafter, Bool.true_and, if_pos rfl, String.ofList_toList]

/-! ## What is found in lines -/

/-- What a reader of single lines finds. -/
def Finds {α : Type} (read : List Char → Option α) (ls : List (List Char)) (found : List α) :
    Prop :=
  ls.filterMap read = found

namespace Finds

variable {α : Type} {read : List Char → Option α} {l : List Char} {ls ms : List (List Char)}
  {f g : List α}

theorem nil : Finds read [] [] := rfl

/-- A line in which nothing is found. -/
theorem pass (hl : read l = none) (h : Finds read ls f) : Finds read (l :: ls) f := by
  unfold Finds at h ⊢
  rw [List.filterMap_cons_none hl, h]

/-- A line that is the same in every unit. -/
theorem text {cs : List Char} (hl : read cs = none) (h : Finds read ls f) :
    Finds read ((String.ofList cs).toList :: ls) f := by
  rw [String.toList_ofList]
  exact pass hl h

/-- A line whose front is the same in every unit, and tells that nothing is found. -/
theorem front {cs rest : List Char} (hl : read (cs ++ rest) = none) (h : Finds read ls f) :
    Finds read (((String.ofList cs).toList ++ rest) :: ls) f := by
  rw [String.toList_ofList]
  exact pass hl h

/-- A line in which something is found. -/
theorem take {a : α} (hl : read l = some a) (h : Finds read ls f) :
    Finds read (l :: ls) (a :: f) := by
  unfold Finds at h ⊢
  rw [List.filterMap_cons_some hl, h]

theorem append (hl : Finds read ls f) (hm : Finds read ms g) :
    Finds read (ls ++ ms) (f ++ g) := by
  unfold Finds at hl hm ⊢
  rw [List.filterMap_append, hl, hm]

/-- What is found in the lines for every entry, one entry after the other. -/
theorem flatMap {es : List Entry} {lines : Entry → List String} {found : Entry → List α}
    (h : ∀ e, Finds read ((lines e).map String.toList) (found e)) :
    Finds read ((es.flatMap lines).map String.toList) (es.flatMap found) := by
  induction es with
  | nil => exact nil
  | cons e es ih =>
    rw [List.flatMap_cons, List.flatMap_cons, List.map_append]
    exact (h e).append ih

end Finds

end UniformIter.Scan
