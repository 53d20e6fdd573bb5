/-!
# Runs of characters

Readers take a text apart by runs of characters of one kind. Every text begins with such a run
(`exists_run`), and a run that ends where its kind does is what `takeWhile` finds
(`takeWhile_run`).
-/

namespace UniformIter

variable {p : Char → Bool} {run rest : List Char}

/-- A text is its first run and what stands behind that. -/
theorem exists_run (p : Char → Bool) (s : List Char) :
    ∃ run rest, s = run ++ rest ∧ (∀ c ∈ run, p c = true) ∧ ∀ c ∈ rest.head?, p c = false := by
  induction s with
  | nil => exact ⟨[], [], rfl, by simp, by simp⟩
  | cons c s ih =>
    cases hc : p c with
    | false => exact ⟨[], c :: s, rfl, by simp, by simpa using hc⟩
    | true =>
      obtain ⟨run, rest, rfl, hrun, hrest⟩ := ih
      exact ⟨c :: run, rest, rfl, List.forall_mem_cons.2 ⟨hc, hrun⟩, hrest⟩

/-- A run is taken to its end. -/
theorem takeWhile_run (hrun : ∀ c ∈ run, p c = true) (hrest : ∀ c ∈ rest.head?, p c = false) :
    (run ++ rest).takeWhile p = run ∧ (run ++ rest).dropWhile p = rest := by
  rw [List.takeWhile_append_of_pos hrun, List.dropWhile_append_of_pos hrun]
  cases rest with
  | nil => simp
  | cons c r =>
    have hc : p c = false := hrest c rfl
    simp [hc]

/-- A run of one character. -/
theorem eq_replicate_of_run {c : Char} (h : ∀ d ∈ run, d = c) :
    run = List.replicate run.length c :=
  List.eq_replicate_of_mem h

theorem forall_mem_replicate {q : Char → Prop} {c : Char} (h : q c) (n : Nat) :
    ∀ d ∈ List.replicate n c, q d := by
  intro d hd
  rw [List.eq_of_mem_replicate hd]
  exact h

/-- A run of a character that stands for itself stands for itself. -/
theorem flatMap_replicate_self {g : Char → List Char} {c : Char} (h : g c = [c]) (n : Nat) :
    (List.replicate n c).flatMap g = List.replicate n c := by
  induction n with
  | zero => rfl
  | succ n ih => rw [List.replicate_succ, List.flatMap_cons, ih, h, List.singleton_append]

end UniformIter
