import Mathlib.Data.List.Nodup
import UniformIter.Proofs.Naming.Containers
import UniformIter.Registry.Basic

/-!
# Entries of a registry

No name stands twice in a registry, so an entry is known by its iterator type, and by its
container (`Registry.eq_of_iterator`, `Registry.nodup_supported`). An entry without an adapter
shares neither with one that has an adapter (`Registry.iterator_ne_of_unsupported`).
-/

namespace UniformIter.Registry

variable {r : Registry} {d e : Entry}

/-- Entries of one iterator type are one. -/
theorem eq_of_iterator (hd : d ∈ r.entries) (he : e ∈ r.entries)
    (h : d.iterator = e.iterator) : d = e :=
  List.inj_on_of_nodup_map r.nodup hd he h

theorem mem_supported : e ∈ r.supported ↔ e ∈ r.entries ∧ e.supported = true :=
  List.mem_filter

theorem mem_unsupported : e ∈ r.unsupported ↔ e ∈ r.entries ∧ e.supported = false := by
  rw [unsupported, List.mem_filter, Bool.not_eq_true']

/-- No iterator type gets two adapters. -/
theorem nodup_supported (r : Registry) : (r.supported.map (·.iterator)).Nodup :=
  r.nodup.sublist (List.filter_sublist.map _)

/-- An iterator type with an adapter differs from every one without. -/
theorem iterator_ne_of_unsupported (hd : d ∈ r.unsupported) (he : e ∈ r.supported) :
    e.iterator ≠ d.iterator := by
  intro h
  obtain ⟨hd, hno⟩ := mem_unsupported.1 hd
  obtain ⟨he, hyes⟩ := mem_supported.1 he
  rw [eq_of_iterator he hd h, hno] at hyes
  exact absurd hyes (by simp)

/-- The first entry with a name is the only one, so it tells whether the name gets an adapter. -/
theorem isSupported_iff {name : String} :
    r.isSupported name = true ↔ ∃ e ∈ r.supported, e.iterator.text = name := by
  unfold isSupported get?
  cases hfind : r.entries.find? fun e => e.iterator.text == name with
  | none =>
    constructor
    · intro h
      exact absurd h (by simp)
    · rintro ⟨e, he, hname⟩
      have hno := List.find?_eq_none.1 hfind e (mem_supported.1 he).1
      exact absurd (beq_iff_eq.2 hname) hno
  | some d =>
    have hd : d ∈ r.entries := List.mem_of_find?_eq_some hfind
    have hdname : d.iterator.text = name := by simpa using List.find?_some hfind
    constructor
    · intro h
      exact ⟨d, mem_supported.2 ⟨hd, h⟩, hdname⟩
    · rintro ⟨e, he, hname⟩
      obtain ⟨he, hyes⟩ := mem_supported.1 he
      have hsame : d = e :=
        eq_of_iterator hd he (IteratorName.text_injective (hdname.trans hname.symm))
      rw [hsame]
      exact hyes

end UniformIter.Registry
