import UniformIter.Proofs.Output.Delivery

/-!
# Sinks that work

A sink works if it takes something of every offer, though it may interrupt the writer before, and
if it can be flushed. Such a sink takes every text as a whole (`Sink.Working.takes_all`), and the
run that writes the text is complete (`Sink.Working.writeOutput`).
-/

namespace UniformIter

/-- A transfer in which the writer may go on after every answer fails nowhere. -/
theorem ending_eq_complete {replies : List Reply} {bytes : List UInt8}
    (h : ∀ r ∈ replies, r.GoesOn) (hended : (transfer replies bytes).ending ≠ .unfinished) :
    (transfer replies bytes).ending = .complete := by
  induction replies, bytes using transfer_induction with
  | done replies => rw [transfer_nil]
  | unanswered bytes hne =>
    rw [transfer_unanswered hne] at hended
    exact absurd rfl hended
  | goesOn r replies bytes hne hr ih =>
    rw [transfer_of_goesOn hne hr] at hended ⊢
    apply ih
    · intro r' hr'
      exact h r' (List.mem_cons_of_mem _ hr')
    · exact hended
  | fault r replies bytes f hne hf hno => exact absurd (h r List.mem_cons_self f hf) hno

namespace Sink

/-- A sink that takes something of every offer, interruptions apart, and can be flushed. -/
structure Working (s : Sink) : Prop where
  replies : ∀ r ∈ s.replies, r.GoesOn
  after : ∃ count, s.after = .takes (count + 1)
  flushFault : s.flushFault = none

namespace Working

variable {s : Sink}

theorem answers (h : s.Working) (count : Nat) : ∀ r ∈ s.answers count, r.GoesOn := by
  intro r hr
  rcases List.mem_append.mp hr with hr | hr
  · exact h.replies r hr
  · obtain ⟨n, hafter⟩ := h.after
    rw [List.eq_of_mem_replicate hr, hafter]
    intro f hf
    cases hf

theorem ending (h : s.Working) (bytes : List UInt8) :
    (transfer (s.answers bytes.length) bytes).ending = .complete := by
  apply ending_eq_complete (h.answers _)
  apply ending_ne_unfinished _ (Nat.le_refl _)
  obtain ⟨n, hafter⟩ := h.after
  rw [hafter]
  intro hno
  cases hno

/-- A sink that works takes everything, and nothing fails. -/
theorem takes_all (h : s.Working) (bytes : List UInt8) :
    (s.deliver bytes).accepted = bytes ∧ (s.deliver bytes).fault = none := by
  have hends : s.Ends bytes := by
    refine ⟨s.replies.length + bytes.length, ?_⟩
    rw [← answers_eq, h.ending bytes]
    intro hno
    cases hno
  have hfault : (s.deliver bytes).fault = none := by
    unfold deliver
    dsimp only
    rw [h.ending bytes]
    exact h.flushFault
  exact ⟨((Sink.delivered hends).fault_eq_none_iff.mp hfault).1, hfault⟩

/-- What a job gives is written as a whole. -/
theorem writeOutput (h : s.Working) (text : String) :
    (writeOutput (.ok text) s).1 = .ok .completed ∧
      (writeOutput (.ok text) s).2.accepted = utf8 text := by
  obtain ⟨hall, hfault⟩ := h.takes_all (utf8 text)
  exact ⟨RunOutcome.ofDelivery_eq_completed_iff.mpr hfault, hall⟩

end Working

end Sink

end UniformIter
