import Mathlib.Data.Stream.Init
import UniformIter.Output.Sink

/-!
# What a sink takes

A writer keeps its own books: what it offers next is what it believes to be left. Here are those
of the sink, made from its answers alone: what it holds after some offers (`held`) and the
failures it answered with (`faultsIn`). `Transfer.Sound` says that both agree: every offer is what
the sink does not hold yet, the writer goes on after nothing but an interruption, and it ends when
the sink holds everything or with the first other failure. One step of the loop keeps this
(`Transfer.Sound.behind`), and so does a whole transfer (`transfer_sound`).

A sink that is interrupted for ever never ends a transfer. For every other one, the answers that
`Sink.answers` foresees are enough (`Sink.Ends.answers`).
-/

namespace UniformIter

/-! ## The side of the sink -/

namespace Reply

/-- The bytes that an answer takes of an offer. -/
def taken : Reply → List UInt8 → List UInt8
  | .takes n, offered => offered.take n
  | .fails _, _ => []

/-- The bytes that an answer leaves of an offer. -/
def left : Reply → List UInt8 → List UInt8
  | .takes n, offered => offered.drop n
  | .fails _, offered => offered

/-- The failure that an answer is to the writer. To take nothing is one. -/
def fault? : Reply → Option IoFault
  | .takes 0 => some .nothingTaken
  | .takes (_ + 1) => none
  | .fails f => some f

/-- The writer tries again after an interruption only. -/
def GoesOn (r : Reply) : Prop := ∀ f, r.fault? = some f → f = .interrupted

theorem taken_append_left (r : Reply) (offered : List UInt8) :
    r.taken offered ++ r.left offered = offered := by
  cases r with
  | takes n => exact List.take_append_drop n offered
  | fails f => rfl

/-- An answer that is a failure takes nothing. -/
theorem taken_of_fault {r : Reply} {f : IoFault} (h : r.fault? = some f)
    (offered : List UInt8) : r.taken offered = [] := by
  cases r with
  | takes n =>
    cases n with
    | zero => rfl
    | succ n => cases h
  | fails g => rfl

theorem length_left_le (r : Reply) (offered : List UInt8) :
    (r.left offered).length ≤ offered.length := by
  cases r with
  | takes n =>
    rw [left, List.length_drop]
    exact Nat.sub_le _ _
  | fails f => exact Nat.le_refl _

/-- The writer goes on with less, unless it was interrupted. -/
theorem length_left_lt {r : Reply} {offered : List UInt8} (hr : r.GoesOn)
    (hno : r ≠ .fails .interrupted) (h : offered ≠ []) :
    (r.left offered).length < offered.length := by
  cases r with
  | takes n =>
    cases n with
    | zero => exact absurd (hr _ rfl) (by decide)
    | succ n =>
      have hlength := List.length_pos_iff.2 h
      rw [left, List.length_drop]
      omega
  | fails f => exact absurd (congrArg fails (hr f rfl)) hno

theorem goesOn_or_fault (r : Reply) :
    r.GoesOn ∨ ∃ f, r.fault? = some f ∧ f ≠ .interrupted := by
  unfold GoesOn
  cases r.fault? with
  | none => exact .inl fun _ h => nomatch h
  | some f =>
    by_cases hf : f = .interrupted
    · exact .inl fun g hg => (Option.some.inj hg) ▸ hf
    · exact .inr ⟨f, rfl, hf⟩

end Reply

/-- The bytes that a call offers. -/
def SinkCall.offered? : SinkCall → Option (List UInt8)
  | .write offered => some offered
  | .flush => none

/-- The offers among some calls, in order. -/
def offersIn (calls : List SinkCall) : List (List UInt8) := calls.filterMap SinkCall.offered?

/-- What a sink with these answers holds after some offers. -/
def held : Stream' Reply → List (List UInt8) → List UInt8
  | _, [] => []
  | answers, offered :: more => answers.head.taken offered ++ held answers.tail more

/-- The failures among the first answers of a sink. -/
def faultsIn (answers : Stream' Reply) (count : Nat) : List IoFault :=
  (answers.take count).filterMap Reply.fault?

theorem faultsIn_succ (answers : Stream' Reply) (count : Nat) :
    faultsIn answers (count + 1) = answers.head.fault?.toList ++ faultsIn answers.tail count := by
  unfold faultsIn
  rw [Stream'.take_succ]
  cases h : answers.head.fault? with
  | none =>
    rw [List.filterMap_cons_none h]
    rfl
  | some f =>
    rw [List.filterMap_cons_some h]
    rfl

/-- The failure that ends a series of offers. -/
def Ending.fault? : Ending → Option IoFault
  | .failed f => some f
  | .complete | .unfinished => none

/-! ## The loop, answer by answer -/

section

variable {r : Reply} {replies : List Reply} {bytes : List UInt8} {f : IoFault}

@[simp] theorem transfer_nil (replies : List Reply) :
    transfer replies [] = ⟨[], [], .complete⟩ := by
  cases replies <;> rfl

theorem transfer_unanswered (h : bytes ≠ []) : transfer [] bytes = ⟨[], [], .unfinished⟩ := by
  obtain ⟨b, bs, rfl⟩ := List.exists_cons_of_ne_nil h
  rfl

theorem transfer_of_goesOn (h : bytes ≠ []) (hr : r.GoesOn) :
    transfer (r :: replies) bytes =
      (transfer replies (r.left bytes)).behind (.write bytes) (r.taken bytes) := by
  obtain ⟨b, bs, rfl⟩ := List.exists_cons_of_ne_nil h
  cases r with
  | takes n =>
    cases n with
    | zero => exact absurd (hr _ rfl) (by decide)
    | succ n => rfl
  | fails f =>
    obtain rfl := hr f rfl
    rfl

theorem transfer_of_fault (h : bytes ≠ []) (hf : r.fault? = some f) (hno : f ≠ .interrupted) :
    transfer (r :: replies) bytes = ⟨[.write bytes], [], .failed f⟩ := by
  obtain ⟨b, bs, rfl⟩ := List.exists_cons_of_ne_nil h
  cases r with
  | takes n =>
    cases n with
    | zero =>
      cases hf
      rfl
    | succ n => cases hf
  | fails g =>
    cases hf
    rw [transfer]
    exact hno

end

/-- Induction along the loop: all bytes are taken, there is no answer, the writer goes on with
what an answer leaves, or an answer is the last one. -/
theorem transfer_induction {P : List Reply → List UInt8 → Prop} (done : ∀ replies, P replies [])
    (unanswered : ∀ bytes, bytes ≠ [] → P [] bytes)
    (goesOn : ∀ r replies bytes, bytes ≠ [] → r.GoesOn → P replies (r.left bytes) →
      P (r :: replies) bytes)
    (fault : ∀ r replies bytes f, bytes ≠ [] → r.fault? = some f → f ≠ .interrupted →
      P (r :: replies) bytes)
    (replies : List Reply) (bytes : List UInt8) : P replies bytes := by
  induction replies generalizing bytes with
  | nil =>
    by_cases h : bytes = []
    · exact h ▸ done []
    · exact unanswered bytes h
  | cons r replies ih =>
    by_cases h : bytes = []
    · exact h ▸ done (r :: replies)
    rcases r.goesOn_or_fault with hr | ⟨f, hf, hno⟩
    · exact goesOn r replies bytes h hr (ih _)
    · exact fault r replies bytes f h hf hno

/-! ## Both books agree -/

/-- What a writer tells of a transfer is what a sink with these answers has seen of it. -/
structure Transfer.Sound (answers : Stream' Reply) (bytes : List UInt8) (t : Transfer) :
    Prop where
  calls : t.calls = (offersIn t.calls).map .write
  /-- Every offer is what the sink does not hold yet. -/
  offers : ∀ before offered after, offersIn t.calls = before ++ offered :: after →
    held answers before ++ offered = bytes
  accepted : t.accepted = held answers (offersIn t.calls)
  complete : t.ending = .complete → t.accepted = bytes
  failed : ∀ f, t.ending = .failed f → t.accepted ≠ bytes
  /-- The failures are interruptions and the one that ends the transfer. -/
  faults : ∃ retried, (∀ f ∈ retried, f = .interrupted) ∧
    faultsIn answers (offersIn t.calls).length = retried ++ t.ending.fault?.toList

namespace Transfer.Sound

variable {answers : Stream' Reply} {bytes : List UInt8}

/-- Before the first offer there is nothing to tell. -/
theorem start {ending : Ending} (hfault : ending.fault? = none)
    (hcomplete : ending = .complete → bytes = []) : Sound answers bytes ⟨[], [], ending⟩ where
  calls := rfl
  offers before offered after h := absurd h (by simp [offersIn])
  accepted := rfl
  complete h := (hcomplete h).symm
  failed f h := by
    subst h
    cases hfault
  faults := ⟨[], fun _ h => absurd h List.not_mem_nil, by rw [hfault]; rfl⟩

/-- A failure that is no interruption ends a transfer at once. -/
theorem refused {f : IoFault} (h : bytes ≠ []) (hf : answers.head.fault? = some f) :
    Sound answers bytes ⟨[.write bytes], [], .failed f⟩ where
  calls := rfl
  offers before offered after hsplit := by
    have hsplit : [bytes] = before ++ offered :: after := hsplit
    obtain ⟨rfl, rfl, rfl⟩ : before = [] ∧ offered = bytes ∧ after = [] := by
      cases before with
      | nil => simpa [eq_comm] using hsplit
      | cons b before => simp at hsplit
    rfl
  accepted := by
    show [] = answers.head.taken bytes ++ []
    rw [Reply.taken_of_fault hf, List.append_nil]
  complete h := by cases h
  failed _ _ := h.symm
  faults := ⟨[], fun _ h => absurd h List.not_mem_nil, by
    show [answers.head].filterMap Reply.fault? = [f]
    rw [List.filterMap_cons_some hf, List.filterMap_nil]⟩

/-- One step of the loop: after an answer that lets the writer go on, what holds of the rest holds
of the whole. -/
theorem behind {t : Transfer} (hr : answers.head.GoesOn)
    (ht : Sound answers.tail (answers.head.left bytes) t) :
    Sound answers bytes (t.behind (.write bytes) (answers.head.taken bytes)) where
  calls := congrArg (SinkCall.write bytes :: ·) ht.calls
  offers before offered after hsplit := by
    have hsplit : bytes :: offersIn t.calls = before ++ offered :: after := hsplit
    cases before with
    | nil => exact (List.cons.inj hsplit).1.symm
    | cons first before =>
      -- The first offer was everything, so what its answer took stands before a later one.
      obtain ⟨rfl, hrest⟩ := List.cons.inj hsplit
      rw [held, List.append_assoc, ht.offers before offered after hrest,
        Reply.taken_append_left]
  accepted := congrArg (answers.head.taken bytes ++ ·) ht.accepted
  complete h := by
    show answers.head.taken bytes ++ t.accepted = bytes
    rw [ht.complete h, Reply.taken_append_left]
  failed f h hall := by
    have hall : answers.head.taken bytes ++ t.accepted = bytes := hall
    exact ht.failed f h
      (List.append_cancel_left (hall.trans (answers.head.taken_append_left bytes).symm))
  faults := by
    obtain ⟨retried, hretried, hfaults⟩ := ht.faults
    refine ⟨answers.head.fault?.toList ++ retried, ?_, ?_⟩
    · intro f hf
      rcases List.mem_append.1 hf with hf | hf
      · exact hr f (Option.mem_toList.1 hf)
      · exact hretried f hf
    · show faultsIn answers ((offersIn t.calls).length + 1) = _ ++ t.ending.fault?.toList
      rw [faultsIn_succ, hfaults, List.append_assoc]

end Transfer.Sound

/-- Whatever a sink answers, a transfer tells what the sink has seen of it. -/
theorem transfer_sound (replies : List Reply) (later : Stream' Reply) (bytes : List UInt8) :
    (transfer replies bytes).Sound (replies ++ₛ later) bytes := by
  induction replies, bytes using transfer_induction with
  | done replies =>
    rw [transfer_nil]
    exact .start rfl fun _ => rfl
  | unanswered bytes h =>
    rw [transfer_unanswered h]
    exact .start rfl fun h => nomatch h
  | goesOn r replies bytes h hr ih =>
    rw [transfer_of_goesOn h hr]
    exact .behind hr ih
  | fault r replies bytes f h hf hno =>
    rw [transfer_of_fault h hf hno]
    exact .refused h hf

/-! ## Answers enough -/

section

variable {replies : List Reply} {bytes : List UInt8} {after : Reply}

/-- A transfer that has ended looks at no further answer. -/
theorem transfer_append (h : (transfer replies bytes).ending ≠ .unfinished)
    (more : List Reply) : transfer (replies ++ more) bytes = transfer replies bytes := by
  induction replies, bytes using transfer_induction with
  | done replies => rw [transfer_nil, transfer_nil]
  | unanswered bytes hne =>
    rw [transfer_unanswered hne] at h
    exact absurd rfl h
  | goesOn r replies bytes hne hr ih =>
    rw [transfer_of_goesOn hne hr] at h ⊢
    rw [List.cons_append, transfer_of_goesOn hne hr, ih h]
  | fault r replies bytes f hne hf hno =>
    rw [List.cons_append, transfer_of_fault hne hf hno, transfer_of_fault hne hf hno]

/-- A sink that answers in the same way from some point on ends a transfer, unless this way is
to be interrupted: every answer takes a byte, or is the last. -/
theorem ending_ne_unfinished (h : after ≠ .fails .interrupted) {count : Nat}
    (hcount : bytes.length ≤ count) :
    (transfer (replies ++ List.replicate count after) bytes).ending ≠ .unfinished := by
  -- Once only this answer is left, every offer is shorter than the one before it.
  have hafter : ∀ (count : Nat) (bytes : List UInt8), bytes.length ≤ count →
      (transfer (List.replicate count after) bytes).ending ≠ .unfinished := by
    intro count
    induction count with
    | zero =>
      intro bytes hcount
      obtain rfl := List.eq_nil_of_length_eq_zero (Nat.le_zero.1 hcount)
      rw [transfer_nil]
      exact nofun
    | succ count ih =>
      intro bytes hcount
      by_cases hne : bytes = []
      · rw [hne, transfer_nil]
        exact nofun
      rw [List.replicate_succ]
      rcases after.goesOn_or_fault with hr | ⟨f, hf, hno⟩
      · rw [transfer_of_goesOn hne hr]
        have hshorter := Reply.length_left_lt hr h hne
        exact ih _ (by omega)
      · rw [transfer_of_fault hne hf hno]
        exact nofun
  induction replies, bytes using transfer_induction with
  | done replies =>
    rw [transfer_nil]
    exact nofun
  | unanswered bytes hne => exact hafter count bytes hcount
  | goesOn r replies bytes hne hr ih =>
    rw [List.cons_append, transfer_of_goesOn hne hr]
    exact ih (Nat.le_trans (r.length_left_le bytes) hcount)
  | fault r replies bytes f hne hf hno =>
    rw [List.cons_append, transfer_of_fault hne hf hno]
    exact nofun

/-- Interruptions at the end change nothing about how a transfer ends. -/
theorem ending_interrupted (count : Nat) :
    (transfer (replies ++ List.replicate count (.fails .interrupted)) bytes).ending =
      (transfer replies bytes).ending := by
  induction replies, bytes using transfer_induction with
  | done replies => rw [transfer_nil, transfer_nil]
  | unanswered bytes hne =>
    rw [List.nil_append]
    induction count with
    | zero => rfl
    | succ count ih =>
      have hr : (Reply.fails .interrupted).GoesOn := fun f hf => (Option.some.inj hf).symm
      rw [List.replicate_succ, transfer_of_goesOn hne hr]
      exact ih
  | goesOn r replies bytes hne hr ih =>
    rw [List.cons_append, transfer_of_goesOn hne hr, transfer_of_goesOn hne hr]
    exact ih
  | fault r replies bytes f hne hf hno =>
    rw [List.cons_append, transfer_of_fault hne hf hno, transfer_of_fault hne hf hno]

end

namespace Sink

/-- All answers that a sink gives to offers, one after the other. -/
def stream (s : Sink) : Stream' Reply := s.replies ++ₛ Stream'.const s.after

/-- A sink ends the transfer of some bytes if finitely many of its answers do. -/
def Ends (s : Sink) (bytes : List UInt8) : Prop :=
  ∃ count, (transfer (s.stream.take count) bytes).ending ≠ .unfinished

theorem answers_eq (s : Sink) (count : Nat) :
    s.answers count = s.stream.take (s.replies.length + count) := by
  have hconst : ∀ count, (Stream'.const s.after).take count = List.replicate count s.after := by
    intro count
    induction count with
    | zero => rfl
    | succ count ih => rw [Stream'.take_succ, List.replicate_succ, ← ih]; rfl
  rw [stream, ← Stream'.append_take, hconst, answers]

/-- Whatever answers end a transfer, there is a sink that gives them. -/
theorem ends_of_answers {answers : Stream' Reply} {count : Nat} {bytes : List UInt8}
    (h : (transfer (answers.take count) bytes).ending ≠ .unfinished) (after : Reply)
    (flushFault : Option IoFault) : Ends ⟨answers.take count, after, flushFault⟩ bytes := by
  have hlisted : count ≤ (answers.take count).length :=
    Nat.le_of_eq (Stream'.length_take count answers).symm
  refine ⟨count, ?_⟩
  rw [stream, Stream'.take_append_of_le_length _ _ _ hlisted, Stream'.take_take, Nat.min_self]
  exact h

/-- If a sink ends a transfer at all, it does so with the answers that are foreseen. -/
theorem Ends.answers {s : Sink} {bytes : List UInt8} (h : s.Ends bytes) :
    (transfer (s.answers bytes.length) bytes).ending ≠ .unfinished := by
  obtain ⟨count, hended⟩ := h
  by_cases hafter : s.after = .fails .interrupted
  · -- The answers listed for the sink end it, for all others are interruptions.
    obtain ⟨more, hmore⟩ : s.stream.take count <+: s.answers count := by
      rw [answers_eq]
      exact Stream'.take_prefix_take_left _ _ _ (Nat.le_add_left _ _)
    have hlisted : (transfer (s.answers count) bytes).ending ≠ .unfinished := by
      rw [← hmore, transfer_append hended]
      exact hended
    rw [Sink.answers, hafter, ending_interrupted] at hlisted ⊢
    exact hlisted
  · exact ending_ne_unfinished hafter (Nat.le_refl _)

end Sink

end UniformIter
