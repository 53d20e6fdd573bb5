import UniformIter.Output.Run
import UniformIter.Proofs.Output.Transfer

/-!
# What becomes of output

After a transfer the sink is asked to flush if it took everything, and the first failure that is
no interruption, of an offer or of the flush, tells how the run ends. `Delivered` says so of the
bytes that are delivered (`Sink.delivered`), and `Written` of a text that a job gives and
of the outcome of the run. A job that fails never touches the sink (`writeOutput_written`).
-/

namespace UniformIter

/-- The failures a sink answered with in a delivery: those to offers, and that of the flush if
there was one. -/
def Sink.faults (s : Sink) (d : Delivery) : List IoFault :=
  faultsIn s.stream (offersIn d.calls).length ++
    if d.flushes = 0 then [] else s.flushFault.toList

/-! ## Calls -/

/-- A flush offers nothing. -/
theorem offersIn_concat_flush (calls : List SinkCall) :
    offersIn (calls ++ [.flush]) = offersIn calls := by
  unfold offersIn
  rw [List.filterMap_append]
  exact List.append_nil _

theorem count_flush_writes (offers : List (List UInt8)) :
    (offers.map SinkCall.write).count .flush = 0 :=
  List.count_eq_zero.2 fun h => by simp at h

theorem Transfer.Sound.count_flush {answers : Stream' Reply} {bytes : List UInt8} {t : Transfer}
    (ht : t.Sound answers bytes) : t.calls.count .flush = 0 := by
  rw [ht.calls]
  exact count_flush_writes _

/-- What a sink holds after an offer is the beginning of what it was then offered. -/
theorem held_concat_isPrefix (answers : Stream' Reply) (before : List (List UInt8))
    (offered : List UInt8) :
    held answers (before ++ [offered]) <+: held answers before ++ offered := by
  induction before generalizing answers with
  | nil => exact ⟨answers.head.left offered, by
      show answers.head.taken offered ++ [] ++ answers.head.left offered = offered
      rw [List.append_nil, Reply.taken_append_left]⟩
  | cons first before ih =>
    rw [List.cons_append, held, held, List.append_assoc]
    exact (List.prefix_append_right_inj _).2 (ih answers.tail)

/-! ## Deliveries -/

/-- What a delivery tells is what the sink has seen of it. -/
structure Delivered (s : Sink) (bytes : List UInt8) (d : Delivery) : Prop where
  /-- Every offer is what the sink does not hold yet. -/
  offers : ∀ before offered after, offersIn d.calls = before ++ offered :: after →
    held s.stream before ++ offered = bytes
  accepted : d.accepted = held s.stream (offersIn d.calls)
  /-- The sink is asked to flush after it took everything, and not otherwise. -/
  calls : d.calls =
    (offersIn d.calls).map .write ++ if d.accepted = bytes then [.flush] else []
  flushed : d.accepted = bytes → d.fault = s.flushFault
  unflushed : d.accepted ≠ bytes → d.fault ≠ none
  /-- The failures are interruptions and the one that the delivery ends with. -/
  faults : ∃ retried, (∀ f ∈ retried, f = .interrupted) ∧ s.faults d = retried ++ d.fault.toList

namespace Delivered

variable {s : Sink} {bytes : List UInt8} {t : Transfer}

/-- After a complete transfer the sink is asked to flush, and this ends the delivery. -/
theorem of_complete (ht : t.Sound s.stream bytes) (h : t.ending = .complete) :
    Delivered s bytes ⟨t.calls ++ [.flush], t.accepted, s.flushFault⟩ where
  offers before offered after hsplit := by
    rw [offersIn_concat_flush] at hsplit
    exact ht.offers before offered after hsplit
  accepted := by
    rw [offersIn_concat_flush]
    exact ht.accepted
  calls := by
    rw [if_pos (ht.complete h), offersIn_concat_flush, ← ht.calls]
  flushed _ := rfl
  unflushed hno := absurd (ht.complete h) hno
  faults := by
    obtain ⟨retried, hretried, hfaults⟩ := ht.faults
    refine ⟨retried, hretried, ?_⟩
    have hflush : (t.calls ++ [SinkCall.flush]).count .flush ≠ 0 := by
      rw [List.count_append, ht.count_flush]
      decide
    rw [h, Ending.fault?, Option.toList_none, List.append_nil] at hfaults
    rw [Sink.faults, Delivery.flushes, if_neg hflush, offersIn_concat_flush, hfaults]

/-- A transfer that failed ends the delivery. -/
theorem of_failed (ht : t.Sound s.stream bytes) {f : IoFault} (h : t.ending = .failed f) :
    Delivered s bytes ⟨t.calls, t.accepted, some f⟩ where
  offers := ht.offers
  accepted := ht.accepted
  calls := by
    rw [if_neg (ht.failed f h), List.append_nil]
    exact ht.calls
  flushed hall := absurd hall (ht.failed f h)
  unflushed _ := Option.some_ne_none f
  faults := by
    obtain ⟨retried, hretried, hfaults⟩ := ht.faults
    refine ⟨retried, hretried, ?_⟩
    rw [Sink.faults, Delivery.flushes, if_pos ht.count_flush, List.append_nil, hfaults, h,
      Ending.fault?]

end Delivered

/-- A sink that ends the transfer of some bytes is told what it has seen. -/
theorem Sink.delivered {s : Sink} {bytes : List UInt8} (h : s.Ends bytes) :
    Delivered s bytes (s.deliver bytes) := by
  have ht : (transfer (s.answers bytes.length) bytes).Sound s.stream bytes := by
    have hstream : s.answers bytes.length ++ₛ s.stream.drop (s.replies.length + bytes.length) =
        s.stream := by
      rw [s.answers_eq, Stream'.append_take_drop]
    rw [← hstream]
    exact transfer_sound _ _ _
  unfold deliver
  dsimp only
  cases hending : (transfer (s.answers bytes.length) bytes).ending with
  | complete => exact .of_complete ht hending
  | failed f => exact .of_failed ht hending
  | unfinished => exact absurd hending h.answers

namespace Delivered

variable {s : Sink} {bytes : List UInt8} {d : Delivery}

/-- At every moment the sink holds a beginning of the bytes. -/
theorem beginning (h : Delivered s bytes d) {before after : List (List UInt8)}
    (hsplit : offersIn d.calls = before ++ after) : held s.stream before <+: bytes := by
  rcases List.eq_nil_or_concat before with rfl | ⟨front, offered, rfl⟩
  · exact List.nil_prefix
  · rw [List.concat_eq_append] at hsplit ⊢
    rw [List.append_assoc] at hsplit
    -- The last of these offers was what was missing, and the sink took a beginning of it.
    rw [← h.offers front offered after hsplit]
    exact held_concat_isPrefix s.stream front offered

theorem flushes_eq (h : Delivered s bytes d) :
    d.flushes = if d.accepted = bytes then 1 else 0 := by
  rw [Delivery.flushes, h.calls, List.count_append, count_flush_writes, Nat.zero_add]
  split <;> rfl

/-- The first failure that is no interruption, if there is one, is the one at the end. -/
theorem find?_faults (h : Delivered s bytes d) :
    (s.faults d).find? (· != .interrupted) = d.fault.filter (· != .interrupted) := by
  obtain ⟨retried, hretried, hfaults⟩ := h.faults
  have hnone : retried.find? (· != .interrupted) = none :=
    List.find?_eq_none.2 fun f hf => by simp [hretried f hf]
  rw [hfaults, List.find?_append, hnone, Option.none_or]
  cases d.fault with
  | none => rfl
  | some f =>
    rw [Option.toList_some, List.find?_singleton, Option.filter_some]

theorem fault_eq_none_iff (h : Delivered s bytes d) :
    d.fault = none ↔ d.accepted = bytes ∧ s.flushFault = none := by
  by_cases hall : d.accepted = bytes
  · rw [h.flushed hall]
    exact (and_iff_right hall).symm
  · exact iff_of_false (h.unflushed hall) fun hno => hall hno.1

/-- Where the sink took nothing of an offer, this is the failure at the end. -/
theorem fault_of_nothingTaken (h : Delivered s bytes d) {i : Nat}
    (hi : i < (offersIn d.calls).length) (hnothing : s.stream.get i = .takes 0) :
    d.fault = some .nothingTaken := by
  obtain ⟨retried, hretried, hfaults⟩ := h.faults
  have hmem : IoFault.nothingTaken ∈ s.faults d := by
    refine List.mem_append_left _ (List.mem_filterMap.2 ⟨s.stream.get i, ?_, by rw [hnothing]; rfl⟩)
    exact List.mem_of_getElem? (Stream'.getElem?_take hi)
  -- All failures but the last are interruptions, and this is none.
  rw [hfaults] at hmem
  rcases List.mem_append.1 hmem with hmem | hmem
  · exact absurd (hretried _ hmem) (by decide)
  · exact Option.mem_toList.1 hmem

end Delivered

/-! ## Runs -/

namespace RunOutcome

variable {d : Delivery} {f : IoFault}

theorem ofDelivery_of_fault (h : d.fault = some f) :
    ofDelivery d = if f = .brokenPipe then .ok .outputClosed else .error (.io f) := by
  have hpipe : (Failure.io f).isBrokenPipe = true ↔ f = .brokenPipe := by
    rw [Failure.isBrokenPipe, beq_iff_eq, Failure.io.injEq]
  unfold ofDelivery
  rw [h]
  exact if_congr hpipe rfl rfl

theorem ofDelivery_eq_completed_iff : ofDelivery d = .ok .completed ↔ d.fault = none := by
  cases h : d.fault with
  | none =>
    unfold ofDelivery
    rw [h]
    simp
  | some f =>
    rw [ofDelivery_of_fault h]
    split <;> simp

theorem ofDelivery_eq_outputClosed_iff :
    ofDelivery d = .ok .outputClosed ↔ d.fault = some .brokenPipe := by
  cases h : d.fault with
  | none =>
    unfold ofDelivery
    rw [h]
    simp
  | some f =>
    rw [ofDelivery_of_fault h]
    by_cases hf : f = .brokenPipe <;> simp [hf]

end RunOutcome

/-- What became of a text that was to be written to a sink: `outcome` is what the run says, and
`d` what the sink was asked and what it took. -/
structure Written (s : Sink) (text : String) (outcome : Except Failure RunOutcome)
    (d : Delivery) : Prop where
  /-- Every offer is what the sink does not hold yet: nothing is skipped, nothing comes twice. -/
  offers : ∀ before offered after, offersIn d.calls = before ++ offered :: after →
    held s.stream before ++ offered = utf8 text
  /-- At every moment the sink holds a beginning of the text. -/
  beginning : ∀ before after, offersIn d.calls = before ++ after →
    held s.stream before <+: utf8 text
  accepted : d.accepted = held s.stream (offersIn d.calls)
  /-- The sink is asked to flush once, after it took everything, and not otherwise. -/
  calls : d.calls =
    (offersIn d.calls).map .write ++ if d.accepted = utf8 text then [.flush] else []
  flushes : d.flushes = if d.accepted = utf8 text then 1 else 0
  completed : outcome = .ok .completed ↔ d.accepted = utf8 text ∧ s.flushFault = none
  /-- The first failure that is no interruption tells that the reader went away. -/
  outputClosed : outcome = .ok .outputClosed ↔
    (s.faults d).find? (· != .interrupted) = some .brokenPipe
  /-- Every other ending is the failure that was the last. -/
  failed : outcome ≠ .ok .completed → outcome ≠ .ok .outputClosed →
    ∃ f, (s.faults d).getLast? = some f ∧ outcome = .error (.io f)
  nothingTaken : (∃ i < (offersIn d.calls).length, s.stream.get i = .takes 0) →
    outcome = .error (.io .nothingTaken)

/-- A delivery gives its run the outcome. -/
theorem Delivered.written {s : Sink} {text : String} {d : Delivery}
    (h : Delivered s (utf8 text) d) : Written s text (RunOutcome.ofDelivery d) d where
  offers := h.offers
  beginning _ _ := h.beginning
  accepted := h.accepted
  calls := h.calls
  flushes := h.flushes_eq
  completed := RunOutcome.ofDelivery_eq_completed_iff.trans h.fault_eq_none_iff
  outputClosed := by
    rw [RunOutcome.ofDelivery_eq_outputClosed_iff, h.find?_faults]
    cases d.fault with
    | none => simp
    | some f => by_cases hf : f = .interrupted <;> simp [hf]
  failed hcompleted hclosed := by
    rw [Ne, RunOutcome.ofDelivery_eq_completed_iff] at hcompleted
    rw [Ne, RunOutcome.ofDelivery_eq_outputClosed_iff] at hclosed
    obtain ⟨f, hf⟩ := Option.ne_none_iff_exists'.1 hcompleted
    obtain ⟨retried, -, hfaults⟩ := h.faults
    refine ⟨f, ?_, ?_⟩
    · rw [hfaults, hf]
      exact List.getLast?_concat
    · rw [RunOutcome.ofDelivery_of_fault hf, if_neg]
      rintro rfl
      exact hclosed hf
  nothingTaken := by
    rintro ⟨i, hi, hnothing⟩
    rw [RunOutcome.ofDelivery_of_fault (h.fault_of_nothingTaken hi hnothing)]
    rfl

/-- A job that fails is the outcome of its run, and the sink is not asked for anything. The text
of any other job is written as far as the sink takes it, and the outcome is that of the sink, for
every sink that ends the transfer. Whatever answers end a transfer, a sink that gives them is one
of these. -/
theorem writeOutput_written (s : Sink) :
    (∀ f, (writeOutput (.error f) s).1 = .error f ∧ (writeOutput (.error f) s).2.calls = [] ∧
      (writeOutput (.error f) s).2.accepted = []) ∧
    (∀ text, s.Ends (utf8 text) →
      Written s text (writeOutput (.ok text) s).1 (writeOutput (.ok text) s).2) ∧
    ∀ text (answers : Stream' Reply) count,
      (transfer (answers.take count) (utf8 text)).ending ≠ .unfinished →
      Written { s with replies := answers.take count } text
        (writeOutput (.ok text) { s with replies := answers.take count }).1
        (writeOutput (.ok text) { s with replies := answers.take count }).2 := by
  have hwritten : ∀ (s : Sink) text, s.Ends (utf8 text) →
      Written s text (writeOutput (.ok text) s).1 (writeOutput (.ok text) s).2 :=
    fun _ _ h => (Sink.delivered h).written
  refine ⟨fun _ => ⟨rfl, rfl, rfl⟩, hwritten s, fun text answers count hended => ?_⟩
  exact hwritten _ text (Sink.ends_of_answers hended s.after s.flushFault)

/-- A sink that is interrupted, takes seven bytes, is interrupted again, and is then left by its
reader. -/
def leftHalfway : Sink where
  replies := [.fails .interrupted, .takes 7, .fails .interrupted]
  after := .fails .brokenPipe
  flushFault := some .noSpace

/-- It holds the first word and is not asked to flush, and the run ends well. -/
theorem writeOutput_written_leftHalfway :
    leftHalfway.Ends (utf8 "package fetch\n") ∧
    Written leftHalfway "package fetch\n"
      (writeOutput (.ok "package fetch\n") leftHalfway).1
      (writeOutput (.ok "package fetch\n") leftHalfway).2 ∧
    (writeOutput (.ok "package fetch\n") leftHalfway).1 = .ok .outputClosed ∧
    (writeOutput (.ok "package fetch\n") leftHalfway).2.accepted = utf8 "package" ∧
    (writeOutput (.ok "package fetch\n") leftHalfway).2.flushes = 0 := by
  have hends : leftHalfway.Ends (utf8 "package fetch\n") := ⟨4, by decide +kernel⟩
  have hwritten := (writeOutput_written leftHalfway).2.1 _ hends
  have haccepted : (writeOutput (.ok "package fetch\n") leftHalfway).2.accepted =
      utf8 "package" := by decide +kernel
  refine ⟨hends, hwritten, hwritten.outputClosed.2 (by decide +kernel), haccepted, ?_⟩
  rw [hwritten.flushes, haccepted]
  decide +kernel

end UniformIter
