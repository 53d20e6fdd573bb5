import UniformIter.Proofs.Output.Delivery
import UniformIter.Proofs.Unit.Assembly

/-!
# Writing units

A unit goes to a sink by one way of its own, and the output of a run by another. Both have the
whole text before the sink is asked for anything, and both ask it for the same. They differ in
one thing: a reader that goes away is a failure of the one and a normal ending of the other
(`Renderer.emission`).
-/

namespace UniformIter

namespace Renderer

variable {r : Renderer} {s : Settings} {sink : Sink} {text : String} {f : Failure}

theorem emit_of_error (h : r.unit s = .error f) : r.emit s sink = (.error f, .none) := by
  rw [emit, h]

theorem emit_delivery (h : r.unit s = .ok text) :
    (r.emit s sink).2 = sink.deliver (utf8 text) := by
  rw [emit, h]
  dsimp only
  split <;> rfl

theorem emit_eq_ok_iff (h : r.unit s = .ok text) :
    (r.emit s sink).1 = .ok () ↔ (sink.deliver (utf8 text)).fault = none := by
  rw [emit, h]
  dsimp only
  split <;> simp [*]

/-- Once a unit is made, only the sink can fail. -/
theorem emit_eq_error_iff (h : r.unit s = .ok text) :
    (r.emit s sink).1 = .error f ↔
      ∃ fault, (sink.deliver (utf8 text)).fault = some fault ∧ f = .io fault := by
  rw [emit, h]
  dsimp only
  split <;> simp [*, eq_comm]

end Renderer

/-- A run fails with the failure of its sink, unless the reader went away. -/
theorem RunOutcome.ofDelivery_eq_error_iff {d : Delivery} {f : Failure} :
    ofDelivery d = .error f ↔
      ∃ fault, d.fault = some fault ∧ fault ≠ .brokenPipe ∧ f = .io fault := by
  cases h : d.fault with
  | none => simp [ofDelivery, h]
  | some fault =>
    rw [ofDelivery_of_fault h]
    by_cases hpipe : fault = .brokenPipe <;> simp [hpipe, eq_comm]

/-- What a renderer is asked for when it writes a unit, what it makes of it, and what a sink is
asked for then. -/
structure Emission (r : Renderer) (s : Settings) (sink : Sink) : Prop where
  /-- The parts are the preamble, the dispatch function and the adapter of each entry that gets
  one, in registry order, and the first of them that fails is the last one asked for. -/
  made : Made r s ""
    (.preamble :: .dispatch :: (s.registry.entries.filter (·.supported)).map .adapter)
    (r.making s)
  once : (r.making s).asked.Nodup
  unit : r.unit s = (r.making s).outcome
  /-- A failure to make the unit keeps everything from the sink. -/
  failed : ∀ f, r.unit s = .error f → (r.emit s sink).1 = .error f ∧
    (r.emit s sink).2.calls = [] ∧ (r.emit s sink).2.accepted = []
  /-- The sink sees what it would see of the text in the output of a run. -/
  same : ∀ text, r.unit s = .ok text →
    (r.emit s sink).2.calls = (writeOutput (.ok text) sink).2.calls ∧
    (r.emit s sink).2.accepted = (writeOutput (.ok text) sink).2.accepted
  completed : ∀ text, r.unit s = .ok text →
    ((r.emit s sink).1 = .ok () ↔ (writeOutput (.ok text) sink).1 = .ok .completed)
  /-- The two part here. -/
  outputClosed : ∀ text, r.unit s = .ok text →
    ((r.emit s sink).1 = .error (.io .brokenPipe) ↔
      (writeOutput (.ok text) sink).1 = .ok .outputClosed)
  otherwise : ∀ text f, r.unit s = .ok text → f ≠ .io .brokenPipe →
    ((r.emit s sink).1 = .error f ↔ (writeOutput (.ok text) sink).1 = .error f)

theorem Renderer.emitted (r : Renderer) (s : Settings) (sink : Sink) : Emission r s sink where
  made := r.making_made s
  once := r.nodup_asked s
  unit := r.unit_eq_outcome s
  failed f h := by
    rw [emit_of_error h]
    exact ⟨rfl, rfl, rfl⟩
  same text h := by
    rw [emit_delivery h]
    exact ⟨rfl, rfl⟩
  completed text h := by
    rw [emit_eq_ok_iff h, writeOutput, RunOutcome.ofDelivery_eq_completed_iff]
  outputClosed text h := by
    rw [emit_eq_error_iff h, writeOutput, RunOutcome.ofDelivery_eq_outputClosed_iff]
    simp
  otherwise text f h hf := by
    rw [emit_eq_error_iff h, writeOutput, RunOutcome.ofDelivery_eq_error_iff]
    refine exists_congr fun fault => and_congr_right fun _ => ?_
    constructor
    · rintro rfl
      exact ⟨fun hpipe => hf (congrArg Failure.io hpipe), rfl⟩
    · exact And.right

/-- Whatever a renderer and a sink do, and also where the renderer looks at what it has written
when it is asked for a part. -/
theorem Renderer.emission :
    (∀ (r : Renderer) (s : Settings) (sink : Sink), Emission r s sink) ∧
    ∀ (look : Look) (name description extension : String) (s : Settings),
      (look.renderer name description extension).making s =
        look.assemble s "" (unitParts s.registry) :=
  ⟨Renderer.emitted, Look.making_renderer⟩

/-- A unit in Go that has no dispatch function is given up there. -/
example (s : Settings) (f : Failure) :
    ({ Go.renderer with dispatch := fun _ => .error f }.making s).asked = [.preamble, .dispatch] :=
  rfl

end UniformIter
