import UniformIter.Output.Sink
import UniformIter.Unit.Catalogue

/-!
# Writing output

A run renders its text completely before the first byte goes out, so that a failure never
leaves a part of it behind. A reader that goes away early is a normal ending of a run.
-/

namespace UniformIter

/-- How a run ends well. -/
inductive RunOutcome where
  /-- All output was written. -/
  | completed
  /-- The reader of the output went away. -/
  | outputClosed
  deriving Repr, DecidableEq

/-- The bytes of a text. -/
def utf8 (s : String) : List UInt8 := s.toUTF8.data.toList

/-- How a run ends, by what became of its output. -/
def RunOutcome.ofDelivery (d : Delivery) : Except Failure RunOutcome :=
  match d.fault with
  | none => .ok .completed
  | some f => if (Failure.io f).isBrokenPipe then .ok .outputClosed else .error (.io f)

/-- Writes what a job gives to a sink. -/
def writeOutput (job : Except Failure String) (s : Sink) : Except Failure RunOutcome × Delivery :=
  match job with
  | .error f => (.error f, .none)
  | .ok text =>
    let d := s.deliver (utf8 text)
    (RunOutcome.ofDelivery d, d)

/-- Writes the unit of a renderer to a sink. -/
def Renderer.emit (r : Renderer) (settings : Settings) (s : Sink) :
    Except Failure Unit × Delivery :=
  match r.unit settings with
  | .error f => (.error f, .none)
  | .ok text =>
    let d := s.deliver (utf8 text)
    match d.fault with
    | none => (.ok (), d)
    | some f => (.error (.io f), d)

end UniformIter
