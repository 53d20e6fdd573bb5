import UniformIter.Decoding.OfDocument
import UniformIter.Document.Opening

/-!
# Single values

A value that is no more than a scalar is read from the opening of a text. A fault of the value
is told before anything that comes behind it is looked at; only a value that was read asks
whether the text holds something else.
-/

namespace UniformIter.Decoding

open Document (Node Opening)

/-- Why a text gives no value. -/
inductive TextFault where
  /-- The text is no document. -/
  | malformed
  | undecodable (fault : PlacedFault)
  deriving Repr, DecidableEq

/-- Reads the single value of a text from the root of its document. -/
def single {α : Type} (decode : Option Node → Except PlacedFault α) (text : String) :
    Except TextFault α :=
  let value (root : Option Node) := (decode root).mapError TextFault.undecodable
  match Opening.ofText text with
  | .malformed => .error .malformed
  | .strayAlias p => .error (.undecodable ⟨.unknownAnchor, [], p⟩)
  | .nothing => value none
  | .collection root => value (some root)
  | .scalar root sequel =>
    (value (some root)).bind fun a =>
      match sequel with
      | .ended => .ok a
      | .broken => .error .malformed
      | .further => .error (.undecodable Fault.severalDocuments.unplaced)

end UniformIter.Decoding
