import UniformIter.Decoding.Single
import UniformIter.Settings.BuiltIn
import UniformIter.Settings.Decode

/-!
# Reading single names

The name of an iterator type and the name of a built-in variant may also stand alone in a
document or in JSON. A variant may be written as a tag, or as an object with nothing behind its
name.
-/

namespace UniformIter

open Decoding Document

/-- The name of an iterator type in a string that was read. -/
def IteratorName.decode (text : String) : Except Fault IteratorName :=
  match ofText text with
  | .ok n => .ok n
  | .error f => .error (.other (Failure.registry (.malformed text f)).message)

/-- The name of an iterator type in a JSON value. -/
def IteratorName.ofJson (v : Json) : Except Fault IteratorName :=
  (jsonFormat.string v).bind decode

/-- The name of an iterator type in a document with this root. -/
def IteratorName.ofDocument (root : Option Node) : Except PlacedFault IteratorName :=
  match root with
  | none => .error Fault.nothing.unplaced
  | some _ =>
    (documentFormat.string (rootPlace root)).bind fun text =>
      (decode text).mapError Fault.unplaced

/-- The name of an iterator type that a text holds. -/
def IteratorName.ofDocumentText (text : String) : Except TextFault IteratorName :=
  single ofDocument text

namespace Variant

/-- The variant with a name that was read. -/
def decode (name : String) : Except Fault Variant :=
  match ofName? name with
  | some v => .ok v
  | none => .error (.unknownVariant name (all.map Variant.name))

/-- The variant in a JSON value. -/
def ofJson (v : Json) : Except Fault Variant :=
  match v with
  | .string name => decode name
  | .object [(name, value)] =>
    (decode name).bind fun variant =>
      match value with
      | .null => .ok variant
      | _ => jsonMismatch value "unit"
  | .object _ => .error (.invalidValue .mapping "map with a single key")
  | _ => jsonMismatch v "string or map"

/-- Whether nothing stands behind a tag. -/
def isUnit : Node → Bool
  | .scalar style text _ => style == .plain && (text.isEmpty || PlainValue.isNull text)
  | _ => false

/-- The fault of a node behind a tag where nothing should stand. -/
def behindTag : Node → Fault
  | .scalar _ text _ => .invalidValue (.string text) "null"
  | n => unexpected n "unit"

/-- The variant in a document with this root. -/
def ofDocument (root : Option Node) : Except PlacedFault Variant :=
  match root with
  | none => .error Fault.nothing.unplaced
  | some n =>
    let place := rootPlace root
    match n.tag?.bind Tag.name?, n with
    | some name, _ =>
      ((decode name).mapError Fault.unplaced).bind fun variant =>
        if isUnit n then .ok variant else .error (place.fault (behindTag n))
    | none, .scalar _ text _ => (decode text).mapError place.fault
    | none, _ => .error (place.fault (unexpected n "a YAML tag starting with '!'"))

/-- The variant that a text holds. -/
def ofDocumentText (text : String) : Except TextFault Variant := single ofDocument text

end Variant

end UniformIter
