import UniformIter.Decoding.Fault
import UniformIter.Decoding.Record
import UniformIter.Decimal.Shortest
import UniformIter.Document.Node
import UniformIter.Document.PlainValue

/-!
# Values in a document

How the nodes of a document are taken apart. A string is any scalar by its text, a truth value
only a scalar without quotes; nothing at all is an empty record and an empty sequence. Tags
count only for what a message says was found.
-/

namespace UniformIter.Decoding

open Document (Node ScalarStyle PlainValue Position Tag)

/-- A node of a document with the way to it. An alias stands for its node. -/
structure Place where
  root : Node
  node : Node
  path : List Step

namespace Place

/-- The node that counts at a place. -/
def target (p : Place) : Node := p.root.resolve p.node

/-- A fault at a place. -/
def fault (p : Place) (f : Fault) : PlacedFault := ⟨f, p.path, p.target.position⟩

/-- A place one step further inside. -/
def inside (p : Place) (step : Step) (n : Node) : Place := ⟨p.root, n, p.path ++ [step]⟩

end Place

/-- How messages write the fractions of a document: never with an exponent, a tie going away
from zero. -/
def fractionForm : Binary64.NumberForm := ⟨.away, none⟩

/-- What a scalar without quotes is called. -/
def foundPlain (text : String) : PlainValue → Found
  | .null => .unit
  | .boolean b => .boolean b
  | .integer n => .integer n
  | .finite x => .fraction (x.text fractionForm)
  | .infinite negative => .fraction (if negative then "-inf" else "inf")
  | .notANumber => .fraction "NaN"
  | .text => .string text

/-- What a scalar is called. A tag of a standard kind demands a scalar of that kind. -/
def foundScalar (style : ScalarStyle) (tag : Option Tag) (text : String) : Except Fault Found :=
  let demanded (value : Option PlainValue) (expected : String) : Except Fault Found :=
    match value with
    | some v => .ok (foundPlain text v)
    | none => .error (.invalidValue (.string text) expected)
  match tag with
  | none =>
    .ok (if style == .plain then foundPlain text (PlainValue.of text) else .string text)
  | some t =>
    if t == Tag.standard "bool" then
      demanded ((PlainValue.boolean? text).map .boolean) "a boolean"
    else if t == Tag.standard "int" then
      demanded ((PlainValue.integer? text.toList).map .integer) "an integer"
    else if t == Tag.standard "float" then
      demanded (PlainValue.float? text.toList) "a float"
    else if t == Tag.standard "null" then
      demanded (if PlainValue.isNull text then some .null else none) "null"
    else if t.isOwn && style == .plain then .ok (foundPlain text (PlainValue.of text))
    else .ok (.string text)

/-- What a node is called. -/
def foundNode : Node → Except Fault Found
  | .scalar style text label => foundScalar style label.tag text
  | .sequence _ _ => .ok .sequence
  | .mapping _ _ => .ok .mapping
  | .aliasOf _ _ => .ok .unit

/-- The fault of a node that is not what was expected. -/
def unexpected (n : Node) (expected : String) : Fault :=
  match foundNode n with
  | .ok f => .invalidType f expected
  | .error f => f

/-- Whether a scalar may be read as a truth value. -/
def mayBeBoolean (style : ScalarStyle) (tag : Option Tag) : Bool :=
  style == .plain || (style == .literal && tag == some (Tag.standard "bool"))

/-- Whether a scalar stands for nothing at all. -/
def isVoid (style : ScalarStyle) (text : String) : Bool := style == .plain && text.isEmpty

namespace Place

/-- The fault of a value that is not what was expected. -/
def mismatch {α : Type} (p : Place) (expected : String) : Except PlacedFault α :=
  .error (p.fault (unexpected p.target expected))

/-- The string at a place. -/
def string (p : Place) : Except PlacedFault String :=
  match p.target with
  | .scalar _ text _ => .ok text
  | _ => p.mismatch "a string"

/-- The truth value at a place. -/
def boolean (p : Place) : Except PlacedFault Bool :=
  match p.target with
  | .scalar style text label =>
    match if mayBeBoolean style label.tag then PlainValue.boolean? text else none with
    | some b => .ok b
    | none => p.mismatch "a boolean"
  | _ => p.mismatch "a boolean"

/-- The items at a place. -/
def items (p : Place) : Except PlacedFault (List Place) :=
  match p.target with
  | .sequence ns _ => .ok (ns.zipIdx.map fun (n, i) => p.inside (.index i) n)
  | .scalar style text _ => if isVoid style text then .ok [] else p.mismatch "a sequence"
  | _ => p.mismatch "a sequence"

/-- The entry at a place with the given key and value. A key is a scalar, by its text; one that
is an alias has no name on the way to its value. -/
def entry (p : Place) (key value : Node) : Except PlacedFault (String × Place) :=
  match p.root.resolve key with
  | .scalar _ name _ =>
    let step := match key with
      | .aliasOf _ _ => Step.unnamed
      | _ => .key name
    .ok (name, p.inside step value)
  | n => .error ⟨unexpected n "field identifier", p.path, n.position⟩

/-- The entries of the record with this title at a place. -/
def entries (p : Place) (title : String) :
    Except PlacedFault (List (Except PlacedFault (String × Place))) :=
  match p.target with
  | .mapping es _ => .ok (es.map fun (k, v) => p.entry k v)
  | .scalar style text _ => if isVoid style text then .ok [] else p.mismatch title
  | _ => p.mismatch title

end Place

/-- How documents are taken apart. -/
def documentFormat : Format Place PlacedFault where
  string := Place.string
  boolean := Place.boolean
  items := Place.items
  entries title _ p := p.entries title
  duplicate p name := p.fault (.duplicateField name)

/-- The place of a document's root. A document that holds nothing has an empty one. -/
def rootPlace (root : Option Node) : Place :=
  let n := root.getD (.missing .origin)
  ⟨n, n, []⟩

end UniformIter.Decoding
