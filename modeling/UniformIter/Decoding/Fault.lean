import UniformIter.Document.Position
import UniformIter.Text.Unprintable

/-!
# Faults of settings

What a message says about a value that is not what was expected: what was found, what should
have been there, and where it stands in the document.
-/

namespace UniformIter.Decoding

/-- What was found where something else was expected. -/
inductive Found where
  | sequence
  | mapping
  | unit
  | null
  | boolean (value : Bool)
  | integer (value : Int)
  /-- A number with a fraction, by its text. -/
  | fraction (text : String)
  | string (value : String)
  deriving Repr, DecidableEq

/-- How a message names what was found. A whole number beyond 64 bits is called by the size
that it needs. -/
def Found.text : Found → String
  | .sequence => "sequence"
  | .mapping => "map"
  | .unit => "unit value"
  | .null => "null"
  | .boolean b => s!"boolean `{b}`"
  | .integer n =>
    if (Nat.pow 2 64 : Nat) ≤ n then s!"integer `{n}` as u128"
    else if n < -(Nat.pow 2 63 : Nat) then s!"integer `{n}` as i128"
    else s!"integer `{n}`"
  | .fraction t => s!"floating point `{t}`"
  | .string s => "string " ++ Text.quoted s

/-- What is wrong with a value. -/
inductive Fault where
  /-- A value of another kind than the expected one. -/
  | invalidType (found : Found) (expected : String)
  /-- A value of the right kind that is not allowed. -/
  | invalidValue (found : Found) (expected : String)
  | duplicateField (name : String)
  /-- More items than a record has fields. -/
  | invalidLength (length : Nat)
  /-- A name that is none of the known ones. -/
  | unknownVariant (name : String) (known : List String)
  /-- There is no document at all. -/
  | nothing
  /-- An alias of something that was not introduced. -/
  | unknownAnchor
  /-- More than one document where a single one is read. -/
  | severalDocuments
  | other (message : String)
  deriving Repr, DecidableEq

/-- Names to choose from in a message. -/
def alternatives (names : List String) : String :=
  match names with
  | [a] => s!"`{a}`"
  | [a, b] => s!"`{a}` or `{b}`"
  | _ => "one of " ++ ", ".intercalate (names.map fun a => s!"`{a}`")

/-- The message about a value. -/
def Fault.message : Fault → String
  | .invalidType f e => s!"invalid type: {f.text}, expected {e}"
  | .invalidValue f e => s!"invalid value: {f.text}, expected {e}"
  | .duplicateField n => s!"duplicate field `{n}`"
  | .invalidLength n => s!"invalid length {n}, expected fewer elements in array"
  | .unknownVariant n known => s!"unknown variant `{n}`, expected {alternatives known}"
  | .nothing => "EOF while parsing a value"
  | .unknownAnchor => "unknown anchor"
  | .severalDocuments =>
    "deserializing from YAML containing more than one document is not supported"
  | .other m => m

/-- A step from a value to one inside it. -/
inductive Step where
  | key (name : String)
  | index (n : Nat)
  /-- An entry whose key has no name of its own. -/
  | unnamed
  deriving Repr, DecidableEq

/-- The way from the root of a document to a value. -/
def pathText (steps : List Step) : String :=
  steps.foldl (fun text step =>
    let dotted (name : String) := if text.isEmpty then name else s!"{text}.{name}"
    match step with
    | .key name => dotted name
    | .index n => s!"{text}[{n}]"
    | .unnamed => dotted "?") ""

/-- A fault in a document, the way to it and its position. -/
structure PlacedFault where
  fault : Fault
  path : List Step
  position : Document.Position
  deriving Repr, DecidableEq

/-- A fault that is told without a place. -/
def Fault.unplaced (f : Fault) : PlacedFault := ⟨f, [], .origin⟩

/-- The message about a place in a document. The root needs no path, and the very first
character no position. -/
def PlacedFault.message (f : PlacedFault) : String :=
  let before := if f.path.isEmpty then "" else s!"{pathText f.path}: "
  let after :=
    if f.position == .origin then ""
    else s!" at line {f.position.line + 1} column {f.position.column + 1}"
  before ++ f.fault.message ++ after

end UniformIter.Decoding
