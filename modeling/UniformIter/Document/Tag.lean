/-!
# Tags of a settings document

A tag is a row of octets, because its escapes may spell octets that are no text. One that
begins with an exclamation mark may name something to a reader of the document; the others
are those that every document knows.
-/

namespace UniformIter.Document

/-- A tag of a node. -/
structure Tag where
  octets : List UInt8
  deriving Repr, DecidableEq, Inhabited

namespace Tag

/-- The octets of a text. -/
def octetsOf (s : String) : List UInt8 := s.toList.flatMap String.utf8EncodeChar

/-- The octets up to a zero, which ends a part of a tag wherever an escape puts it. -/
def untilZero (octets : List UInt8) : List UInt8 := octets.takeWhile (· != 0)

/-- The octet of the exclamation mark. -/
def mark : UInt8 := 0x21

/-- The expansion of the double exclamation mark. -/
def standardExpansion : List UInt8 := octetsOf "tag:yaml.org,2002:"

/-- The tag of a kind of scalar that every document knows. -/
def standard (kind : String) : Tag := ⟨standardExpansion ++ octetsOf kind⟩

/-- Whether a tag is of the document's own making. -/
def isOwn (t : Tag) : Bool := t.octets.head? == some mark

/-- The name that a tag of the document's own making gives: what follows the mark, or the mark
itself if nothing does. Octets that are no text give no name. -/
def name? (t : Tag) : Option String :=
  match t.octets with
  | [] => none
  | m :: rest =>
    if m == mark then
      let name := if rest.isEmpty then [m] else rest
      String.fromUTF8? ⟨name.toArray⟩
    else none

end Tag

end UniformIter.Document
