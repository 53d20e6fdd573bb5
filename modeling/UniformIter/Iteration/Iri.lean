import UniformIter.Iri.Reference
import UniformIter.Json.Value

/-!
# Elements and references

A property has elements, each of which is an object, or refers to something by an absolute
reference instead of holding it. A cursor in a list of them is an index.
-/

namespace UniformIter

/-- An element of a property: a reference, or the object itself. -/
inductive Element where
  | iri (url : String)
  | object (value : Json)
  deriving DecidableEq

namespace Element

/-- The reference that an element is. -/
def iri? : Element → Option String
  | iri url => some url
  | object _ => none

/-- The object that an element is. -/
def object? : Element → Option Json
  | iri _ => none
  | object v => some v

/-- The element that refers to a text, if the text is a reference. -/
def ofIri? (url : String) : Option Element :=
  if Iri.isReference url then some (.iri url) else none

end Element

/-- An index into a list of elements. The index behind the last element is the end. -/
structure ListCursor where
  elements : List Element
  index : Nat
  deriving DecidableEq

namespace ListCursor

/-- The element at a cursor. -/
def current? (c : ListCursor) : Option Element := c.elements[c.index]?

/-- The cursor one further, or at the end. -/
def next (c : ListCursor) : ListCursor := { c with index := min (c.index + 1) c.elements.length }

end ListCursor

end UniformIter
