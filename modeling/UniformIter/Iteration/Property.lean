import UniformIter.Iteration.Iri

/-!
# Kinds of properties

A property owns elements, and a cursor visits them. Each kind of property has a cursor of its
own, with the same questions to ask; a family of kinds is what a dispatcher chooses from. The
list property is a kind whose cursor is an index into the owner's elements.
-/

namespace UniformIter

/-- A kind of property: its owners, their cursors, and how these move. Owners are told apart
by identity. -/
structure PropertyKind where
  Owner : Type
  Cursor : Type
  sameOwner : DecidableEq Owner
  /-- The name of the cursor's type in a registry. -/
  iteratorType : String
  /-- The name of the owner's type at run time. -/
  typeName : String
  first : Owner → Cursor
  stop : Owner → Cursor
  next : Cursor → Cursor
  sameCursor : Cursor → Cursor → Bool
  hasAny : Cursor → Bool
  isIri : Cursor → Bool
  iri? : Cursor → Option String
  object? : Cursor → Option Json

instance (K : PropertyKind) : DecidableEq K.Owner := K.sameOwner

/-- A value with an identity: equal values may be different owners. -/
structure Shared (α : Type) where
  identity : Nat
  value : α
  deriving DecidableEq

/-- The kind of property that owns a list of elements. -/
def listProperty (iteratorType typeName : String) : PropertyKind where
  Owner := Shared (List Element)
  Cursor := ListCursor
  sameOwner := inferInstance
  iteratorType := iteratorType
  typeName := typeName
  first o := ⟨o.value, 0⟩
  stop o := ⟨o.value, o.value.length⟩
  next := ListCursor.next
  sameCursor a b := a == b
  hasAny c := decide (c.index < c.elements.length)
  isIri c := (c.current?.bind Element.iri?).isSome
  iri? c := c.current?.bind Element.iri?
  object? c := c.current?.bind Element.object?

end UniformIter
