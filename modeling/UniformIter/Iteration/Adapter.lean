import UniformIter.Iteration.Property

/-!
# Adapters

An adapter pairs a property with a cursor over it, and gives every kind of property the same
surface. Two adapters are equal if they are of one kind, have the same owner and stand at the
same cursor.
-/

namespace UniformIter

variable {κ : Type} [DecidableEq κ]

/-- An owner with a cursor, of some kind of a family. -/
structure Adapter (kinds : κ → PropertyKind) where
  kind : κ
  owner : (kinds kind).Owner
  cursor : (kinds kind).Cursor

namespace Adapter

variable {kinds : κ → PropertyKind}

/-- The adapter at an owner's first element. -/
def first (k : κ) (owner : (kinds k).Owner) : Adapter kinds := ⟨k, owner, (kinds k).first owner⟩

/-- Whether a value is set here. -/
def hasAny (a : Adapter kinds) : Bool := (kinds a.kind).hasAny a.cursor

/-- Whether the value here is a reference. -/
def isIri (a : Adapter kinds) : Bool := (kinds a.kind).isIri a.cursor

/-- The reference here. -/
def iri? (a : Adapter kinds) : Option String := (kinds a.kind).iri? a.cursor

/-- The object here. -/
def object? (a : Adapter kinds) : Option Json := (kinds a.kind).object? a.cursor

/-- The adapter at the following element. -/
def next (a : Adapter kinds) : Adapter kinds := { a with cursor := (kinds a.kind).next a.cursor }

/-- The adapter at the end of its owner, wherever it stands now. -/
def stop (a : Adapter kinds) : Adapter kinds := { a with cursor := (kinds a.kind).stop a.owner }

/-- Whether two adapters are of one kind, with the same owner at the same cursor. -/
def equals (a b : Adapter kinds) : Bool :=
  if h : b.kind = a.kind then
    decide (a.owner = h ▸ b.owner) && (kinds a.kind).sameCursor a.cursor (h ▸ b.cursor)
  else false

/-- A walk over a property: the adapters on the way, and whether it came to the end. -/
structure Walk (kinds : κ → PropertyKind) where
  visited : List (Adapter kinds)
  finished : Bool

/-- Walks from an adapter until it equals its own end, with at most `limit` visits. -/
def walk : (limit : Nat) → Adapter kinds → Walk kinds
  | 0, a => ⟨[], a.equals a.stop⟩
  | limit + 1, a =>
    if a.equals a.stop then ⟨[], true⟩
    else
      let rest := walk limit a.next
      ⟨a :: rest.visited, rest.finished⟩

end Adapter

end UniformIter
