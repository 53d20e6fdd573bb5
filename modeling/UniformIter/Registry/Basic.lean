import UniformIter.Naming.IteratorName

/-!
# Registries

A registry lists iterator types in the order in which a generated unit treats them. Some of
them are registered only: they get no adapter. No name occurs twice.
-/

namespace UniformIter

/-- An iterator type of a registry, and whether it gets an adapter. -/
structure Entry where
  iterator : IteratorName
  supported : Bool
  deriving DecidableEq

/-- The container that an entry's iterator visits. -/
def Entry.container (e : Entry) : ContainerName := e.iterator.container

/-- Iterator types in order, none of them twice. -/
structure Registry where
  entries : List Entry
  nodup : (entries.map (·.iterator)).Nodup
  deriving DecidableEq

/-- Why names do not make a registry. -/
inductive RegistryFault where
  | malformed (name : String) (fault : NameFault)
  | duplicate (name : String)
  | other (message : String)
  deriving Repr, DecidableEq

/-- The message about a registry. -/
def RegistryFault.message : RegistryFault → String
  | .malformed name f => f.message name
  | .duplicate name => s!"duplicate iterator type name: '{name}'"
  | .other m => m

namespace Registry

/-- The registry without entries. -/
def empty : Registry := ⟨[], List.nodup_nil⟩

/-- The iterator types of a registry. -/
def names (r : Registry) : List IteratorName := r.entries.map (·.iterator)

/-- The entries that get an adapter, in order. -/
def supported (r : Registry) : List Entry := r.entries.filter (·.supported)

/-- The entries that get no adapter, in order. -/
def unsupported (r : Registry) : List Entry := r.entries.filter fun e => !e.supported

/-- The entry of an iterator type. -/
def get? (r : Registry) (name : String) : Option Entry :=
  r.entries.find? fun e => e.iterator.text == name

/-- Whether an iterator type is registered and gets an adapter. -/
def isSupported (r : Registry) (name : String) : Bool := (r.get? name).any (·.supported)

/-- The registry with a new entry at its end. -/
def add (r : Registry) (e : Entry) (h : e.iterator ∉ r.names) : Registry where
  entries := r.entries ++ [e]
  nodup := by
    rw [List.map_append, List.nodup_append]
    refine ⟨r.nodup, by simp, ?_⟩
    intro a ha b hb
    simp only [List.map_cons, List.map_nil, List.mem_singleton] at hb
    subst hb
    exact fun he => h (he ▸ ha)

/-- Adds names up to the first fault. The registry so far comes with it. -/
def collect (r : Registry) : List (String × Bool) → Registry × Option RegistryFault
  | [] => (r, none)
  | (name, supported) :: more =>
    match IteratorName.ofText name with
    | .error f => (r, some (.malformed name f))
    | .ok n =>
      if h : n ∈ r.names then (r, some (.duplicate name))
      else collect (r.add ⟨n, supported⟩ h) more

/-- The names of two lists, the supported ones first. -/
def marked (supported unsupported : List String) : List (String × Bool) :=
  supported.map (·, true) ++ unsupported.map (·, false)

/-- The registry of supported names followed by unsupported ones. -/
def ofNames (supported unsupported : List String) : Except RegistryFault Registry :=
  match collect empty (marked supported unsupported) with
  | (r, none) => .ok r
  | (_, some f) => .error f

/-- The unsupported entries that were accepted before the first fault, if there is one. -/
def acceptedUnsupported (supported unsupported : List String) : List Entry :=
  (collect empty (marked supported unsupported)).1.unsupported

@[simp] theorem entries_add (r : Registry) (e : Entry) (h : e.iterator ∉ r.names) :
    (r.add e h).entries = r.entries ++ [e] := rfl

@[simp] theorem entries_empty : empty.entries = [] := rfl

end Registry

end UniformIter
