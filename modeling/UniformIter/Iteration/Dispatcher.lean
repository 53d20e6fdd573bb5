import UniformIter.Iteration.Adapter
import UniformIter.Settings.Basic
import UniformIter.Text.Unprintable

/-!
# Dispatch at run time

A dispatcher does at run time what the dispatch function of a generated unit does: it looks
for the first case whose kind a value has, and answers with an adapter at its first element.
There is a case for each supported entry of the registry, in order, that some kind is bound
to; of several kinds with one name the first bound one counts.
-/

namespace UniformIter

variable {κ : Type} [DecidableEq κ]

/-- A value whose kind shows only at run time. -/
inductive Dynamic (kinds : κ → PropertyKind) where
  | property (kind : κ) (owner : (kinds kind).Owner)
  /-- A value that is no property, by the name of its type. -/
  | plain (typeName : String) (value : Json)

namespace Dynamic

variable {kinds : κ → PropertyKind}

/-- The name of a value's type. -/
def typeName : Dynamic kinds → String
  | property k _ => (kinds k).typeName
  | plain t _ => t

/-- The owner that a value is, if it is of this kind. -/
def owner? (k : κ) : Dynamic kinds → Option (kinds k).Owner
  | property j o => if h : j = k then some (h ▸ o) else none
  | plain _ _ => none

/-- The value itself, if it is no property and has a type of this name. -/
def plain? (t : String) : Dynamic kinds → Option Json
  | property _ _ => none
  | plain u v => if u = t then some v else none

/-- How messages show a value. -/
def debugText (v : Dynamic kinds) : String :=
  "Dynamic \x7b type_name: " ++ Text.quoted v.typeName ++ ", .. \x7d"

/-- The adapter at the first element of a value, if it is of this kind. -/
def adapter? (k : κ) (v : Dynamic kinds) : Option (Adapter kinds) := (v.owner? k).map (.first k)

end Dynamic

/-- Why a value cannot be iterated. -/
inductive DispatchFault where
  /-- There is no value. -/
  | invalidArgument
  | unsupportedType (typeName : String)
  deriving Repr, DecidableEq

/-- The message about a value. -/
def DispatchFault.message : DispatchFault → String
  | .invalidArgument => "nil argument"
  | .unsupportedType t => s!"type={t} not supported"

/-- What a missing value is called where it is not checked for. -/
def nilTypeName : String := "<nil>"

/-- A case: an entry of the registry and the kind that is bound to it. -/
structure DispatchCase (κ : Type) where
  entry : Entry
  kind : κ

/-- Cases in the order in which they are tried. -/
structure Dispatcher (kinds : κ → PropertyKind) where
  checkNil : Bool
  cases : List (DispatchCase κ)

namespace Dispatcher

variable {kinds : κ → PropertyKind}

/-- The first of the bound kinds with the name of an entry. -/
def binding? (kinds : κ → PropertyKind) (bindings : List κ) (e : Entry) : Option κ :=
  bindings.find? fun k => (kinds k).iteratorType == e.iterator.text

/-- The dispatcher of a unit with these settings, for kinds bound in this order. -/
def ofBindings (kinds : κ → PropertyKind) (s : Settings) (bindings : List κ) :
    Dispatcher kinds where
  checkNil := s.dispatch.checkNil
  cases := s.registry.supported.filterMap fun e => (binding? kinds bindings e).map (⟨e, ·⟩)

/-- The bound names that no case can come from, in order. -/
def unusedNames (kinds : κ → PropertyKind) (s : Settings) (bindings : List κ) : List String :=
  (bindings.map fun k => (kinds k).iteratorType).filter fun n => !s.registry.isSupported n

/-- The first case that a value meets, with the adapter it gives. -/
def meet? (d : Dispatcher kinds) (v : Dynamic kinds) : Option (Entry × Adapter kinds) :=
  d.cases.findSome? fun c => (v.adapter? c.kind).map (c.entry, ·)

/-- The adapter at the first element of a value. -/
def begin (d : Dispatcher kinds) : Option (Dynamic kinds) → Except DispatchFault (Adapter kinds)
  | none => .error (if d.checkNil then .invalidArgument else .unsupportedType nilTypeName)
  | some v =>
    match d.meet? v with
    | some (_, a) => .ok a
    | none => .error (.unsupportedType v.typeName)

/-- The containers with a case, in the order of the cases. -/
def containers (d : Dispatcher kinds) : List ContainerName := d.cases.map (·.entry.container)

/-- How messages show a dispatcher. -/
def debugText (d : Dispatcher kinds) : String :=
  s!"Dispatcher \x7b check_nil_argument: {d.checkNil}, containers: [" ++
    ", ".intercalate (d.containers.map ContainerName.debugText) ++ "] \x7d"

end Dispatcher

end UniformIter
