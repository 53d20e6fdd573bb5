import UniformIter.Naming.Identifier
import UniformIter.Text.Unprintable

/-!
# Names of iterator types

An iterator type is named for the container whose elements it visits, with `Iterator` at the
end. The name of the container is what stands before that ending, which is taken off once.
-/

namespace UniformIter

/-- The ending of every iterator type's name. -/
def iteratorSuffix : String := "Iterator"

/-- What a list holds before an ending. -/
def beforeSuffix? (suffix s : List Char) : Option (List Char) :=
  if suffix.isSuffixOf s then some (s.take (s.length - suffix.length)) else none

/-- Why a text is no name of an iterator type. -/
inductive NameFault where
  | notIdentifier
  | noContainer
  | noSuffix
  deriving Repr, DecidableEq

/-- The message about a name. -/
def NameFault.message (name : String) : NameFault → String
  | .notIdentifier => s!"iterator type name '{name}' is not a valid identifier"
  | .noContainer => s!"iterator type name '{name}' has no container part"
  | .noSuffix => s!"iterator type name '{name}' does not end with '{iteratorSuffix}'"

/-- The name of a container. -/
structure ContainerName where
  text : String
  deriving Repr, DecidableEq

/-- How messages show the name of a container. -/
def ContainerName.debugText (c : ContainerName) : String :=
  "ContainerTypeName(" ++ Text.quoted c.text ++ ")"

/-- The container that an iterator type's name tells of. -/
def containerOf (name : String) : Except NameFault ContainerName :=
  match beforeSuffix? iteratorSuffix.toList name.toList with
  | none => .error .noSuffix
  | some [] => .error .noContainer
  | some cs => .ok ⟨String.ofList cs⟩

/-- What is wrong with the name of an iterator type, if anything is. -/
def nameFault? (name : String) : Option NameFault :=
  if !isIdentifier name then some .notIdentifier
  else
    match containerOf name with
    | .error f => some f
    | .ok _ => none

/-- The name of an iterator type: an identifier that tells of a container. -/
structure IteratorName where
  text : String
  sound : nameFault? text = none
  deriving DecidableEq

namespace IteratorName

instance : Repr IteratorName := ⟨fun n _ => repr n.text⟩

/-- How messages show the name of an iterator type. -/
def debugText (n : IteratorName) : String := "IteratorTypeName(" ++ Text.quoted n.text ++ ")"

/-- Takes a text as the name of an iterator type. -/
def ofText (text : String) : Except NameFault IteratorName :=
  match h : nameFault? text with
  | some f => .error f
  | none => .ok ⟨text, h⟩

/-- The container whose elements the iterator visits. -/
def container (n : IteratorName) : ContainerName :=
  match containerOf n.text with
  | .ok c => c
  | .error _ => ⟨n.text⟩

/-- A name tells of its container. -/
theorem containerOf_text (n : IteratorName) : containerOf n.text = .ok n.container := by
  have h := n.sound
  rw [nameFault?] at h
  split at h
  next => exact absurd h (by simp)
  next =>
    cases hc : containerOf n.text with
    | error f => rw [hc] at h; exact absurd h (by simp)
    | ok c => rw [container, hc]

/-- A text is taken exactly if nothing is wrong with it. -/
theorem ofText_eq_ok_iff {text : String} {n : IteratorName} :
    ofText text = .ok n ↔ n.text = text := by
  constructor
  · intro h
    rw [ofText] at h
    split at h
    next => exact absurd h (by simp)
    next => rw [← Except.ok.inj h]
  · intro h
    subst h
    rw [ofText]
    split
    next f hf => rw [n.sound] at hf; exact absurd hf (by simp)
    next => rfl

end IteratorName

end UniformIter
