import Mathlib.Logic.Function.Iterate
import UniformIter.Proofs.Iteration.Dispatch

/-!
# Steps of an adapter

A step makes a new adapter out of an old one, at the following element or at the end. The owner
goes with it, and the cursor is the one that the same steps give without any adapter
(`PropertyKind.cursorAfter`). One step keeps this (`Adapter.StandsAt.stepped`), and so do any
number of them (`Adapter.StandsAt.steppedBy`), whatever the cursors of the kind are and wherever
they go behind the end. `Dispatcher.steps_of_begin` says so of the adapters that a dispatcher
answers with.
-/

namespace UniformIter

/-- A step to the following element, or to the end. -/
inductive Step where
  | next
  | stop
  deriving DecidableEq

namespace PropertyKind

variable (K : PropertyKind) (o : K.Owner)

/-- The cursor after a step over an owner. The end does not depend on the cursor before it. -/
def cursorStep (c : K.Cursor) : Step → K.Cursor
  | .next => K.next c
  | .stop => K.stop o

/-- The cursor after steps from the first element of an owner. -/
def cursorAfter (steps : List Step) : K.Cursor := steps.foldl (K.cursorStep o) (K.first o)

theorem foldl_nexts (c : K.Cursor) (n : Nat) :
    (List.replicate n Step.next).foldl (K.cursorStep o) c = K.next^[n] c := by
  induction n generalizing c with
  | zero => rfl
  | succ n ih =>
    rw [List.replicate_succ, List.foldl_cons, ih, Function.iterate_succ_apply]
    rfl

/-- Once the end was gone to, only the steps behind that count. -/
theorem cursorAfter_stop (before : List Step) (n : Nat) :
    K.cursorAfter o (before ++ .stop :: List.replicate n .next) = K.next^[n] (K.stop o) := by
  rw [cursorAfter, List.foldl_append, List.foldl_cons, foldl_nexts]
  rfl

end PropertyKind

variable {κ : Type} {kinds : κ → PropertyKind}

namespace Adapter

/-- The adapter after a step. -/
def stepped (a : Adapter kinds) : Step → Adapter kinds
  | .next => a.next
  | .stop => a.stop

/-- The adapter after steps, one after the other. -/
def steppedBy (a : Adapter kinds) (steps : List Step) : Adapter kinds := steps.foldl stepped a

/-- An adapter of an owner tells what the cursor tells that it stands at. -/
structure StandsAt (a : Adapter kinds) (k : κ) (o : (kinds k).Owner) (c : (kinds k).Cursor) :
    Prop where
  place : a = ⟨k, o, c⟩
  hasAny : a.hasAny = (kinds k).hasAny c
  isIri : a.isIri = (kinds k).isIri c
  iri? : a.iri? = (kinds k).iri? c
  object? : a.object? = (kinds k).object? c

namespace StandsAt

variable {a : Adapter kinds} {k : κ} {o : (kinds k).Owner} {c : (kinds k).Cursor}

theorem of_place (h : a = ⟨k, o, c⟩) : a.StandsAt k o c := by
  subst h
  exact ⟨rfl, rfl, rfl, rfl, rfl⟩

/-- One step: the owner stays, and the cursor makes the step. -/
theorem stepped (h : a.StandsAt k o c) (step : Step) :
    (a.stepped step).StandsAt k o ((kinds k).cursorStep o c step) := by
  apply of_place
  rw [h.place]
  cases step with
  | next => rfl
  | stop => rfl

/-- Any number of steps: the owner stays, and the cursor makes them all. -/
theorem steppedBy (h : a.StandsAt k o c) (steps : List Step) :
    (a.steppedBy steps).StandsAt k o (steps.foldl ((kinds k).cursorStep o) c) := by
  induction steps generalizing a c with
  | nil => exact h
  | cons step steps ih => exact ih (h.stepped step)

end StandsAt

end Adapter

/-- A dispatcher answers with an adapter of the value itself. After any steps this has the same
owner, stands at the cursor that the same steps give from the owner's first element, and tells
what this cursor tells. Behind the last step to the end nothing that came before counts. -/
theorem Dispatcher.steps_of_begin [DecidableEq κ] {d : Dispatcher kinds} {v : Dynamic kinds}
    {a : Adapter kinds} (h : d.begin (some v) = .ok a) :
    ∃ k o, v = .property k o ∧
      (∀ steps, (a.steppedBy steps).StandsAt k o ((kinds k).cursorAfter o steps)) ∧
      ∀ before n, (a.steppedBy (before ++ .stop :: List.replicate n .next)).StandsAt k o
        ((kinds k).next^[n] ((kinds k).stop o)) := by
  obtain ⟨k, o, hv, -, ha⟩ := begin_some_eq_ok_iff.mp h
  have hfirst : a.StandsAt k o ((kinds k).first o) := .of_place ha
  refine ⟨k, o, hv, hfirst.steppedBy, ?_⟩
  intro before n
  rw [← PropertyKind.cursorAfter_stop]
  exact hfirst.steppedBy _

/-- A kind whose cursor is a bare number, which goes on behind the end. -/
def openEnded : PropertyKind where
  Owner := Shared Nat
  Cursor := Nat
  sameOwner := inferInstance
  iteratorType := "FooIterator"
  typeName := "Foo"
  first _ := 0
  stop o := o.value
  next c := c + 1
  sameCursor a b := a == b
  hasAny _ := true
  isIri _ := false
  iri? _ := none
  object? _ := none

/-- An owner of three elements, dispatched, moved on, sent to the end and moved on twice, stands
two behind the end. -/
theorem Dispatcher.steps_of_begin_openEnded :
    ∃ (d : Dispatcher fun _ : Unit => openEnded) (a : Adapter fun _ : Unit => openEnded),
      d.begin (some (.property () (Shared.mk 7 3))) = .ok a ∧
      (a.steppedBy [.next, .stop, .next, .next]).StandsAt () (Shared.mk 7 3) (5 : Nat) := by
  have hname : nameFault? "FooIterator" = none := by decide
  let d : Dispatcher fun _ : Unit => openEnded := ⟨true, [⟨⟨⟨"FooIterator", hname⟩, true⟩, ()⟩]⟩
  have hbegin : d.begin (some (.property () (Shared.mk 7 3))) =
      .ok ⟨(), Shared.mk 7 3, (0 : Nat)⟩ :=
    rfl
  refine ⟨d, _, hbegin, ?_⟩
  obtain ⟨k, o, hv, -, hafter⟩ := steps_of_begin hbegin
  cases hv
  exact hafter [.next] 2

end UniformIter
