import UniformIter.Failure
import UniformIter.Settings.Basic

/-!
# Renderers

A unit consists of a preamble, a dispatch function and one adapter for each supported entry,
in this order. A renderer writes these parts in one target language, and the first part that
it cannot write ends the work.
-/

namespace UniformIter

/-- The first line of every generated unit. -/
def banner : String := "// Code generated by iterbridge. DO NOT EDIT."

/-- Lines as one text. -/
def unlines (lines : List String) : String := String.join (lines.map (· ++ "\n"))

/-- A part of a unit. -/
inductive UnitPart where
  | preamble
  | dispatch
  | adapter (entry : Entry)
  deriving DecidableEq

/-- The parts of a unit, in order. -/
def unitParts (r : Registry) : List UnitPart :=
  .preamble :: .dispatch :: r.supported.map .adapter

/-- What writes units in one target language. -/
structure Renderer where
  name : String
  description : String
  /-- The extension of files that hold its units. -/
  extension : String
  preamble : Settings → Except Failure String
  dispatch : Settings → Except Failure String
  adapter : Settings → Entry → Except Failure String

namespace Renderer

/-- The text of a part. -/
def part (r : Renderer) (s : Settings) : UnitPart → Except Failure String
  | .preamble => r.preamble s
  | .dispatch => r.dispatch s
  | .adapter e => r.adapter s e

/-- A unit in the making: which parts were asked for, and what came of them. -/
structure Assembly where
  asked : List UnitPart
  outcome : Except Failure String

/-- Asks for one part after another, up to the first that fails, and puts each behind what is
`written` so far. -/
def assemble (r : Renderer) (s : Settings) (written : String) : List UnitPart → Assembly
  | [] => ⟨[], .ok written⟩
  | p :: more =>
    match r.part s p with
    | .error f => ⟨[p], .error f⟩
    | .ok text =>
      let rest := r.assemble s (written ++ text) more
      ⟨p :: rest.asked, rest.outcome⟩

/-- The whole unit. -/
def unit (r : Renderer) (s : Settings) : Except Failure String :=
  (r.assemble s "" (unitParts s.registry)).outcome

end Renderer

end UniformIter
