import UniformIter.Keyed
import UniformIter.Unit.Go
import UniformIter.Unit.Rust

/-!
# Catalogues of renderers

A catalogue keeps renderers by their names, in ascending order of the names. The renderer that
a target names writes its units.
-/

namespace UniformIter

/-- Renderers by their names. -/
structure Catalogue where
  renderers : List Renderer

namespace Catalogue

/-- The catalogue without renderers. -/
def empty : Catalogue := ⟨[]⟩

/-- Adds a renderer under its own name, in place of another one of that name. -/
def add (c : Catalogue) (r : Renderer) : Catalogue :=
  ⟨Keyed.insert Renderer.name r c.renderers⟩

/-- The renderer with a name. -/
def get? (c : Catalogue) (name : String) : Option Renderer :=
  Keyed.find? Renderer.name name c.renderers

/-- The names of all renderers, in ascending order. -/
def names (c : Catalogue) : List String := c.renderers.map (·.name)

/-- The catalogue of the renderers that come with the program. -/
def standard : Catalogue := (empty.add Go.renderer).add Rust.renderer

end Catalogue

/-- The renderer that the target of settings names. -/
def Settings.renderer (s : Settings) : Except Failure Renderer :=
  match Catalogue.standard.get? s.target with
  | some r => .ok r
  | none => .error (.settings (.unknownTarget s.target Catalogue.standard.names))

/-- The unit that settings stand for. -/
def Settings.unit (s : Settings) : Except Failure String :=
  match s.renderer with
  | .ok r => r.unit s
  | .error f => .error f

end UniformIter
