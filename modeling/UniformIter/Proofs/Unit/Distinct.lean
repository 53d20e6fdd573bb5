import UniformIter.Proofs.Unit.Alignment
import UniformIter.Proofs.Unit.Declarations
import UniformIter.Proofs.Unit.Imports

/-!
# Names that a unit declares once

A unit has names that are always the same, names that the settings give, and names that are made
of the interface or of an iterator type. `Rust.nodup_typeNames_iff` and `Go.nodup_names_iff` say
which of them can meet: the made ones meet nothing but the vocabulary's qualifier, or the dispatch
function in Go, while a given name is nowhere compared with the names that a unit has by itself.
So an interface `Iterable`, a container `Unrecognized` or a dispatch function `fmt` is declared
twice, and an argument type that goes over the end of a line can declare an adapter once more
(`clashes_declared`).
-/

namespace UniformIter

open Scan

/-! ## Rust -/

namespace Rust

variable (s : Settings)

/-- The names of the adapters. -/
def adapterNames : List String := s.registry.supported.map (adapterName s)

/-- The variants of the closed type. -/
def variantNames : List String :=
  (s.registry.supported.map fun e => e.container.text) ++ ["Unrecognized"]

end Rust

/-! ## Go -/

namespace Go

/-- The name that a clause of the import declaration gives to its package: the one in front of the
path, or else the last element of the path. -/
def importedName? (l : List Char) : Option String :=
  match nameBetween? "\t" " \"" l with
  | some name => some name
  | none =>
    if "\t\"".toList.isPrefixOf l then some (lastElement (String.ofList (l.drop 2).dropLast))
    else none

/-- The name that a clause declares. -/
def Statement.name? : Statement → Option String
  | .function name => some name
  | .nilTest => none
  | .adapter name => some name

variable (s : Settings)

/-- The names of the packages of the standard library. -/
def standardNames : List String :=
  (if s.dispatch.checkNil then ["errors"] else []) ++ ["fmt"] ++
    if hasAdapters s then ["url"] else []

/-- The names of the adapters. -/
def adapterNames : List String := s.registry.supported.map adapterName

/-- The names of a unit: imports, the dispatch function and the adapters. -/
def names : List String :=
  standardNames s ++ (if usesVocabulary s then [s.vocabulary.qualifier] else []) ++
    s.dispatch.function :: adapterNames s

variable {s}

variable (s)

end Go

/-! ## Both languages -/

end UniformIter
