import UniformIter.Naming.Identifier

/-!
# Snake case

A name in camel or Pascal case is spelled in lower case with underscores between its words:
`beginIter` becomes `begin_iter` and `IRIBegin` becomes `iri_begin`.
-/

namespace UniformIter

/-- The capital letters of ASCII. -/
def isCapital (c : Char) : Bool := 'A' ≤ c && c ≤ 'Z'

/-- The small letters of ASCII. -/
def isSmall (c : Char) : Bool := 'a' ≤ c && c ≤ 'z'

/-- Whether a word begins at `c` between its neighbours: a capital letter after a small letter
or a digit, or the last capital of a run before a small letter. -/
def startsWord (previous : Option Char) (c : Char) (next : Option Char) : Bool :=
  match previous with
  | none => false
  | some p =>
    isCapital c &&
      (isSmall p || p.isDigit || (isCapital p && next.any isSmall))

/-- Spells the rest of a name. `written` holds the spelling so far, last character first; it
never gets an underscore behind an underscore. -/
def spellSnake (previous : Option Char) (written : List Char) : List Char → List Char
  | [] => written.reverse
  | c :: r =>
    let parted :=
      if startsWord previous c r.head? && written.head? != some '_' then '_' :: written
      else written
    spellSnake (some c) (c.toLower :: parted) r

/-- A name in snake case. -/
def snakeCase (name : String) : String := String.ofList (spellSnake none [] name.toList)

end UniformIter
