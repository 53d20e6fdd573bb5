/-!
# Padding

A text brought to a width: cut first if a greatest length is given, then filled up on one or
both sides. Widths count characters.
-/

namespace UniformIter.Text

/-- Where a text stands in a field that is too wide for it. -/
inductive Alignment where
  | left
  | right
  | center
  deriving Repr, DecidableEq

/-- A field to put a text into. -/
structure Field where
  alignment : Alignment
  fill : Char
  width : Nat
  /-- The greatest length of the text. -/
  precision : Option Nat
  deriving Repr, DecidableEq

/-- A field of the given width that is filled with spaces on the right. -/
def Field.column (width : Nat) : Field := ⟨.left, ' ', width, none⟩

/-- The characters of a text in a field. In the centre, an odd one out goes to the right. -/
def Field.pad (f : Field) (s : List Char) : List Char :=
  let kept := match f.precision with
    | some n => s.take n
    | none => s
  let missing := f.width - kept.length
  let before := match f.alignment with
    | .left => 0
    | .right => missing
    | .center => missing / 2
  List.replicate before f.fill ++ kept ++ List.replicate (missing - before) f.fill

/-- A text in a field. -/
def Field.show (f : Field) (s : String) : String := String.ofList (f.pad s.toList)

end UniformIter.Text
