import UniformIter.Iri.Address
import UniformIter.Iri.Folding
import UniformIter.Iri.Punycode

/-!
# Hosts

What may stand for a host: an address, or a name. A name of the web is written in ASCII, its
labels with other characters encoded; the names of other schemes are taken as they are.
-/

namespace UniformIter.Iri

/-- The characters that no name holds: those that part a reference into its pieces, and a few
more. -/
def isReserved (c : Char) : Bool :=
  ['#', '/', ':', '<', '>', '?', '@', '[', '\\', ']', '^', '|'].contains c

/-- Whether a name of the web may hold a character. -/
def isNameChar (c : Char) : Bool :=
  0x20 < c.toNat && c.toNat < 0x7F && c != '%' && !isReserved c

/-- Whether a name of any other scheme may hold a character. It is taken as it is, a percent sign
and characters beyond ASCII with it. -/
def isOpaqueChar (c : Char) : Bool :=
  !isReserved c && ! ['\x00', '\t', '\n', '\r', ' '].contains c

/-- Whether characters are those of a label that has to be encoded: some are beyond ASCII, names
keep all of these, and the first one is no mark. -/
def isInternational (s : List Char) : Bool :=
  s.any (fun c => 0x80 ≤ c.toNat) && s.all (fun c => c.toNat < 0x80 || isKept c) &&
    !s.head?.any Text.isMark

/-- Whether a label is no encoded one, or one that encodes what has to be. -/
def isLabel (s : List Char) : Bool :=
  match s.map Char.toLower with
  | 'x' :: 'n' :: '-' :: '-' :: r => (decodeLabel r).any isInternational
  | _ => true

/-- Whether a text is a name of the web. One that ends in a number is an address. -/
def isName (s : List Char) : Bool :=
  let parts := labels s
  !s.isEmpty && s.all isNameChar && parts.all isLabel &&
    (!endsInNumber parts || isAddress parts)

/-- Whether a text is an address in brackets, or else has the given form. -/
def isBracketedOr (form : List Char → Bool) (s : List Char) : Bool :=
  match s with
  | '[' :: r => r.getLast? == some ']' && isLongAddress r.dropLast
  | _ => form s

/-- Whether a text is a host of the web. -/
def isHost (s : List Char) : Bool := isBracketedOr isName s

/-- Whether a text is a host of any other scheme. It may be empty. -/
def isOpaqueHost (s : List Char) : Bool := isBracketedOr (fun t => t.all isOpaqueChar) s

end UniformIter.Iri
