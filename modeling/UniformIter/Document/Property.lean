import UniformIter.Document.BlockScalar
import UniformIter.Document.Tag

/-!
# Anchors, tags and directives

Reads what may stand before a node or before a document: the name of an anchor or alias, a
tag in any of its three spellings, and the two directives.
-/

namespace UniformIter.Document

/-- The characters of a tag that need no escape. Inside angle brackets a few more are taken. -/
def isTagChar (bracketed : Bool) (c : Char) : Bool :=
  isWordChar c || c == ';' || c == '/' || c == '?' || c == ':' || c == '@' || c == '&' ||
    c == '=' || c == '+' || c == '$' || c == '.' || c == '%' || c == '!' || c == '~' ||
    c == '*' || c == '\x27' || c == '(' || c == ')' ||
    (bracketed && (c == ',' || c == '[' || c == ']'))

/-- Reads an octet written as a percent sign and two digits. -/
def readOctet : List Char → Option (UInt8 × List Char)
  | '%' :: a :: b :: r => do
    let x ← hexValue? a
    let y ← hexValue? b
    some (UInt8.ofNat (16 * x + y), r)
  | _ => none

/-- Reads `n` octets that continue a character onto `acc`, last one first. -/
def readContinuation (acc : List UInt8) : Nat → List Char → Option (List UInt8 × List Char)
  | 0, s => some (acc, s)
  | n + 1, s => do
    let (o, r) ← readOctet s
    if 0x80 ≤ o && o < 0xC0 then readContinuation (o :: acc) n r else none

/-- How many octets have to follow the one that begins a character. -/
def continuations (o : UInt8) : Option Nat :=
  if o < 0x80 then some 0
  else if o < 0xC0 then none
  else if o < 0xE0 then some 1
  else if o < 0xF0 then some 2
  else if o < 0xF8 then some 3
  else none

/-- Reads the escaped octets of one character onto `acc`, and how many characters that took.
Only the form of the octets counts: which character they mean does not. -/
def readEscapedChar (acc : List UInt8) (s : List Char) :
    Option (List UInt8 × Nat × List Char) := do
  let (o, r) ← readOctet s
  let n ← continuations o
  let (octets, r') ← readContinuation (o :: acc) n r
  some (octets, 3 * (n + 1), r')

/-- Reads the octets of a tag onto `acc`, last one first, and counts the characters that were
read. `fuel` bounds their number. -/
def readTagText (bracketed : Bool) (acc : List UInt8) (n : Nat) :
    (fuel : Nat) → List Char → Option (List UInt8 × Nat × List Char)
  | 0, s => some (acc, n, s)
  | _ + 1, [] => some (acc, n, [])
  | fuel + 1, c :: r =>
    if c == '%' then do
      let (acc', m, r') ← readEscapedChar acc (c :: r)
      readTagText bracketed acc' (n + m) fuel r'
    else if isTagChar bracketed c then
      readTagText bracketed (UInt8.ofNat c.toNat :: acc) (n + 1) fuel r
    else some (acc, n, c :: r)

/-- A part of a tag from its octets, last one first. -/
def tagPart (acc : List UInt8) : List UInt8 := Tag.untilZero acc.reverse

/-- A tag as it is written: a handle that abbreviates, and what follows it. -/
structure TagSpelling where
  handle : String
  suffix : List UInt8
  deriving Repr, DecidableEq

/-- Reads a tag without the check of what follows it. A handle is empty for a tag in angle
brackets and for the exclamation mark that nothing follows. -/
def readTagSpelling : List Char → Option (TagSpelling × Nat × List Char)
  | '!' :: '<' :: r => do
    let (text, n, r') ← readTagText true [] 0 r.length r
    match text, r' with
    | _ :: _, '>' :: r'' => some (⟨"", tagPart text⟩, n + 3, r'')
    | _, _ => none
  | '!' :: r => do
    let word := r.takeWhile isWordChar
    match r.dropWhile isWordChar with
    | '!' :: r' =>
      let (text, n, r'') ← readTagText false [] 0 r'.length r'
      if text.isEmpty then none
      else
        some (⟨String.ofList ('!' :: word ++ ['!']), tagPart text⟩, word.length + 2 + n, r'')
    | r' =>
      let octets := word.reverse.map fun c => UInt8.ofNat c.toNat
      let (text, n, r'') ← readTagText false octets 0 r'.length r'
      let suffix := tagPart text
      let tag : TagSpelling := if suffix.isEmpty then ⟨"", [Tag.mark]⟩ else ⟨"!", suffix⟩
      some (tag, word.length + 1 + n, r'')
  | _ => none

/-- Reads a tag. A gap has to follow it, or a comma inside flow collections. -/
def readTag (inFlow : Bool) (s : List Char) : Option (TagSpelling × Nat × List Char) := do
  let (tag, n, r) ← readTagSpelling s
  if startsGapOrEnd r || (inFlow && r.head? == some ',') then some (tag, n, r) else none

/-- The characters that may directly follow an anchor's name. -/
def endsName : List Char → Bool
  | [] => true
  | c :: _ =>
    isGap c || c == '?' || c == ':' || c == ',' || c == ']' || c == '\x7d' || c == '%' ||
      c == '@' || c == '\x60'

/-- Reads the name of an anchor or alias after its indicator. -/
def readName (s : List Char) : Option (String × Nat × List Char) :=
  let word := s.takeWhile isWordChar
  let r := s.dropWhile isWordChar
  if !word.isEmpty && endsName r then some (String.ofList word, word.length, r) else none

/-- A directive before a document. -/
inductive Directive where
  | version (major minor : Nat)
  | abbreviation (handle : String) (expansion : List UInt8)
  deriving Repr, DecidableEq

/-- Reads a number of at most nine digits. -/
def readNumber (s : List Char) : Option (Nat × List Char) :=
  let digits := s.takeWhile Char.isDigit
  if digits.isEmpty || 9 < digits.length then none
  else some (digits.foldl (fun n c => 10 * n + (c.toNat - 48)) 0, s.dropWhile Char.isDigit)

/-- Reads the version that a directive names. -/
def readVersion (s : List Char) : Option (Directive × List Char) := do
  let (major, r) ← readNumber (s.dropWhile isBlank)
  match r with
  | '.' :: r' =>
    let (minor, r'') ← readNumber r'
    some (.version major minor, r'')
  | _ => none

/-- Reads the handle of an abbreviation: `!`, or a word between two exclamation marks. -/
def readHandle : List Char → Option (List Char × List Char)
  | '!' :: r =>
    let word := r.takeWhile isWordChar
    match r.dropWhile isWordChar with
    | '!' :: r' => some ('!' :: word ++ ['!'], r')
    | r' => if word.isEmpty then some (['!'], r') else none
  | _ => none

/-- Reads the abbreviation that a directive introduces. -/
def readAbbreviation (s : List Char) : Option (Directive × List Char) := do
  let (handle, r) ← readHandle (s.dropWhile isBlank)
  match r with
  | c :: _ =>
    if isBlank c then
      let r' := r.dropWhile isBlank
      let (text, _, r'') ← readTagText true [] 0 r'.length r'
      if !text.isEmpty && startsGapOrEnd r'' then
        some (.abbreviation (String.ofList handle) (tagPart text), r'')
      else none
    else none
  | [] => none

/-- Reads a directive after its percent sign, to the end of its line. -/
def readDirective (p : Position) (s : List Char) : Option (Directive × Position × List Char) := do
  let name := s.takeWhile isWordChar
  let r := s.dropWhile isWordChar
  if !startsGapOrEnd r then none
  else
    let (d, r') ←
      if name == "YAML".toList then readVersion r
      else if name == "TAG".toList then readAbbreviation r
      else none
    let (q, r'') ← endLine? p r'
    some (d, q, r'')

end UniformIter.Document
