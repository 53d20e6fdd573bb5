import UniformIter.Document.Token
import UniformIter.Document.PlainScalar
import UniformIter.Document.Property

/-!
# From text to tokens

Cuts a document into tokens. The state holds the text not yet read, the columns of the open
blocks, and for each nesting of flow collections the place where a mapping key may have
begun: only the colon after it tells, and then the `key` token is put in at that place.

`tokenize` ends with an `unreadable` token where the text has no tokens: at a forbidden
character, an unfinished scalar, an indicator where none may stand, a required key without its
colon. Before it stand the tokens that were settled by then.
-/

namespace UniformIter.Document

/-- A place where a mapping key may have begun. -/
structure PendingKey where
  /-- Whether nothing but a key can stand here, so that a missing colon is an error. -/
  required : Bool
  /-- How many tokens come before it. -/
  index : Nat
  position : Position
  /-- The column up to which its octets are counted. -/
  column : Nat
  octets : Nat
  /-- The text from that column on. -/
  text : List Char
  deriving Repr, DecidableEq

/-- A mapping key found by its colon may not take more octets than this. -/
def longestKey : Nat := 1024

namespace PendingKey

/-- Counts the octets up to a later column of the same line. -/
def follow (k : PendingKey) (column : Nat) : PendingKey :=
  let n := column - k.column
  { k with
    column
    octets := (k.text.take n).foldl (fun octets c => octets + c.utf8Size) k.octets
    text := k.text.drop n }

/-- The key if it is still possible at position `p`: a key ends on the line where it began and
within `longestKey` octets. -/
def reach? (k : PendingKey) (p : Position) : Option PendingKey :=
  if k.position.line < p.line then none
  else
    let k' := k.follow p.column
    if longestKey < k'.octets then none else some k'

/-- A pending key at position `p`. One that is no longer possible is given up, which is an
error if it is required. -/
def keepAt (p : Position) : Option PendingKey → Option (Option PendingKey)
  | none => some none
  | some k =>
    match k.reach? p with
    | some k' => some (some k')
    | none => if k.required then none else some none

end PendingKey

/-- The state of the tokenizer between two tokens. -/
structure Tokenizer where
  rest : List Char
  position : Position
  /-- The least column of text in the innermost open block, or zero if none is open. -/
  floor : Nat
  /-- The same for the blocks around it, innermost first. -/
  outerFloors : List Nat
  /-- Whether a mapping key may begin at the next token. -/
  keyAllowed : Bool
  pending : Option PendingKey
  /-- The pending keys around each open flow collection, innermost first. -/
  outerPending : List (Option PendingKey)
  /-- The tokens so far, last one first. -/
  tokens : List Token
  count : Nat

namespace Tokenizer

/-- The state before the first token. -/
def initial (s : List Char) : Tokenizer :=
  { rest := s, position := .origin, floor := 0, outerFloors := [], keyAllowed := true,
    pending := none, outerPending := [], tokens := [], count := 0 }

/-- Whether the next token is inside a flow collection. -/
def inFlow (t : Tokenizer) : Bool := !t.outerPending.isEmpty

/-- Adds a token at the end. -/
def emit (t : Tokenizer) (l : Lexeme) (start stop : Position) : Tokenizer :=
  { t with tokens := ⟨l, start, stop⟩ :: t.tokens, count := t.count + 1 }

/-- Goes on after `n` characters of the current line, with `r` the text after them. -/
def goOn (t : Tokenizer) (n : Nat) (r : List Char) : Tokenizer :=
  { t with position := t.position.right n, rest := r }

/-- Adds the token of an indicator `n` characters long. -/
def indicator (t : Tokenizer) (l : Lexeme) (n : Nat) (r : List Char) : Tokenizer :=
  (t.emit l t.position (t.position.right n)).goOn n r

/-- Opens a block at column `c` unless one is open there, with its token put in so that
`back` tokens come after it. -/
def openBlock (t : Tokenizer) (c : Nat) (l : Lexeme) (p : Position) (back : Nat) : Tokenizer :=
  if t.inFlow || c < t.floor then t
  else
    { t with
      floor := c + 1
      outerFloors := t.floor :: t.outerFloors
      tokens := t.tokens.take back ++ Token.mk l p p :: t.tokens.drop back
      count := t.count + 1 }

/-- The `blockEnd` tokens of the blocks that close when `limit` becomes the floor, and the
floors that stay. -/
def closed (limit : Nat) (p : Position) (tokens : List Token) (count floor : Nat) :
    List Nat → List Token × Nat × Nat × List Nat
  | [] => (tokens, count, floor, [])
  | outer :: more =>
    if limit < floor then
      closed limit p (⟨.blockEnd, p, p⟩ :: tokens) (count + 1) outer more
    else (tokens, count, floor, outer :: more)

/-- Closes the blocks whose floor is above `limit`. Inside flow collections nothing closes. -/
def closeBlocks (t : Tokenizer) (limit : Nat) : Tokenizer :=
  if t.inFlow then t
  else
    let (tokens, count, floor, outerFloors) :=
      closed limit t.position t.tokens t.count t.floor t.outerFloors
    { t with tokens, count, floor, outerFloors }

/-- Gives up the pending key of the innermost collection, which is an error if it is
required. -/
def dropKey (t : Tokenizer) : Option Tokenizer :=
  match t.pending with
  | some k => if k.required then none else some { t with pending := none }
  | none => some t

/-- Notes that a key may begin here. -/
def noteKey (t : Tokenizer) : Option Tokenizer :=
  if t.keyAllowed then
    t.dropKey.map fun u =>
      { u with
        pending := some
          { required := !t.inFlow && t.floor == t.position.column + 1
            index := t.count
            position := t.position
            column := t.position.column
            octets := 0
            text := t.rest } }
  else some t

/-- Gives up the pending keys that the position has left behind. -/
def expireKeys (t : Tokenizer) : Option Tokenizer := do
  let pending ← PendingKey.keepAt t.position t.pending
  let outer ← t.outerPending.mapM (PendingKey.keepAt t.position)
  some { t with pending := pending, outerPending := outer }

/-- Skips blanks, comments and breaks. A new line outside flow collections may begin a key;
where a key may begin, a tab is not skipped. -/
def skipGap (inFlow keyAllowed inComment : Bool) (p : Position) :
    List Char → Bool × Position × List Char
  | [] => (keyAllowed, p, [])
  | '\r' :: '\n' :: r => skipGap inFlow (keyAllowed || !inFlow) false p.nextLine r
  | c :: r =>
    if isBreak c then skipGap inFlow (keyAllowed || !inFlow) false p.nextLine r
    else if inComment || c == '#' then skipGap inFlow keyAllowed true (p.right 1) r
    else if c == ' ' || (c == '\t' && (inFlow || !keyAllowed)) ||
        (c == byteOrderMark && p.column == 0) then
      skipGap inFlow keyAllowed false (p.right 1) r
    else (keyAllowed, p, c :: r)

/-- Moves to the next token: skips the gap, gives up keys and closes blocks. -/
def toNext (t : Tokenizer) : Option Tokenizer :=
  let (keyAllowed, p, r) := skipGap t.inFlow t.keyAllowed false t.position t.rest
  ({ t with keyAllowed := keyAllowed, position := p, rest := r } : Tokenizer).expireKeys.map
    fun u => u.closeBlocks (p.column + 1)

/-- Reads a directive. -/
def directive (t : Tokenizer) (r : List Char) : Option Tokenizer := do
  let u ← (t.closeBlocks 0).dropKey
  let (d, q, r') ← readDirective (u.position.right 1) r
  let l := match d with
    | .version major minor => Lexeme.version major minor
    | .abbreviation handle expansion => .abbreviation handle expansion
  some { u.emit l u.position q with keyAllowed := false, position := q, rest := r' }

/-- Reads the mark that starts or ends a document. -/
def documentMark (t : Tokenizer) (l : Lexeme) (r : List Char) : Option Tokenizer := do
  let u ← (t.closeBlocks 0).dropKey
  some ({ u with keyAllowed := false }.indicator l 3 r)

/-- Opens a flow collection. -/
def openFlow (t : Tokenizer) (l : Lexeme) (r : List Char) : Option Tokenizer := do
  let u ← t.noteKey
  some ({ u with outerPending := u.pending :: u.outerPending, pending := none,
                 keyAllowed := true }.indicator l 1 r)

/-- Closes a flow collection. -/
def closeFlow (t : Tokenizer) (l : Lexeme) (r : List Char) : Option Tokenizer := do
  let u ← t.dropKey
  let v := match u.outerPending with
    | k :: more => { u with pending := k, outerPending := more }
    | [] => u
  some ({ v with keyAllowed := false }.indicator l 1 r)

/-- Reads the comma of a flow collection. -/
def comma (t : Tokenizer) (r : List Char) : Option Tokenizer := do
  let u ← t.dropKey
  some ({ u with keyAllowed := true }.indicator .comma 1 r)

/-- Reads the dash of a sequence item, which opens a block sequence if none is open at its
column. -/
def item (t : Tokenizer) (r : List Char) : Option Tokenizer := do
  if !t.inFlow && !t.keyAllowed then none
  else
    let u ← (t.openBlock t.position.column .blockSequence t.position 0).dropKey
    some ({ u with keyAllowed := true }.indicator .item 1 r)

/-- Reads the question mark that begins a key. -/
def questionMark (t : Tokenizer) (r : List Char) : Option Tokenizer := do
  if !t.inFlow && !t.keyAllowed then none
  else
    let u ← (t.openBlock t.position.column .blockMapping t.position 0).dropKey
    some ({ u with keyAllowed := !t.inFlow }.indicator .key 1 r)

/-- Puts in the token of a key that the colon has found, and the one that opens its
mapping. -/
def confirmKey (t : Tokenizer) (k : PendingKey) : Tokenizer :=
  -- The tokens stand last one first, so those behind the key come before this place.
  let back := t.count - k.index
  let u := { t with
    tokens := t.tokens.take back ++ Token.mk .key k.position k.position :: t.tokens.drop back
    count := t.count + 1
    pending := none
    keyAllowed := false }
  u.openBlock k.position.column .blockMapping k.position (back + 1)

/-- Reads the colon before a value. -/
def colon (t : Tokenizer) (r : List Char) : Option Tokenizer :=
  match t.pending with
  | some k => some ((t.confirmKey k).indicator .value 1 r)
  | none =>
    if !t.inFlow && !t.keyAllowed then none
    else
      let u := t.openBlock t.position.column .blockMapping t.position 0
      some ({ u with keyAllowed := !t.inFlow }.indicator .value 1 r)

/-- Reads an anchor or an alias. -/
def name (t : Tokenizer) (l : String → Lexeme) (r : List Char) : Option Tokenizer := do
  let u ← t.noteKey
  let (s, n, r') ← readName r
  some ({ u with keyAllowed := false }.indicator (l s) (n + 1) r')

/-- Reads a tag. -/
def tag (t : Tokenizer) : Option Tokenizer := do
  let u ← t.noteKey
  let (s, n, r) ← readTag t.inFlow t.rest
  some ({ u with keyAllowed := false }.indicator (.tag s.handle s.suffix) n r)

/-- Reads a block scalar. -/
def blockScalar (t : Tokenizer) (style : ScalarStyle) (r : List Char) : Option Tokenizer := do
  let u ← t.dropKey
  let (text, q, r') ← readBlockScalar (style == .literal) t.floor (t.position.right 1) r
  some { u.emit (.scalar style (String.ofList text.reverse)) u.position q with
    keyAllowed := true, position := q, rest := r' }

/-- Reads a quoted scalar. -/
def quotedScalar (t : Tokenizer) (style : ScalarStyle) (r : List Char) : Option Tokenizer := do
  let u ← t.noteKey
  let (text, q, r') ←
    if style == .singleQuoted then readSingleQuoted [] (t.position.right 1) r
    else readDoubleQuoted [] (t.position.right 1) r
  some { u.emit (.scalar style (String.ofList text.reverse)) u.position q with
    keyAllowed := false, position := q, rest := r' }

/-- Reads a plain scalar. After one that went on to a later line a key may begin. -/
def plainScalar (t : Tokenizer) : Option Tokenizer := do
  let u ← t.noteKey
  let s ← readPlain t.inFlow t.floor [] t.position t.rest
  some { u.emit (.scalar .plain (String.ofList s.reversed.reverse)) u.position s.stop with
    keyAllowed := s.crossedLine, position := s.stop, rest := s.rest }

/-- The characters that cannot begin a plain scalar by themselves. -/
def isIndicator (c : Char) : Bool :=
  c == '-' || c == '?' || c == ':' || c == ',' || c == '[' || c == ']' || c == '\x7b' ||
    c == '\x7d' || c == '#' || c == '&' || c == '*' || c == '!' || c == '|' || c == '>' ||
    c == '\x27' || c == '\x22' || c == '%' || c == '@' || c == '\x60'

/-- Whether a plain scalar begins with `c`, with `r` after it. -/
def beginsPlain (inFlow : Bool) (c : Char) (r : List Char) : Bool :=
  !(isGap c || isIndicator c) ||
    (c == '-' && !(r.head?.any isBlank)) ||
    (!inFlow && (c == '?' || c == ':') && !startsGapOrEnd r)

/-- Reads the token that begins with `c`, with `r` after it. -/
def step (t : Tokenizer) (c : Char) (r : List Char) : Option Tokenizer :=
  if t.position.column == 0 && c == '%' then t.directive r
  else if t.position.column == 0 && startsDocumentMark (c :: r) then
    t.documentMark (if c == '-' then .documentStart else .documentEnd) (r.drop 2)
  else if c == '[' then t.openFlow .flowSequenceOpen r
  else if c == '\x7b' then t.openFlow .flowMappingOpen r
  else if c == ']' then t.closeFlow .flowSequenceClose r
  else if c == '\x7d' then t.closeFlow .flowMappingClose r
  else if c == ',' then t.comma r
  else if c == '-' && startsGapOrEnd r then t.item r
  else if c == '?' && (t.inFlow || startsGapOrEnd r) then t.questionMark r
  else if c == ':' && (t.inFlow || startsGapOrEnd r) then t.colon r
  else if c == '*' then t.name .aliasOf r
  else if c == '&' then t.name .anchor r
  else if c == '!' then t.tag
  else if c == '|' && !t.inFlow then t.blockScalar .literal r
  else if c == '>' && !t.inFlow then t.blockScalar .folded r
  else if c == '\x27' then t.quotedScalar .singleQuoted r
  else if c == '\x22' then t.quotedScalar .doubleQuoted r
  else if beginsPlain t.inFlow c r then t.plainScalar
  else none

/-- Closes everything at the end of the text and adds the last token. -/
def finish (t : Tokenizer) : Option (List Token) := do
  let p := if t.position.column == 0 then t.position else t.position.nextLine
  let u ← (({ t with position := p } : Tokenizer).closeBlocks 0).dropKey
  some (u.emit .finish p p).tokens.reverse

/-- How many tokens are settled: those before the first pending key that may still take a place
among them. -/
def settledCount (t : Tokenizer) : Nat :=
  (t.pending :: t.outerPending).foldl (fun n pending =>
    match pending with
    | some k => if k.required || (k.reach? t.position).isSome then min n k.index else n
    | none => n) t.count

/-- The tokens of a text that cannot be read beyond this state. -/
def broken (t : Tokenizer) : List Token :=
  t.tokens.reverse.take t.settledCount ++ [⟨.unreadable, t.position, t.position⟩]

/-- Reads the next token. At the end of the text these are all tokens. -/
def advance (t : Tokenizer) : Option (Tokenizer ⊕ List Token) := do
  let u ← t.toNext
  match u.rest with
  | [] => u.finish.map .inr
  | c :: r => (u.step c r).map .inl

/-- Reads tokens to the end of the text, or as far as it can be read. Every token takes a
character at least, so `fuel` is never short when it exceeds the length of the text. -/
def run : (fuel : Nat) → Tokenizer → List Token
  | 0, t => t.broken
  | fuel + 1, t =>
    match t.advance with
    | none => t.broken
    | some (.inl u) => run fuel u
    | some (.inr tokens) => tokens

end Tokenizer

/-- The tokens of a text. The last one is the end of the text, or the place from which on it is
no document. -/
def tokenize (s : List Char) : List Token :=
  if s.all isAllowed then (Tokenizer.initial s).run (s.length + 1)
  else (Tokenizer.initial s).broken

end UniformIter.Document
