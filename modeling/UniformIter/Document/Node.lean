import UniformIter.Document.Tokenizer

/-!
# The tree of a settings document

A document is a tree of scalars, sequences and mappings. An alias stays in the tree as a
number, because the node it means may be the very collection that it stands in; `resolve`
finds that node.
-/

namespace UniformIter.Document

/-- What a node carries besides its content: its tag, the number that aliases call it by, and
where it begins. -/
structure Label where
  tag : Option Tag
  anchor : Option Nat
  position : Position
  deriving Repr, DecidableEq, Inhabited

/-- A node of a document. -/
inductive Node where
  | scalar (style : ScalarStyle) (text : String) (label : Label)
  | sequence (items : List Node) (label : Label)
  | mapping (entries : List (Node × Node)) (label : Label)
  /-- The node that the anchor with this number marks. -/
  | aliasOf (anchor : Nat) (position : Position)
  deriving Inhabited

namespace Node

/-- The scalar that stands for a missing node. -/
def missing (p : Position) : Node := .scalar .plain "" ⟨none, none, p⟩

/-- Where a node begins. -/
def position : Node → Position
  | scalar _ _ l => l.position
  | sequence _ l => l.position
  | mapping _ l => l.position
  | aliasOf _ p => p

/-- The tag of a node, if it has one. -/
def tag? : Node → Option Tag
  | scalar _ _ l => l.tag
  | sequence _ l => l.tag
  | mapping _ l => l.tag
  | aliasOf _ _ => none

mutual

/-- The nodes that carry the anchor `id`, in document order. -/
def anchored (id : Nat) : Node → List Node
  | n@(scalar _ _ l) => if l.anchor == some id then [n] else []
  | n@(sequence items l) =>
    (if l.anchor == some id then [n] else []) ++ anchoredIn id items
  | n@(mapping entries l) =>
    (if l.anchor == some id then [n] else []) ++ anchoredInEntries id entries
  | aliasOf _ _ => []

/-- The nodes that carry the anchor `id` in a list of nodes. -/
def anchoredIn (id : Nat) : List Node → List Node
  | [] => []
  | n :: more => anchored id n ++ anchoredIn id more

/-- The nodes that carry the anchor `id` in the entries of a mapping. -/
def anchoredInEntries (id : Nat) : List (Node × Node) → List Node
  | [] => []
  | (k, v) :: more => anchored id k ++ (anchored id v ++ anchoredInEntries id more)

end

/-- The node that `n` stands for in the document `root`: an alias stands for the last node
that carries its anchor, any other node for itself. -/
def resolve (root n : Node) : Node :=
  match n with
  | aliasOf id p => ((anchored id root).getLast?).getD (missing p)
  | _ => n

end Node

/-- The text not yet built into nodes, and what the nodes so far have introduced. -/
structure Builder where
  tokens : List Token
  /-- The number of every anchor's name. -/
  anchors : List (String × Nat)
  /-- The expansion of every tag handle. -/
  abbreviations : List (String × List UInt8)

namespace Builder

/-- Drops the next token. -/
def skip (b : Builder) : Builder := { b with tokens := b.tokens.tail }

/-- The next token. The last one never goes. -/
def next (b : Builder) : Lexeme :=
  match b.tokens with
  | t :: _ => t.lexeme
  | [] => .finish

/-- Where the next token begins. -/
def start (b : Builder) : Position :=
  match b.tokens with
  | t :: _ => t.start
  | [] => .origin

/-- Where the next token ends. -/
def stop (b : Builder) : Position :=
  match b.tokens with
  | t :: _ => t.stop
  | [] => .origin

/-- Gives a name its number: how many names there are. A name that is used again gets a new
number, and the number that the next new name would get is then shared. -/
def introduce (b : Builder) (name : String) : Builder × Nat :=
  let id := b.anchors.length
  if b.anchors.any (·.1 == name) then
    ({ b with anchors := b.anchors.map fun a => if a.1 == name then (name, id) else a }, id)
  else ({ b with anchors := b.anchors ++ [(name, id)] }, id)

/-- The number of a name that was introduced. -/
def lookup (b : Builder) (name : String) : Option Nat :=
  (b.anchors.find? (·.1 == name)).map (·.2)

/-- The tag that a spelling means. -/
def expand (b : Builder) (handle : String) (suffix : List UInt8) : Option Tag :=
  if handle.isEmpty then some ⟨suffix⟩
  else (b.abbreviations.find? (·.1 == handle)).map fun a => ⟨a.2 ++ suffix⟩

/-- The properties before a node: at most one anchor and one tag, in either order. -/
structure Properties where
  anchor : Option String
  tag : Option (String × List UInt8)

/-- Reads the properties before a node. -/
def properties (b : Builder) : Properties × Builder :=
  match b.next with
  | .anchor name =>
    match b.skip.next with
    | .tag handle suffix => (⟨some name, some (handle, suffix)⟩, b.skip.skip)
    | _ => (⟨some name, none⟩, b.skip)
  | .tag handle suffix =>
    match b.skip.next with
    | .anchor name => (⟨some name, some (handle, suffix)⟩, b.skip.skip)
    | _ => (⟨none, some (handle, suffix)⟩, b.skip)
  | _ => (⟨none, none⟩, b)

/-- The label of a node that begins at `p` with the given properties. -/
def label (b : Builder) (p : Position) (q : Properties) : Option (Label × Builder) := do
  let tag ← match q.tag with
    | some (handle, suffix) => (b.expand handle suffix).map some
    | none => some none
  match q.anchor with
  | some name =>
    let (b', id) := b.introduce name
    some (⟨tag, some id, p⟩, b')
  | none => some (⟨tag, none, p⟩, b)

/-- Whether no node follows a dash in a block sequence. -/
def endsItem : Lexeme → Bool
  | .item | .blockEnd => true
  | _ => false

/-- Whether no node follows an indicator in a block mapping. -/
def endsEntry : Lexeme → Bool
  | .key | .value | .blockEnd => true
  | _ => false

mutual

/-- Builds the next node. `inBlock` says whether a block collection may stand here, and
`atKey` whether a sequence may stand here without an indentation of its own. -/
def node (inBlock atKey : Bool) : (fuel : Nat) → Builder → Option (Node × Builder)
  | 0, _ => none
  | fuel + 1, b =>
    match b.next with
    | .aliasOf name => (b.lookup name).map fun id => (.aliasOf id b.start, b.skip)
    | _ => do
      let (q, b₁) := b.properties
      let (l, b₂) ← b₁.label b.start q
      match b₂.next with
      | .scalar style text => some (.scalar style text l, b₂.skip)
      | .flowSequenceOpen =>
        let (items, b₃) ← flowItems true [] fuel b₂.skip
        some (.sequence items l, b₃)
      | .flowMappingOpen =>
        let (entries, b₃) ← flowEntries true [] fuel b₂.skip
        some (.mapping entries l, b₃)
      | other =>
        if atKey && other == .item then
          let (items, b₃) ← looseItems [] fuel b₂
          some (.sequence items l, b₃)
        else if inBlock && other == .blockSequence then
          let (items, b₃) ← blockItems [] fuel b₂.skip
          some (.sequence items l, b₃)
        else if inBlock && other == .blockMapping then
          let (entries, b₃) ← blockEntries [] fuel b₂.skip
          some (.mapping entries l, b₃)
        else if q.anchor.isSome || q.tag.isSome then some (.scalar .plain "" l, b₂)
        else none

/-- Builds the items of a block sequence up to its end, after the items `acc`, last one
first. -/
def blockItems (acc : List Node) : (fuel : Nat) → Builder → Option (List Node × Builder)
  | 0, _ => none
  | fuel + 1, b =>
    match b.next with
    | .item =>
      if endsItem b.skip.next then blockItems (.missing b.stop :: acc) fuel b.skip
      else do
        let (n, b') ← node true false fuel b.skip
        blockItems (n :: acc) fuel b'
    | .blockEnd => some (acc.reverse, b.skip)
    | _ => none

/-- Builds the items of a sequence that has no indentation of its own. -/
def looseItems (acc : List Node) : (fuel : Nat) → Builder → Option (List Node × Builder)
  | 0, _ => none
  | fuel + 1, b =>
    match b.next with
    | .item =>
      if endsItem b.skip.next || endsEntry b.skip.next then
        looseItems (.missing b.stop :: acc) fuel b.skip
      else do
        let (n, b') ← node true false fuel b.skip
        looseItems (n :: acc) fuel b'
    | _ => some (acc.reverse, b)

/-- Builds the entries of a block mapping up to its end. -/
def blockEntries (acc : List (Node × Node)) :
    (fuel : Nat) → Builder → Option (List (Node × Node) × Builder)
  | 0, _ => none
  | fuel + 1, b =>
    match b.next with
    | .key => do
      let (k, b₁) ← blockPart fuel b
      match b₁.next with
      | .value =>
        let (v, b₂) ← blockPart fuel b₁
        blockEntries ((k, v) :: acc) fuel b₂
      | _ => blockEntries ((k, .missing b₁.start) :: acc) fuel b₁
    | .blockEnd => some (acc.reverse, b.skip)
    | _ => none

/-- Builds the node after the indicator of a key or a value in a block mapping. -/
def blockPart : (fuel : Nat) → Builder → Option (Node × Builder)
  | 0, _ => none
  | fuel + 1, b =>
    if endsEntry b.skip.next then some (.missing b.stop, b.skip)
    else node true true fuel b.skip

/-- Builds the items of a flow sequence up to its bracket. -/
def flowItems (first : Bool) (acc : List Node) :
    (fuel : Nat) → Builder → Option (List Node × Builder)
  | 0, _ => none
  | fuel + 1, b =>
    if b.next == .flowSequenceClose then some (acc.reverse, b.skip)
    else if !first && b.next != .comma then none
    else
      let b₁ := if first then b else b.skip
      match b₁.next with
      | .flowSequenceClose => some (acc.reverse, b₁.skip)
      | .key => do
        let (k, b₂) ←
          -- A question mark without a key takes the next token with it, be it a comma.
          match b₁.skip.next with
          | .value | .comma | .flowSequenceClose => some (.missing b₁.skip.stop, b₁.skip.skip)
          | _ => node false false fuel b₁.skip
        let (v, b₃) ← flowValue .flowSequenceClose fuel b₂
        flowItems false (.mapping [(k, v)] ⟨none, none, b₁.start⟩ :: acc) fuel b₃
      | _ => do
        let (n, b₂) ← node false false fuel b₁
        flowItems false (n :: acc) fuel b₂

/-- Builds the entries of a flow mapping up to its brace. -/
def flowEntries (first : Bool) (acc : List (Node × Node)) :
    (fuel : Nat) → Builder → Option (List (Node × Node) × Builder)
  | 0, _ => none
  | fuel + 1, b =>
    if b.next == .flowMappingClose then some (acc.reverse, b.skip)
    else if !first && b.next != .comma then none
    else
      let b₁ := if first then b else b.skip
      match b₁.next with
      | .flowMappingClose => some (acc.reverse, b₁.skip)
      | .key => do
        let (k, b₂) ←
          match b₁.skip.next with
          | .value | .comma | .flowMappingClose => some (.missing b₁.skip.start, b₁.skip)
          | _ => node false false fuel b₁.skip
        let (v, b₃) ← flowValue .flowMappingClose fuel b₂
        flowEntries false ((k, v) :: acc) fuel b₃
      | _ => do
        let (k, b₂) ← node false false fuel b₁
        flowEntries false ((k, .missing b₂.start) :: acc) fuel b₂

/-- Builds the value of an entry in a flow collection that `close` ends. -/
def flowValue (close : Lexeme) : (fuel : Nat) → Builder → Option (Node × Builder)
  | 0, _ => none
  | fuel + 1, b =>
    if b.next == .value then
      if b.skip.next == .comma || b.skip.next == close then
        some (.missing b.skip.start, b.skip)
      else node false false fuel b.skip
    else some (.missing b.start, b)

end

/-- Reads the directives before a document. A version other than 1.1 and 1.2, a second
version and a second meaning of a handle are refused. -/
def directives (b : Builder) (version : Bool) (abbreviations : List (String × List UInt8)) :
    (fuel : Nat) → Option (List (String × List UInt8) × Builder)
  | 0 => none
  | fuel + 1 =>
    match b.next with
    | .version major minor =>
      if version || major != 1 || !(minor == 1 || minor == 2) then none
      else directives b.skip true abbreviations fuel
    | .abbreviation handle expansion =>
      if abbreviations.any (·.1 == handle) then none
      else directives b.skip version (abbreviations ++ [(handle, expansion)]) fuel
    | _ => some (abbreviations, b)

/-- The tag handles that need no directive. -/
def standardAbbreviations : List (String × List UInt8) :=
  [("!", [Tag.mark]), ("!!", Tag.standardExpansion)]

/-- Whether a token can only stand before a document, so that one has to follow it. -/
def opensDocument : Lexeme → Bool
  | .version _ _ | .abbreviation _ _ | .documentStart => true
  | _ => false

/-- The builder before the first document of a text, and whether a node has to follow: one may
be missing only behind the mark that starts a document. `none` inside means that there is no
document at all. -/
def first (tokens : List Token) : Option (Option (Bool × Builder)) :=
  let b : Builder := ⟨tokens, [], standardAbbreviations⟩
  if b.next == .finish then some none
  else if opensDocument b.next then do
    let (abbreviations, b₁) ← directives b false [] (tokens.length + 1)
    if b₁.next != .documentStart then none
    else
      let b₂ : Builder := { b₁.skip with abbreviations := abbreviations ++ standardAbbreviations }
      let isEmpty := opensDocument b₂.next || b₂.next == .documentEnd || b₂.next == .finish
      some (some (!isEmpty, b₂))
  else some (some (true, b))

/-- Builds the root of the first document, and answers with the tokens behind it. `none` inside
means that there is no document at all. -/
def root (tokens : List Token) : Option (Option Node × List Token) := do
  match ← first tokens with
  | none => some (none, tokens)
  | some (false, b) => some (some (.missing b.start), b.tokens)
  | some (true, b) =>
    let (n, b') ← node true false (2 * tokens.length + 2) b
    some (some n, b'.tokens)

end Builder

/-- Reads a text that holds at most one document: `none` if it is malformed, `some none` if
it holds none. -/
def read (text : String) : Option (Option Node) := do
  let (root, rest) ← Builder.root (tokenize text.toList)
  match rest.dropWhile (·.lexeme == .documentEnd) with
  | [⟨.finish, _, _⟩] => some root
  | _ => none

end UniformIter.Document
