import UniformIter.Document.Position

/-!
# Tokens of a settings document

The lexical units that the tree of a document is built from. Indentation is already turned
into tokens here: a block collection opens with `blockSequence` or `blockMapping` and closes
with `blockEnd`, so the tree builder never looks at columns.
-/

namespace UniformIter.Document

/-- How a scalar is written. Only a plain scalar can stand for something other than text. -/
inductive ScalarStyle where
  | plain
  | singleQuoted
  | doubleQuoted
  | literal
  | folded
  deriving Repr, DecidableEq, Inhabited

/-- What a token is. -/
inductive Lexeme where
  /-- The directive that names the version of the format. -/
  | version (major minor : Nat)
  /-- The directive that abbreviates a tag. -/
  | abbreviation (handle : String) (expansion : List UInt8)
  /-- The mark `---`. -/
  | documentStart
  /-- The mark `...`. -/
  | documentEnd
  | blockSequence
  | blockMapping
  | blockEnd
  | flowSequenceOpen
  | flowSequenceClose
  | flowMappingOpen
  | flowMappingClose
  /-- The dash of a sequence item. -/
  | item
  /-- The comma of a flow collection. -/
  | comma
  /-- The start of a mapping key, written `?` or found by the colon after the key. -/
  | key
  /-- The colon before a mapping value. -/
  | value
  | aliasOf (name : String)
  | anchor (name : String)
  | tag (handle : String) (suffix : List UInt8)
  | scalar (style : ScalarStyle) (text : String)
  /-- The end of the text. -/
  | finish
  /-- The place from which on the text cannot be cut into tokens. -/
  | unreadable
  deriving Repr, DecidableEq, Inhabited

/-- A lexeme with the positions of its first character and of the character after it. -/
structure Token where
  lexeme : Lexeme
  start : Position
  stop : Position
  deriving Repr, DecidableEq, Inhabited

end UniformIter.Document
