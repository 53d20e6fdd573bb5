import UniformIter.Document.ScalarText

/-!
# Writing a document

What a document is to say, and its text: block style, entries two spaces deeper than their
key, the dashes of a sequence no deeper than its key.
-/

namespace UniformIter.Document

/-- What a document is to say. -/
inductive Content where
  | boolean (value : Bool)
  | string (value : String)
  | sequence (items : List Content)
  | mapping (entries : List (String × Content))
  deriving Inhabited

namespace Content

/-- The word for a truth value. -/
def word (b : Bool) : String := if b then "true" else "false"

mutual

/-- A value behind its key, which stands at column `indent`: the rest of the line and the
lines that belong to it. -/
def afterKey (indent : Nat) : Content → List Char
  | boolean b => ' ' :: (word b).toList ++ ['\n']
  | string s => ' ' :: scalarLine (indent + 2) s
  | sequence [] => " []\n".toList
  | sequence items => '\n' :: itemLines indent true items
  | mapping [] => " \x7b\x7d\n".toList
  | mapping entries => '\n' :: entryLines (indent + 2) true entries

/-- An item behind its dash, which stands at column `indent`. -/
def afterDash (indent : Nat) : Content → List Char
  | boolean b => (word b).toList ++ ['\n']
  | string s => scalarLine (indent + 2) s
  | sequence [] => "[]\n".toList
  | sequence items => itemLines (indent + 2) false items
  | mapping [] => "\x7b\x7d\n".toList
  | mapping entries => entryLines (indent + 2) false entries

/-- Items with their dashes at column `indent`. `atStart` says whether a line begins here. -/
def itemLines (indent : Nat) (atStart : Bool) : List Content → List Char
  | [] => []
  | c :: more =>
    (if atStart then List.replicate indent ' ' else []) ++
      '-' :: ' ' :: (afterDash indent c ++ itemLines indent true more)

/-- Entries with their keys at column `indent`. `atStart` says whether a line begins here. -/
def entryLines (indent : Nat) (atStart : Bool) : List (String × Content) → List Char
  | [] => []
  | (k, v) :: more =>
    (if atStart then List.replicate indent ' ' else []) ++
      (k.toList ++ ':' :: (afterKey indent v ++ entryLines indent true more))

end

/-- The text of a document. Its keys are words that need no quotes. -/
def text (c : Content) : String :=
  String.ofList <|
    match c with
    | sequence [] => "[]\n".toList
    | sequence items => itemLines 0 true items
    | mapping [] => "\x7b\x7d\n".toList
    | mapping entries => entryLines 0 true entries
    | boolean b => (word b).toList ++ ['\n']
    | string s => scalarLine 2 s

end Content

end UniformIter.Document
