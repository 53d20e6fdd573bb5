import UniformIter.Document.Node

/-!
# The opening of a text

What the first tokens of a text tell: whether there is a document, and what its root is. A root
that is a scalar is known in full and so is what comes behind it; of a collection only its kind
is. The text need not be well-formed beyond that.
-/

namespace UniformIter.Document

/-- How a text goes on behind a scalar that is the root of its first document. -/
inductive Sequel where
  /-- The text holds nothing else. -/
  | ended
  /-- The text cannot be read before the document is at its end. -/
  | broken
  /-- Something comes behind the document. -/
  | further
  deriving Repr, DecidableEq

/-- How a text goes on with these tokens. -/
def Sequel.ofTokens (tokens : List Token) : Sequel :=
  match tokens with
  | [] => .ended
  | ⟨.unreadable, _, _⟩ :: _ => .broken
  | _ =>
    match tokens.dropWhile (·.lexeme == .documentEnd) with
    | [⟨.finish, _, _⟩] => .ended
    | _ => .further

/-- What a text opens with. -/
inductive Opening where
  /-- No document at all. -/
  | nothing
  /-- A document whose root is a scalar. -/
  | scalar (root : Node) (sequel : Sequel)
  /-- A document whose root is a collection, which is given without its items. -/
  | collection (root : Node)
  /-- An alias, which nothing before it can have introduced. -/
  | strayAlias (position : Position)
  | malformed
  deriving Inhabited

namespace Opening

/-- The opening of a document whose root begins here. -/
def ofBuilder (b : Builder) : Opening :=
  match b.next with
  | .aliasOf _ => .strayAlias b.start
  | _ =>
    let (q, b₁) := b.properties
    match b₁.label b.start q with
    | none => .malformed
    | some (l, b₂) =>
      match b₂.next with
      | .unreadable => .malformed
      | .scalar style text => .scalar (.scalar style text l) (.ofTokens b₂.skip.tokens)
      | .flowSequenceOpen | .blockSequence => .collection (.sequence [] l)
      | .flowMappingOpen | .blockMapping => .collection (.mapping [] l)
      | _ =>
        if q.anchor.isSome || q.tag.isSome then
          .scalar (.scalar .plain "" l) (.ofTokens b₂.tokens)
        else .malformed

/-- The opening of a text. -/
def ofText (text : String) : Opening :=
  match Builder.first (tokenize text.toList) with
  | none => .malformed
  | some none => .nothing
  | some (some (false, b)) => .scalar (.missing b.start) (.ofTokens b.tokens)
  | some (some (true, b)) => ofBuilder b

end Opening

end UniformIter.Document
