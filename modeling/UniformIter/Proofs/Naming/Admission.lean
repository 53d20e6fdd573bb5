import UniformIter.Proofs.Decoding.Kinds
import UniformIter.Proofs.Document.Tree
import UniformIter.Proofs.Naming.Containers
import UniformIter.Settings.DecodeNames

/-!
# Texts that are taken as names

A text becomes the name of an iterator type by itself (`IteratorName.ofText`), or as a string that
was read from JSON or from a document. Whichever way it comes, the same texts are taken, as the
same names (`IteratorName.Admission`). A name tells of its container for good: what stands before
the ending was looked at when the text was taken, so the container is never the name as a whole.
-/

namespace UniformIter

namespace Document

/-- A scalar without properties that nothing comes behind. -/
theorem Opening.ofBuilder_scalar {b : Builder} {style : ScalarStyle} {text : String}
    (h : b.Ahead [.scalar style text, .finish]) :
    ofBuilder b = .scalar (.scalar style text ⟨none, none, b.start⟩) .ended := by
  obtain ⟨last, hlast, hend⟩ := List.map_eq_singleton_iff.1 h.skip
  obtain ⟨lexeme, start, stop⟩ := last
  obtain rfl : lexeme = .finish := hend
  have hsequel : Sequel.ofTokens b.skip.tokens = .ended := by
    rw [hlast]
    rfl
  simp [ofBuilder, h.next, Builder.properties, Builder.label, hsequel]

theorem Builder.first_of_scalar {tokens : List Token} {style : ScalarStyle} {text : String}
    {ls : List Lexeme}
    (h : Ahead ⟨tokens, [], standardAbbreviations⟩ (.scalar style text :: ls)) :
    first tokens = some (some (true, ⟨tokens, [], standardAbbreviations⟩)) := by
  unfold first
  dsimp only
  rw [h.next]
  rfl

/-- The text of a document that is one string opens with this string and ends with it. -/
theorem Opening.ofText_string (s : String) :
    ∃ p, ofText (Content.string s).text =
      .scalar (.scalar (ScalarText.styleOf s) s ⟨none, none, p⟩) .ended := by
  have htokens := (Content.string s).tokenize_text trivial
  rw [Content.lexemes] at htokens
  have hahead : Builder.Ahead ⟨tokenize (Content.string s).text.toList, [],
      Builder.standardAbbreviations⟩ [.scalar (ScalarText.styleOf s) s, .finish] := by
    dsimp only [Builder.Ahead]
    exact htokens
  unfold ofText
  rw [Builder.first_of_scalar hahead]
  exact ⟨_, ofBuilder_scalar hahead⟩

end Document

namespace IteratorName

open Decoding Document

variable {text : String} {n : IteratorName}

/-! ## Strings that were read -/

theorem decode_eq_ok_iff : decode text = .ok n ↔ ofText text = .ok n := by
  unfold decode
  cases ofText text <;> simp

theorem ofJson_string_eq_ok_iff : ofJson (.string text) = .ok n ↔ ofText text = .ok n :=
  decode_eq_ok_iff

theorem mapError_eq_ok_iff {ε ε' α : Type} {f : ε → ε'} {x : Except ε α} {a : α} :
    x.mapError f = .ok a ↔ x = .ok a := by
  cases x <;> simp [Except.mapError]

/-- A document is taken as the text at its root is. -/
theorem ofDocument_eq_ok_iff {root : Node} (h : (rootPlace (some root)).HoldsText text) :
    ofDocument (some root) = .ok n ↔ ofText text = .ok n := by
  have hstring : documentFormat.string (rootPlace (some root)) = .ok text :=
    Place.string_eq_ok_iff.2 h
  show (documentFormat.string (rootPlace (some root))).bind _ = _ ↔ _
  rw [hstring]
  exact mapError_eq_ok_iff.trans decode_eq_ok_iff

/-- A text that holds nothing but one scalar is taken as this scalar is. -/
theorem ofDocumentText_eq_ok_iff {source : String} {root : Node}
    (hopening : Opening.ofText source = .scalar root .ended)
    (h : (rootPlace (some root)).HoldsText text) :
    ofDocumentText source = .ok n ↔ ofText text = .ok n := by
  rw [← ofDocument_eq_ok_iff h]
  unfold ofDocumentText single
  rw [hopening]
  cases hroot : ofDocument (some root) <;> simp [hroot, Except.mapError, Except.bind]

/-! ## Names and their containers -/

/-- What a name tells that a text was taken as. -/
structure Tells (text : String) (n : IteratorName) : Prop where
  same : n.text = text
  /-- The container is what stands before the ending. -/
  container : ∀ c, n.container.text = c ↔ text = c ++ iteratorSuffix
  /-- The name as a whole never stands in for the container. -/
  derived : containerOf n.text = .ok n.container
  identifier : isIdentifier n.container.text = true
  whole : n.container.text ++ iteratorSuffix = n.text
  unique : ∀ m : IteratorName, m.container = n.container → m = n

theorem tells (n : IteratorName) : Tells n.text n where
  same := rfl
  container c := by
    constructor
    · rintro rfl
      exact n.text_eq
    · intro h
      rw [n.text_eq] at h
      exact (String.append_left_inj iteratorSuffix).1 h
  derived := n.containerOf_text
  identifier := n.isIdentifier_container
  whole := n.text_eq.symm
  unique _ := container_injective

/-- Which texts are taken as names, in each way in which a text comes, and what the names tell. -/
structure Admission (text : String) : Prop where
  taken : (∃ n, ofText text = .ok n) ↔ NamesIterator text
  json : ∀ n, ofJson (.string text) = .ok n ↔ ofText text = .ok n
  document : ∀ root, (rootPlace (some root)).HoldsText text →
    ∀ n, ofDocument (some root) = .ok n ↔ ofText text = .ok n
  documentText : ∀ source root, Opening.ofText source = .scalar root .ended →
    (rootPlace (some root)).HoldsText text →
      ∀ n, ofDocumentText source = .ok n ↔ ofText text = .ok n
  /-- Among them is the text as it is written as a document of its own. -/
  written : ∀ n, ofDocumentText (Content.string text).text = .ok n ↔ ofText text = .ok n
  tells : ∀ n, ofText text = .ok n → Tells text n

theorem exists_ofText_iff : (∃ n, ofText text = .ok n) ↔ NamesIterator text := by
  constructor
  · rintro ⟨n, h⟩
    rw [← ofText_eq_ok_iff.1 h]
    exact n.namesIterator
  · intro h
    exact ⟨⟨text, nameFault?_eq_none_iff.2 h⟩, ofText_eq_ok_iff.2 rfl⟩

/-- Every text is taken in all ways or in none, as one name. -/
theorem admission (text : String) : Admission text where
  taken := exists_ofText_iff
  json _ := ofJson_string_eq_ok_iff
  document _ h _ := ofDocument_eq_ok_iff h
  documentText _ _ hopening h _ := ofDocumentText_eq_ok_iff hopening h
  written n := by
    obtain ⟨p, hopening⟩ := Opening.ofText_string text
    exact ofDocumentText_eq_ok_iff hopening ⟨_, rfl, rfl⟩
  tells n h := by
    rw [← ofText_eq_ok_iff.1 h]
    exact n.tells

example : (ofText "IteratorCountIteratorIterator").map (·.container.text) =
    .ok "IteratorCountIterator" := by decide +kernel

end IteratorName

end UniformIter
