import UniformIter.Document.Node
import UniformIter.Proofs.Document.Lexemes

/-!
# The tree of a written document

From the lexemes of a document the builder makes a tree that holds what the document says
(`Content.HeldBy`): nodes of the same shape with the same texts, without tags and anchors. Where
they stand is left open.

The builder counts down its fuel with every node, item and entry, while the lexemes are what
bounds them, so the induction carries along that there is twice as much fuel as there are lexemes
(`node_held` and the three statements beside it).
-/

namespace UniformIter.Document

namespace Content

mutual

/-- A node is what a document says. -/
def HeldBy : Content → Node → Prop
  | boolean b, n => ∃ p, n = .scalar .plain (word b) ⟨none, none, p⟩
  | string s, n => ∃ p, n = .scalar (ScalarText.styleOf s) s ⟨none, none, p⟩
  | sequence items, n => ∃ nodes p, n = .sequence nodes ⟨none, none, p⟩ ∧ ItemsHeldBy items nodes
  | mapping entries, n =>
    ∃ nodes p, n = .mapping nodes ⟨none, none, p⟩ ∧ EntriesHeldBy entries nodes

/-- So is one node after the other. -/
def ItemsHeldBy : List Content → List Node → Prop
  | [], nodes => nodes = []
  | c :: more, nodes => ∃ n rest, nodes = n :: rest ∧ HeldBy c n ∧ ItemsHeldBy more rest

/-- So is one entry after the other, with its key as a plain scalar. -/
def EntriesHeldBy : List (String × Content) → List (Node × Node) → Prop
  | [], nodes => nodes = []
  | (k, v) :: more, nodes =>
    ∃ p n rest, nodes = (.scalar .plain k ⟨none, none, p⟩, n) :: rest ∧ HeldBy v n ∧
      EntriesHeldBy more rest

end

end Content

namespace Builder

open Content

/-- The lexemes that a builder has not looked at yet. -/
def Ahead (b : Builder) (ls : List Lexeme) : Prop := b.tokens.map (·.lexeme) = ls

variable {b : Builder} {l : Lexeme} {ls : List Lexeme}

theorem Ahead.next (h : b.Ahead (l :: ls)) : b.next = l := by
  obtain ⟨t, ts, htokens, rfl, -⟩ := List.map_eq_cons_iff.1 h
  rw [Builder.next, htokens]

theorem Ahead.skip (h : b.Ahead (l :: ls)) : b.skip.Ahead ls := by
  obtain ⟨t, ts, htokens, -, hls⟩ := List.map_eq_cons_iff.1 h
  show b.tokens.tail.map (·.lexeme) = ls
  rw [htokens]
  exact hls

theorem Ahead.next_ne (h : b.Ahead ls) (hl : l ≠ .finish) (hls : ls.head? ≠ some l) :
    b.next ≠ l := by
  cases ls with
  | nil =>
    rw [Builder.next, List.map_eq_nil_iff.1 h]
    exact hl.symm
  | cons l' ls =>
    rw [h.next]
    exact fun heq => hls (congrArg some heq)

/-! ## Nodes without properties -/

theorem node_scalar {style : ScalarStyle} {text : String}
    (h : b.Ahead (.scalar style text :: ls)) (atKey : Bool) (fuel : Nat) :
    node true atKey (fuel + 1) b = some (.scalar style text ⟨none, none, b.start⟩, b.skip) := by
  simp [node, h.next, properties, label]

theorem node_brackets (h : b.Ahead (.flowSequenceOpen :: .flowSequenceClose :: ls))
    (atKey : Bool) (fuel : Nat) :
    node true atKey (fuel + 2) b = some (.sequence [] ⟨none, none, b.start⟩, b.skip.skip) := by
  simp [node, h.next, properties, label, flowItems, h.skip.next]

theorem node_braces (h : b.Ahead (.flowMappingOpen :: .flowMappingClose :: ls))
    (atKey : Bool) (fuel : Nat) :
    node true atKey (fuel + 2) b = some (.mapping [] ⟨none, none, b.start⟩, b.skip.skip) := by
  simp [node, h.next, properties, label, flowEntries, h.skip.next]

theorem node_blockSequence {b' : Builder} {items : List Node} {fuel : Nat}
    (h : b.Ahead (.blockSequence :: ls))
    (hitems : blockItems [] fuel b.skip = some (items, b')) (atKey : Bool) :
    node true atKey (fuel + 1) b = some (.sequence items ⟨none, none, b.start⟩, b') := by
  simp [node, h.next, properties, label, hitems]

theorem node_blockMapping {b' : Builder} {entries : List (Node × Node)} {fuel : Nat}
    (h : b.Ahead (.blockMapping :: ls))
    (hentries : blockEntries [] fuel b.skip = some (entries, b')) (atKey : Bool) :
    node true atKey (fuel + 1) b = some (.mapping entries ⟨none, none, b.start⟩, b') := by
  simp [node, h.next, properties, label, hentries]

/-- Behind a key a sequence may do without a block. -/
theorem node_loose {b' : Builder} {items : List Node} {fuel : Nat} (h : b.Ahead (.item :: ls))
    (hitems : looseItems [] fuel b = some (items, b')) :
    node true true (fuel + 1) b = some (.sequence items ⟨none, none, b.start⟩, b') := by
  simp [node, h.next, properties, label, hitems]

/-! ## Trees -/

/-- A value begins with a lexeme that something follows a dash, a key or a colon with. -/
theorem lexemes_begin (c : Content) (loose : Bool) :
    ∃ l ls, c.lexemes loose = l :: ls ∧ endsEntry l = false ∧
      (loose = false → endsItem l = false) ∧ l ≠ .finish ∧ opensDocument l = false := by
  match c with
  | .boolean _ | .string _ | .sequence [] | .mapping [] | .mapping (_ :: _) =>
    exact ⟨_, _, rfl, rfl, fun _ => rfl, nofun, rfl⟩
  | .sequence (_ :: _) =>
    cases loose with
    | false => exact ⟨_, _, rfl, rfl, fun _ => rfl, nofun, rfl⟩
    | true => exact ⟨_, _, rfl, rfl, nofun, nofun, rfl⟩

theorem next_of_lexemes {c : Content} {loose : Bool} (h : b.Ahead (c.lexemes loose ++ ls)) :
    endsEntry b.next = false ∧ (loose = false → endsItem b.next = false) ∧ b.next ≠ .finish ∧
      opensDocument b.next = false := by
  obtain ⟨l, more, hbegin, hl⟩ := lexemes_begin c loose
  rw [hbegin] at h
  rwa [h.next]

/-- Entries end before anything that could be taken for another item of the last one's value. -/
theorem head?_entryLexemes (more : List (String × Content)) (rest : List Lexeme) :
    (entryLexemes more ++ .blockEnd :: rest).head? ≠ some .item := by
  cases more with
  | nil => simp [entryLexemes]
  | cons e more => simp [entryLexemes]

mutual

/-- The builder makes a node of a value. -/
theorem node_held (c : Content) (b : Builder) (rest : List Lexeme) (atKey : Bool) (fuel : Nat)
    (hfuel : 2 * (c.lexemes atKey).length ≤ fuel) (h : b.Ahead (c.lexemes atKey ++ rest))
    (hrest : atKey = true → rest.head? ≠ some .item) :
    ∃ n b', node true atKey (fuel + 2) b = some (n, b') ∧ b'.Ahead rest ∧ c.HeldBy n := by
  match c with
  | .boolean v => exact ⟨_, _, node_scalar h atKey _, h.skip, _, rfl⟩
  | .string s => exact ⟨_, _, node_scalar h atKey _, h.skip, _, rfl⟩
  | .sequence [] => exact ⟨_, _, node_brackets h atKey _, h.skip.skip, [], _, rfl, rfl⟩
  | .mapping [] => exact ⟨_, _, node_braces h atKey _, h.skip.skip, [], _, rfl, rfl⟩
  | .sequence (c :: more) =>
    cases atKey with
    | true =>
      have hshort : 2 * (itemLexemes (c :: more)).length ≤ fuel := hfuel
      obtain ⟨nodes, b', hitems, hb', hheld⟩ :=
        looseItems_held (c :: more) b rest [] fuel hshort h (hrest rfl)
      exact ⟨_, b', node_loose h hitems, hb', nodes, b.start, rfl, hheld⟩
    | false =>
      have hshort : 2 * (itemLexemes (c :: more)).length ≤ fuel := by
        simp only [lexemes, Bool.false_eq_true, if_false, List.length_cons,
          List.length_append] at hfuel
        omega
      have h : b.Ahead (.blockSequence :: (itemLexemes (c :: more) ++ [.blockEnd] ++ rest)) := h
      have hskip := h.skip
      rw [List.append_assoc] at hskip
      obtain ⟨nodes, b', hitems, hb', hheld⟩ :=
        blockItems_held (c :: more) b.skip rest [] fuel hshort hskip
      exact ⟨_, b', node_blockSequence h hitems false, hb', nodes, b.start, rfl, hheld⟩
  | .mapping (e :: more) =>
    have hshort : 2 * (entryLexemes (e :: more)).length ≤ fuel := by
      simp only [lexemes, List.length_cons, List.length_append] at hfuel
      omega
    have h : b.Ahead (.blockMapping :: (entryLexemes (e :: more) ++ [.blockEnd] ++ rest)) := h
    have hskip := h.skip
    rw [List.append_assoc] at hskip
    obtain ⟨nodes, b', hentries, hb', hheld⟩ :=
      blockEntries_held (e :: more) b.skip rest [] fuel hshort hskip
    exact ⟨_, b', node_blockMapping h hentries atKey, hb', nodes, b.start, rfl, hheld⟩
termination_by sizeOf c

/-- The builder makes nodes of the items in a block. -/
theorem blockItems_held (items : List Content) (b : Builder) (rest : List Lexeme)
    (acc : List Node) (fuel : Nat) (hfuel : 2 * (itemLexemes items).length ≤ fuel)
    (h : b.Ahead (itemLexemes items ++ .blockEnd :: rest)) :
    ∃ nodes b', blockItems acc (fuel + 1) b = some (acc.reverse ++ nodes, b') ∧ b'.Ahead rest ∧
      ItemsHeldBy items nodes := by
  match items with
  | [] =>
    refine ⟨[], b.skip, ?_, h.skip, rfl⟩
    rw [blockItems, h.next, List.append_nil]
  | c :: more =>
    rw [itemLexemes, List.cons_append, List.append_assoc] at h
    rw [itemLexemes, List.length_cons, List.length_append] at hfuel
    obtain ⟨fuel, rfl⟩ : ∃ f, fuel = f + 2 := ⟨fuel - 2, by omega⟩
    obtain ⟨-, hitem, -⟩ := next_of_lexemes h.skip
    obtain ⟨n, b₁, hnode, hb₁, hn⟩ :=
      node_held c b.skip _ false fuel (by omega) h.skip (fun hno => by cases hno)
    obtain ⟨nodes, b', hmore, hb', hnodes⟩ :=
      blockItems_held more b₁ rest (n :: acc) (fuel + 1) (by omega) hb₁
    refine ⟨n :: nodes, b', ?_, hb', n, nodes, rfl, hn, hnodes⟩
    rw [blockItems, h.next, hitem rfl]
    simp only [Bool.false_eq_true, if_false, hnode, Option.bind_eq_bind, Option.bind_some, hmore,
      List.reverse_cons, List.append_assoc, List.singleton_append]
termination_by sizeOf items

/-- The builder makes nodes of items without a block of their own, up to what is no item. -/
theorem looseItems_held (items : List Content) (b : Builder) (rest : List Lexeme)
    (acc : List Node) (fuel : Nat) (hfuel : 2 * (itemLexemes items).length ≤ fuel)
    (h : b.Ahead (itemLexemes items ++ rest)) (hrest : rest.head? ≠ some .item) :
    ∃ nodes b', looseItems acc (fuel + 1) b = some (acc.reverse ++ nodes, b') ∧ b'.Ahead rest ∧
      ItemsHeldBy items nodes := by
  match items with
  | [] =>
    refine ⟨[], b, ?_, h, rfl⟩
    rw [looseItems, List.append_nil]
    split
    next hitem => exact absurd hitem (h.next_ne (by decide) hrest)
    next => rfl
  | c :: more =>
    rw [itemLexemes, List.cons_append, List.append_assoc] at h
    rw [itemLexemes, List.length_cons, List.length_append] at hfuel
    obtain ⟨fuel, rfl⟩ : ∃ f, fuel = f + 2 := ⟨fuel - 2, by omega⟩
    obtain ⟨hentry, hitem, -⟩ := next_of_lexemes h.skip
    obtain ⟨n, b₁, hnode, hb₁, hn⟩ :=
      node_held c b.skip _ false fuel (by omega) h.skip (fun hno => by cases hno)
    obtain ⟨nodes, b', hmore, hb', hnodes⟩ :=
      looseItems_held more b₁ rest (n :: acc) (fuel + 1) (by omega) hb₁ hrest
    refine ⟨n :: nodes, b', ?_, hb', n, nodes, rfl, hn, hnodes⟩
    rw [looseItems, h.next, hentry, hitem rfl]
    simp only [Bool.or_self, Bool.false_eq_true, if_false, hnode, Option.bind_eq_bind,
      Option.bind_some, hmore, List.reverse_cons, List.append_assoc, List.singleton_append]
termination_by sizeOf items

/-- The builder makes nodes of the entries in a block. -/
theorem blockEntries_held (entries : List (String × Content)) (b : Builder) (rest : List Lexeme)
    (acc : List (Node × Node)) (fuel : Nat) (hfuel : 2 * (entryLexemes entries).length ≤ fuel)
    (h : b.Ahead (entryLexemes entries ++ .blockEnd :: rest)) :
    ∃ nodes b', blockEntries acc (fuel + 1) b = some (acc.reverse ++ nodes, b') ∧ b'.Ahead rest ∧
      EntriesHeldBy entries nodes := by
  match entries with
  | [] =>
    refine ⟨[], b.skip, ?_, h.skip, rfl⟩
    rw [blockEntries, h.next, List.append_nil]
  | (k, v) :: more =>
    rw [entryLexemes, List.cons_append, List.cons_append, List.cons_append, List.append_assoc] at h
    rw [entryLexemes, List.length_cons, List.length_cons, List.length_cons,
      List.length_append] at hfuel
    obtain ⟨fuel, rfl⟩ : ∃ f, fuel = f + 3 := ⟨fuel - 3, by omega⟩
    obtain ⟨hentry, -⟩ := next_of_lexemes h.skip.skip.skip
    have hkey : blockPart (fuel + 3) b =
        some (.scalar .plain k ⟨none, none, b.skip.start⟩, b.skip.skip) := by
      rw [blockPart, h.skip.next]
      exact node_scalar h.skip true _
    -- The value ends where the next key or the block's end begins, which is no item.
    obtain ⟨n, b₁, hnode, hb₁, hn⟩ := node_held v b.skip.skip.skip _ true fuel (by omega)
      h.skip.skip.skip (fun _ => head?_entryLexemes more rest)
    have hvalue : blockPart (fuel + 3) b.skip.skip = some (n, b₁) := by
      rw [blockPart, hentry]
      exact hnode
    obtain ⟨nodes, b', hmore, hb', hnodes⟩ := blockEntries_held more b₁ rest
      ((.scalar .plain k ⟨none, none, b.skip.start⟩, n) :: acc) (fuel + 2) (by omega) hb₁
    refine ⟨_ :: nodes, b', ?_, hb', b.skip.start, n, nodes, rfl, hn, hnodes⟩
    rw [blockEntries, h.next]
    simp only [hkey, Option.bind_eq_bind, Option.bind_some, h.skip.skip.next, hvalue, hmore,
      List.reverse_cons, List.append_assoc, List.singleton_append]
termination_by sizeOf entries

end

end Builder

/-! ## Reading back -/

/-- A written document is read, and its tree is what it says. -/
theorem Content.read_text (c : Content) (hc : c.Keyed) :
    ∃ n, read c.text = some (some n) ∧ c.HeldBy n := by
  have htokens := c.tokenize_text hc
  have hahead : Builder.Ahead ⟨tokenize c.text.toList, [], Builder.standardAbbreviations⟩
      (c.lexemes false ++ [.finish]) := htokens
  have hlength := congrArg List.length htokens
  rw [List.length_map, List.length_append, List.length_singleton] at hlength
  obtain ⟨n, b', hnode, hb', hheld⟩ := Builder.node_held c _ [.finish] false
    (2 * (tokenize c.text.toList).length) (by omega) hahead (fun hno => by cases hno)
  obtain ⟨-, -, hfinish, hopens⟩ := Builder.next_of_lexemes hahead
  have hfirst : Builder.first (tokenize c.text.toList) =
      some (some (true, ⟨tokenize c.text.toList, [], Builder.standardAbbreviations⟩)) := by
    rw [Builder.first]
    dsimp only
    rw [if_neg (by simpa using hfinish), hopens]
    rfl
  -- Behind the root there is nothing but the end of the text.
  obtain ⟨last, hlast, hend⟩ := List.map_eq_singleton_iff.1 hb'
  have hroot : Builder.root (tokenize c.text.toList) = some (some n, [last]) := by
    rw [Builder.root, hfirst]
    simp only [Option.bind_eq_bind, Option.bind_some, hnode, hlast]
  have hdrop : [last].dropWhile (·.lexeme == .documentEnd) = [last] := by
    rw [List.dropWhile_cons_of_neg (by rw [hend]; decide)]
  refine ⟨n, ?_, hheld⟩
  rw [read, hroot]
  simp only [Option.bind_eq_bind, Option.bind_some, hdrop]
  obtain ⟨lexeme, start, stop⟩ := last
  obtain rfl : lexeme = .finish := hend
  rfl

end UniformIter.Document
