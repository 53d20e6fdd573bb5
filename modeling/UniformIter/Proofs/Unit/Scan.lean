import UniformIter.Naming.Identifier
import UniformIter.Proofs.Text.Runs
import UniformIter.Unit.Renderer

/-!
# Scanning the lines of a unit

A second look at a unit, from its text alone: the text is cut into lines, and a line that has
the form of a rule tells what the rule is about, together with the names that stand in it. A
name is taken to the end of its identifier, so `FooIterator` is never found in
`FooIteratorIterator`.

`namesIn?_fill` says that a line reads as the names that it was filled with, and `Tells` keeps
account of what whole lists of lines tell a scanner.
-/

namespace UniformIter.Scan

/-! ## Lines -/

/-- The lines of a text. -/
def textLines (s : List Char) : List (List Char) := s.splitOn '\n'

/-- What comes behind the last of the elements that have a property. -/
def afterLast? {α : Type} (p : α → Bool) : List α → Option (List α)
  | [] => none
  | a :: more =>
    match afterLast? p more with
    | some rest => some rest
    | none => if p a then some more else none

/-- Every line that was written ends where the next one begins, and an empty one stands behind the
last. -/
theorem textLines_unlines (ls : List String) :
    textLines (unlines ls).toList = ls.flatMap (fun l => textLines l.toList) ++ [[]] := by
  induction ls with
  | nil => rfl
  | cons l ls ih =>
    have hsplit : (unlines (l :: ls)).toList = l.toList ++ '\n' :: (unlines ls).toList := by
      simp [unlines]
    rw [hsplit, textLines, List.splitOn_append_cons_self, ← textLines, ← textLines, ih,
      List.flatMap_cons, List.append_assoc]

theorem afterLast?_eq_none {α : Type} {p : α → Bool} {l : List α} (h : ∀ a ∈ l, p a = false) :
    afterLast? p l = none := by
  induction l with
  | nil => rfl
  | cons a l ih =>
    rw [afterLast?, ih fun b hb => h b (List.mem_cons_of_mem _ hb), h a List.mem_cons_self]
    rfl

theorem afterLast?_append_cons {α : Type} {p : α → Bool} (before : List α) {a : α}
    {rest : List α} (ha : p a = true) (hrest : ∀ b ∈ rest, p b = false) :
    afterLast? p (before ++ a :: rest) = some rest := by
  induction before with
  | nil =>
    rw [List.nil_append, afterLast?, afterLast?_eq_none hrest, ha]
    rfl
  | cons b before ih => rw [List.cons_append, afterLast?, ih]

/-! ## Characters that a text does without -/

/-- A text in which a character does not stand. -/
def Without (c : Char) (s : String) : Prop := c ∉ s.toList

instance (c : Char) (s : String) : Decidable (Without c s) :=
  inferInstanceAs (Decidable (c ∉ s.toList))

theorem without_text {c : Char} {cs : List Char} (h : cs.all (· != c) = true) :
    Without c (String.ofList cs) := by
  unfold Without
  rw [String.toList_ofList]
  exact fun hmem => bne_iff_ne.1 (List.all_eq_true.1 h _ hmem) rfl

theorem without_append {c : Char} {a b : String} :
    Without c (a ++ b) ↔ Without c a ∧ Without c b := by
  unfold Without
  rw [String.toList_append, List.mem_append, not_or]

/-! ## Texts that stand on one line -/

/-- Identifiers stand on one line. -/
theorem newline_not_mem {s : String} (h : isIdentifier s = true) : '\n' ∉ s.toList :=
  not_mem_of_isIdentifier h (by decide)

/-- A text that does not go over the end of a line. -/
def IsLine (s : String) : Prop := '\n' ∉ s.toList

theorem isLine_text {cs : List Char} (h : cs.all (· != '\n') = true) :
    IsLine (String.ofList cs) :=
  without_text h

theorem isLine_append {a b : String} : IsLine (a ++ b) ↔ IsLine a ∧ IsLine b :=
  without_append

theorem isLine_of_isIdentifier {s : String} (h : isIdentifier s = true) : IsLine s :=
  newline_not_mem h

/-- Texts that stand on one line each are their own lines. -/
theorem flatMap_textLines {ls : List String} (h : ∀ l ∈ ls, IsLine l) :
    ls.flatMap (fun l => textLines l.toList) = ls.map String.toList := by
  have hone : ∀ l ∈ ls, textLines l.toList = [l.toList] := fun l hl =>
    List.splitOn_eq_singleton (h l hl)
  rw [List.flatMap_def, List.map_congr_left hone, ← List.flatMap_def, ← List.map_eq_flatMap]

/-- The lines of a text are those that it was written from, and an empty one behind the last. -/
theorem textLines_of_isLine {ls : List String} (h : ∀ l ∈ ls, IsLine l) :
    textLines (unlines ls).toList = ls.map String.toList ++ [[]] := by
  rw [textLines_unlines, flatMap_textLines h]

/-! ## Names in a line -/

/-- A piece of a line: a text as it stands, or a name. -/
inductive Piece where
  | text (s : String)
  | name

/-- The line of these pieces with the given names in it. -/
def fill : List Piece → List String → List Char
  | [], _ => []
  | .text t :: more, names => t.toList ++ fill more names
  | .name :: more, n :: names => n.toList ++ fill more names
  | .name :: _, [] => []

/-- The names in a line, if it is made of these pieces. -/
def namesIn? : List Piece → List Char → Option (List String)
  | [], l => if l = [] then some [] else none
  | .text t :: more, l =>
    if t.toList.isPrefixOf l then namesIn? more (l.drop t.toList.length) else none
  | .name :: more, l =>
    let word := l.takeWhile continuesIdentifier
    if formIdentifier word then
      (namesIn? more (l.dropWhile continuesIdentifier)).map (String.ofList word :: ·)
    else none

/-- How many names stand in a line of these pieces. -/
def places : List Piece → Nat
  | [] => 0
  | .text _ :: more => places more
  | .name :: more => places more + 1

/-- Whether the pieces begin with something that no name goes on into: a text, or the end of the
line. -/
def endsName : List Piece → Bool
  | [] => true
  | .text t :: _ => t.toList.head?.any fun c => !continuesIdentifier c
  | .name :: _ => false

/-- Whether this is so behind every name. -/
def isSeparated : List Piece → Bool
  | [] => true
  | .text _ :: more => isSeparated more
  | .name :: more => endsName more && isSeparated more

/-- Pieces that end a name begin with no character that it goes on with. -/
theorem head_fill {ps : List Piece} (h : endsName ps = true) (names : List String) :
    ∀ c ∈ (fill ps names).head?, continuesIdentifier c = false := by
  cases ps with
  | nil => simp [fill]
  | cons p more =>
    cases p with
    | text t =>
      rw [endsName] at h
      cases ht : t.toList with
      | nil => rw [ht] at h; exact absurd h (by simp)
      | cons c r =>
        rw [ht] at h
        simpa [fill, ht] using h
    | name => exact absurd h (by simp [endsName])

/-- A line reads as the names that it was filled with. -/
theorem namesIn?_fill {ps : List Piece} {names : List String} (hs : isSeparated ps = true)
    (hn : ∀ n ∈ names, isIdentifier n = true) (hl : names.length = places ps) :
    namesIn? ps (fill ps names) = some names := by
  induction ps generalizing names with
  | nil =>
    rw [List.length_eq_zero_iff.1 hl]
    rfl
  | cons p more ih =>
    cases p with
    | text t =>
      rw [fill, namesIn?, if_pos (List.isPrefixOf_iff_prefix.2 (List.prefix_append _ _)),
        List.drop_left]
      exact ih hs hn hl
    | name =>
      obtain ⟨n, names, rfl⟩ := List.exists_cons_of_length_eq_add_one hl
      rw [isSeparated, Bool.and_eq_true] at hs
      have hid : formIdentifier n.toList = true := hn n List.mem_cons_self
      obtain ⟨htake, hdrop⟩ := takeWhile_run
        (List.all_eq_true.1 (all_continues_of_formIdentifier hid)) (head_fill hs.1 names)
      rw [fill, namesIn?, htake, hdrop, if_pos hid,
        ih hs.2 (fun m hm => hn m (List.mem_cons_of_mem _ hm)) (Nat.succ.inj hl),
        Option.map_some, String.ofList_toList]

/-! ## Rules -/

/-- What a line of a unit is about. -/
inductive Topic where
  /-- A variant of the closed type of everything that can be dispatched. -/
  | variant
  /-- The test of a case. -/
  | case
  /-- The adapter that a case makes. -/
  | construction
  /-- The branch for everything that no case takes. -/
  | fallback
  /-- The struct of an adapter. -/
  | definition
  /-- The field of an adapter's owner. -/
  | owner
  /-- The field of an adapter's cursor. -/
  | cursor
  deriving DecidableEq

/-- What a line tells: its topic, and the names that stand in it, in order. -/
structure Finding where
  topic : Topic
  names : List String
  deriving DecidableEq

/-- The form of the lines about a topic. -/
structure Rule where
  pieces : List Piece
  topic : Topic

/-- How a language's units are scanned: from behind the last line that opens the cases, each
line by the first rule that it has the form of. -/
structure Scanner where
  opens : List Char → Bool
  rules : List Rule

namespace Scanner

/-- What a line tells. -/
def finding? (S : Scanner) (l : List Char) : Option Finding :=
  S.rules.findSome? fun r => (namesIn? r.pieces l).map (⟨r.topic, ·⟩)

/-- What a text tells, if some line of it opens the cases. -/
def scan? (S : Scanner) (text : String) : Option (List Finding) :=
  (afterLast? S.opens (textLines text.toList)).map (·.filterMap S.finding?)

end Scanner

/-- The names in the lines about a topic. -/
def namesOf (t : Topic) (found : List Finding) : List (List String) :=
  (found.filter (·.topic == t)).map (·.names)

/-- A line with the form of a rule, and of none before it, tells the names that it was filled
with. -/
theorem Scanner.finding?_fill (S : Scanner) (i : Nat) {r : Rule} {names : List String}
    (hr : S.rules[i]? = some r) (hs : isSeparated r.pieces = true)
    (hn : ∀ n ∈ names, isIdentifier n = true) (hl : names.length = places r.pieces)
    (hb : (S.rules.take i).all (fun b => (namesIn? b.pieces (fill r.pieces names)).isNone) = true) :
    S.finding? (fill r.pieces names) = some ⟨r.topic, names⟩ := by
  obtain ⟨hi, hget⟩ := List.getElem?_eq_some_iff.1 hr
  have hsplit : S.rules = S.rules.take i ++ r :: S.rules.drop (i + 1) := by
    rw [← hget, ← List.drop_eq_getElem_cons hi, List.take_append_drop]
  have hbefore : (S.rules.take i).findSome?
      (fun b => (namesIn? b.pieces (fill r.pieces names)).map (Finding.mk b.topic)) = none := by
    refine List.findSome?_eq_none_iff.2 fun b hmem => ?_
    rw [Option.isNone_iff_eq_none.1 (List.all_eq_true.1 hb b hmem), Option.map_none]
  rw [finding?, hsplit, List.findSome?_append, hbefore, Option.none_or, List.findSome?_cons,
    namesIn?_fill hs hn hl]
  rfl

/-! ## What lists of lines tell -/

/-- These lines tell a scanner exactly this, and open no cases. -/
structure Tells (S : Scanner) (ls : List (List Char)) (found : List Finding) : Prop where
  /-- Each of them is one line. -/
  single : ∀ l ∈ ls, '\n' ∉ l
  closed : ∀ l ∈ ls, S.opens l = false
  found : ls.filterMap S.finding? = found

namespace Tells

variable {S : Scanner} {l : List Char} {ls ms : List (List Char)} {f g : List Finding}

theorem nil : Tells S [] [] := ⟨by simp, by simp, rfl⟩

/-- A line that tells nothing. -/
theorem silent (hs : '\n' ∉ l) (hc : S.opens l = false) (hf : S.finding? l = none)
    (h : Tells S ls f) : Tells S (l :: ls) f where
  single := List.forall_mem_cons.2 ⟨hs, h.single⟩
  closed := List.forall_mem_cons.2 ⟨hc, h.closed⟩
  found := by rw [List.filterMap_cons_none hf, h.found]

/-- A line that tells something. -/
theorem telling {a : Finding} (hs : '\n' ∉ l) (hc : S.opens l = false)
    (hf : S.finding? l = some a) (h : Tells S ls f) : Tells S (l :: ls) (a :: f) where
  single := List.forall_mem_cons.2 ⟨hs, h.single⟩
  closed := List.forall_mem_cons.2 ⟨hc, h.closed⟩
  found := by rw [List.filterMap_cons_some hf, h.found]

/-- A line with the form of a rule, and of none before it. -/
theorem rule (i : Nat) {r : Rule} {t : Topic} {names : List String}
    (hr : S.rules[i]? = some r) (ht : r.topic = t) (hl : l = fill r.pieces names)
    (hn : ∀ n ∈ names, isIdentifier n = true) (hs : isSeparated r.pieces = true)
    (hp : names.length = places r.pieces)
    (hb : (S.rules.take i).all (fun b => (namesIn? b.pieces (fill r.pieces names)).isNone) = true)
    (hc : S.opens l = false) (hnl : '\n' ∉ l) (h : Tells S ls f) :
    Tells S (l :: ls) (⟨t, names⟩ :: f) :=
  telling hnl hc (by rw [hl, S.finding?_fill i hr hs hn hp hb, ht]) h

theorem append (hl : Tells S ls f) (hm : Tells S ms g) : Tells S (ls ++ ms) (f ++ g) where
  single l h := (List.mem_append.1 h).elim (hl.single l) (hm.single l)
  closed l h := (List.mem_append.1 h).elim (hl.closed l) (hm.closed l)
  found := by rw [List.filterMap_append, hl.found, hm.found]

/-- What the lines for every entry tell, one entry after the other. -/
theorem flatMap {es : List Entry} {lines : Entry → List String} {found : Entry → List Finding}
    (h : ∀ e, Tells S ((lines e).map String.toList) (found e)) :
    Tells S ((es.flatMap lines).map String.toList) (es.flatMap found) := by
  induction es with
  | nil => exact nil
  | cons e es ih =>
    rw [List.flatMap_cons, List.flatMap_cons, List.map_append]
    exact (h e).append ih

/-- A unit tells what the lines behind its last opening line tell, whatever stands before it. -/
theorem scan? {before after : List String} {opening : String} {found : List Finding}
    (hs : '\n' ∉ opening.toList) (ho : S.opens opening.toList = true)
    (ha : Tells S (after.map String.toList) found) (hend : S.opens [] = false)
    (hempty : S.finding? [] = none) :
    S.scan? (unlines (before ++ opening :: after)) = some found := by
  have hopening : textLines opening.toList = [opening.toList] := List.splitOn_eq_singleton hs
  have hafter : after.flatMap (fun l => textLines l.toList) = after.map String.toList :=
    flatMap_textLines fun l hl => ha.single l.toList (List.mem_map_of_mem hl)
  have hlines : textLines (unlines (before ++ opening :: after)).toList =
      before.flatMap (fun l => textLines l.toList) ++
        opening.toList :: (after.map String.toList ++ [[]]) := by
    rw [textLines_unlines, List.flatMap_append, List.flatMap_cons, hafter, hopening,
      List.append_assoc, List.append_assoc, List.singleton_append]
  -- The end of the text is one more line, an empty one.
  have hall : Tells S (after.map String.toList ++ [[]]) (found ++ []) :=
    ha.append (silent (by simp) hend hempty nil)
  rw [Scanner.scan?, hlines, afterLast?_append_cons _ ho hall.closed, Option.map_some, hall.found,
    List.append_nil]

end Tells

end UniformIter.Scan
