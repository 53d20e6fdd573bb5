import UniformIter.Proofs.Document.Allowed
import UniformIter.Proofs.Document.Indicators
import UniformIter.Proofs.Document.Scalars

/-!
# The lexemes of a written document

What a document is to say determines its lexemes (`Content.lexemes`), and the tokenizer finds
exactly these in its text (`tokenize_text`). The two places where a value stands differ in one
thing: behind a key the dashes of a sequence are no deeper than the key, so the sequence opens no
block.

The induction goes over the tree, with four statements for the four functions that write it. Each
of them says that the lexemes of the part are read and that reading stands on the next line
behind it, whatever that line is: the column of the line decides, when it comes to it, which
blocks close.
-/

namespace UniformIter.Document

namespace Content

mutual

/-- The lexemes of a value. `loose` says that a key stands before it. -/
def lexemes (loose : Bool) : Content → List Lexeme
  | boolean b => [.scalar .plain (word b)]
  | string s => [.scalar (ScalarText.styleOf s) s]
  | sequence [] => [.flowSequenceOpen, .flowSequenceClose]
  | sequence items =>
    if loose then itemLexemes items else .blockSequence :: (itemLexemes items ++ [.blockEnd])
  | mapping [] => [.flowMappingOpen, .flowMappingClose]
  | mapping entries => .blockMapping :: (entryLexemes entries ++ [.blockEnd])

/-- The lexemes of items with their dashes. -/
def itemLexemes : List Content → List Lexeme
  | [] => []
  | c :: more => .item :: (lexemes false c ++ itemLexemes more)

/-- The lexemes of entries with their keys and colons. -/
def entryLexemes : List (String × Content) → List Lexeme
  | [] => []
  | (k, v) :: more =>
    .key :: .scalar .plain k :: .value :: (lexemes true v ++ entryLexemes more)

end

/-- A sequence behind a key opens no block, a mapping does. -/
example : lexemes false (mapping [("a", sequence [boolean true])]) =
    [.blockMapping, .key, .scalar .plain "a", .value, .item, .scalar .plain "true", .blockEnd] :=
  rfl

/-! ## How lines begin -/

theorem allowsPlain_word (b : Bool) : ScalarText.allowsPlain (word b).toList = true := by
  cases b <;> decide

theorem beginsToken_plain {s : List Char} (h : ScalarText.allowsPlain s = true) (y : List Char) :
    BeginsToken (s ++ y) := by
  obtain ⟨hne, hline⟩ := plainLine_of_allowsPlain h
  cases s with
  | nil => exact absurd rfl hne
  | cons c r =>
    simp only [ScalarText.allowsPlain, Bool.and_eq_true, Bool.not_eq_true',
      List.all_eq_true] at h
    have hprintable := (h.1.1.1 c List.mem_cons_self).1
    have hindicator := (Tokenizer.plain_begins h.1.2).1
    refine beginsToken_cons ⟨hline.begins c rfl, ?_, ?_⟩ _
    · rintro rfl
      exact absurd hindicator (by decide)
    · rintro rfl
      exact absurd hprintable (by decide)

theorem beginsToken_scalarLine (indent : Nat) (s : String) (y : List Char) :
    BeginsToken (scalarLine indent s ++ y) := by
  rw [scalarLine]
  rcases styleOf_cases s with ⟨hstyle, -, -⟩ | ⟨hstyle, -, hs⟩ | ⟨hstyle, -, -⟩ | hstyle
  · rw [hstyle]
    exact beginsToken_cons (by decide) _
  · rw [hstyle, List.append_assoc]
    exact beginsToken_plain hs _
  · rw [hstyle]
    exact beginsToken_cons (by decide) _
  · rw [hstyle]
    exact beginsToken_cons (by decide) _

theorem beginsToken_key {key : List Char} (h : IsKeyWord key) (y : List Char) :
    BeginsToken (key ++ y) := by
  obtain ⟨c, r, rfl⟩ := List.exists_cons_of_ne_nil h.nonempty
  exact beginsToken_cons ⟨h.isGap List.mem_cons_self, h.ne List.mem_cons_self (by decide),
    h.ne List.mem_cons_self (by decide)⟩ _

theorem itemLines_cons (indent : Nat) (atStart : Bool) (c : Content) (more : List Content) :
    itemLines indent atStart (c :: more) =
      (if atStart then List.replicate indent ' ' else []) ++
        '-' :: ' ' :: (afterDash indent c ++ itemLines indent true more) := rfl

theorem entryLines_cons (indent : Nat) (atStart : Bool) (k : String) (v : Content)
    (more : List (String × Content)) :
    entryLines indent atStart ((k, v) :: more) =
      (if atStart then List.replicate indent ' ' else []) ++
        (k.toList ++ ':' :: (afterKey indent v ++ entryLines indent true more)) := rfl

/-- Behind an item stands the next one. -/
theorem nextLine_items (d : Nat) (c : Content) (more : List Content) (y : List Char) :
    NextLine (d + 1) d (itemLines d false (c :: more) ++ y) where
  begins := beginsToken_cons (by decide) _
  left _ := Nat.lt_succ_self d
  ended h := by cases h

theorem nextLine_entries (d : Nat) {k : String} (hk : IsKeyWord k.toList) (v : Content)
    (more : List (String × Content)) (y : List Char) :
    NextLine (d + 1) d (entryLines d false ((k, v) :: more) ++ y) where
  begins := by
    rw [entryLines_cons, if_neg (by decide), List.nil_append, List.append_assoc]
    exact beginsToken_key hk _
  left _ := Nat.lt_succ_self d
  ended h := by
    rw [entryLines_cons, if_neg (by decide), List.nil_append, List.append_assoc,
      List.append_eq_nil_iff] at h
    exact absurd h.1 hk.nonempty

/-- So does the item behind its dash, if every key in it is a word. -/
theorem beginsToken_afterDash {c : Content} (hc : c.Keyed) (d : Nat) (y : List Char) :
    BeginsToken (afterDash d c ++ y) := by
  match c, hc with
  | .boolean b, _ =>
    rw [afterDash, List.append_assoc]
    exact beginsToken_plain (allowsPlain_word b) _
  | .string s, _ => exact beginsToken_scalarLine _ s _
  | .sequence [], _ => exact beginsToken_cons (by decide) _
  | .mapping [], _ => exact beginsToken_cons (by decide) _
  | .sequence (c :: more), _ => exact (nextLine_items (d + 2) c more y).begins
  | .mapping ((k, v) :: more), hc => exact (nextLine_entries (d + 2) hc.1 v more y).begins

theorem afterKey_sequence (d : Nat) (c : Content) (more : List Content) :
    afterKey d (.sequence (c :: more)) =
      '\n' :: (List.replicate d ' ' ++ itemLines d false (c :: more)) := rfl

theorem afterKey_mapping (d : Nat) (entry : String × Content)
    (more : List (String × Content)) :
    afterKey d (.mapping (entry :: more)) =
      '\n' :: (List.replicate (d + 2) ' ' ++ entryLines (d + 2) false (entry :: more)) := rfl

/-- Behind the colon of a key stands a space or the end of the line. -/
theorem startsGapOrEnd_afterKey (d : Nat) (v : Content) (y : List Char) :
    startsGapOrEnd (afterKey d v ++ y) = true := by
  match v with
  | .boolean _ | .string _ | .sequence [] | .mapping [] => rfl
  | .sequence (_ :: _) | .mapping (_ :: _) => rfl

/-- Items behind the first begin a line of their own. -/
theorem itemLines_atStart (d : Nat) (c : Content) (more : List Content) :
    itemLines d true (c :: more) = List.replicate d ' ' ++ itemLines d false (c :: more) := rfl

theorem entryLines_atStart (d : Nat) (entry : String × Content)
    (more : List (String × Content)) :
    entryLines d true (entry :: more) =
      List.replicate d ' ' ++ entryLines d false (entry :: more) := rfl

end Content

namespace Tokenizer

open Content

variable {t : Tokenizer} {cols : List Nat} {lexemes : List Lexeme}

/-- A block that opened deeper than the next line closes there. -/
theorem Lands.closeOpened {x : List Char} {c d k : Nat} {keyAllowed : Bool} {l : Lexeme}
    {inner : List Lexeme} (hcols : cols.head? = some d) (hd : d < c) (hk : k < c)
    (h : t.Lands x k keyAllowed (openedAt c cols) (inner ++ (opening c l cols ++ lexemes))) :
    t.Lands x k keyAllowed cols (.blockEnd :: (inner ++ l :: lexemes)) := by
  have hnew : ¬c < floorOf cols := by
    rw [floorOf_of_head? hcols]
    omega
  rw [openedAt, if_neg hnew, opening, if_neg hnew] at h
  exact h.close hk

mutual

/-- What is behind a dash is read. -/
theorem item_leads {t : Tokenizer} {cols : List Nat} {lexemes : List Lexeme} (c : Content)
    (hc : c.Keyed) {d k : Nat} {x : List Char}
    (h : t.Lands (c.afterDash d ++ (List.replicate k ' ' ++ x)) (d + 2) true cols lexemes)
    (hcols : cols.head? = some d) (hx : NextLine (d + 1) k x) :
    ∃ u, t.Leads u ∧ u.Lands x k true cols ((c.lexemes false).reverse ++ lexemes) := by
  have hfloor := floorOf_of_head? hcols
  have hk := hx.lt
  have hle := le_of_head? hcols (Nat.le_add_right d 2)
  have hfree : true = true → floorOf cols ≠ d + 2 + 1 := by omega
  match c, hc with
  | .boolean b, _ =>
    rw [afterDash, List.append_assoc] at h
    obtain ⟨u, hleads, hlands⟩ := word_leads h (allowsPlain_word b) hle hfree (hfloor ▸ hx)
    rw [String.ofList_toList] at hlands
    exact ⟨u, hleads, hlands⟩
  | .string s, _ =>
    have hcolumn : blockColumn (floorOf cols) = d + 2 := by rw [hfloor]; rfl
    rw [afterDash, ← hcolumn] at h
    exact scalar_leads h (hcolumn ▸ hle) (hcolumn ▸ hfree) (hfloor ▸ hx)
  | .sequence [], _ => exact brackets_lead h hle hfree hx.begins
  | .mapping [], _ => exact braces_lead h hle hfree hx.begins
  | .sequence (c :: more), hc =>
    obtain ⟨u, hleads, hlands⟩ := items_leads c more hc h hle (hx.mono (by omega))
    refine ⟨u, hleads, ?_⟩
    simpa [Content.lexemes] using hlands.closeOpened hcols (by omega) (by omega)
  | .mapping ((key, v) :: more), hc =>
    obtain ⟨u, hleads, hlands⟩ := entries_leads key v more hc h hle (hx.mono (by omega))
    refine ⟨u, hleads, ?_⟩
    simpa [Content.lexemes] using hlands.closeOpened hcols (by omega) (by omega)
termination_by sizeOf c

/-- What is behind a key is read. -/
theorem value_leads {t : Tokenizer} {cols : List Nat} {lexemes : List Lexeme} (v : Content)
    (hv : v.Keyed) {d k : Nat} {x : List Char} (h : t.Stands cols lexemes)
    (hrest : t.rest = v.afterKey d ++ (List.replicate k ' ' ++ x)) (hkey : t.keyAllowed = false)
    (hpending : t.pending = none) (hcolumn : d ≤ t.position.column) (hcols : cols.head? = some d)
    (hx : NextLine (d + 1) k x) :
    ∃ u, t.Leads u ∧ u.Lands x k true cols ((v.lexemes true).reverse ++ lexemes) := by
  have hfloor := floorOf_of_head? hcols
  have hk := hx.lt
  have hle := le_of_head? hcols (Nat.le_succ_of_le hcolumn)
  have hfree : t.keyAllowed = true → floorOf cols ≠ t.position.column + 1 + 1 := by
    rw [hkey]
    exact fun hno => by cases hno
  match v, hv with
  | .boolean b, _ =>
    rw [afterKey, List.cons_append, List.cons_append, List.append_assoc] at hrest
    have hlands := h.lands_space hpending hrest (beginsToken_plain (allowsPlain_word b) _)
    obtain ⟨u, hleads, hlands⟩ := word_leads hlands (allowsPlain_word b) hle hfree (hfloor ▸ hx)
    rw [String.ofList_toList] at hlands
    exact ⟨u, hleads, hlands⟩
  | .string s, _ =>
    have hblock : blockColumn (floorOf cols) = d + 2 := by rw [hfloor]; rfl
    rw [afterKey, ← hblock] at hrest
    exact scalar_leads (h.lands_space hpending hrest (beginsToken_scalarLine _ s _)) hle hfree
      (hfloor ▸ hx)
  | .sequence [], _ =>
    exact brackets_lead (h.lands_space hpending hrest (beginsToken_cons (by decide) _)) hle hfree
      hx.begins
  | .mapping [], _ =>
    exact braces_lead (h.lands_space hpending hrest (beginsToken_cons (by decide) _)) hle hfree
      hx.begins
  | .sequence (c :: more), hv =>
    -- The dashes stand in the column of the key, where a block is open already.
    have hlands : t.Lands (itemLines d false (c :: more) ++ (List.replicate k ' ' ++ x)) d true cols
        lexemes :=
      h.lands_newline hpending
        (by rw [hrest, afterKey_sequence, List.cons_append, List.append_assoc])
        (nextLine_items d c more _).begins
    obtain ⟨u, hleads, hlands⟩ :=
      items_leads c more hv hlands (le_of_head? hcols (Nat.le_refl d)) hx
    rw [openedAt_of_head? hcols, opening_of_head? hcols] at hlands
    exact ⟨u, hleads, hlands⟩
  | .mapping ((key, v) :: more), hv =>
    have hlands : t.Lands (entryLines (d + 2) false ((key, v) :: more) ++
        (List.replicate k ' ' ++ x)) (d + 2) true cols lexemes :=
      h.lands_newline hpending
        (by rw [hrest, afterKey_mapping, List.cons_append, List.append_assoc])
        (nextLine_entries (d + 2) hv.1 v more _).begins
    obtain ⟨u, hleads, hlands⟩ := entries_leads key v more hv hlands
      (le_of_head? hcols (Nat.le_add_right d 2)) (hx.mono (by omega))
    refine ⟨u, hleads, ?_⟩
    simpa [Content.lexemes] using hlands.closeOpened hcols (by omega) (by omega)
termination_by sizeOf v

/-- Items are read one after the other, the first one with the block that it opens. -/
theorem items_leads {t : Tokenizer} {cols : List Nat} {lexemes : List Lexeme} (c : Content)
    (more : List Content) (hc : ItemsKeyed (c :: more)) {d k : Nat} {x : List Char}
    (h : t.Lands (itemLines d false (c :: more) ++ (List.replicate k ' ' ++ x)) d true cols
      lexemes) (hcols : ∀ c ∈ cols.head?, c ≤ d) (hx : NextLine (d + 1) k x) :
    ∃ u, t.Leads u ∧ u.Lands x k true (openedAt d cols) ((itemLexemes (c :: more)).reverse ++
      (opening d .blockSequence cols ++ lexemes)) := by
  have hhead := head?_openedAt hcols
  have hle := le_of_head? hhead (Nat.le_refl d)
  rw [itemLines_cons, if_neg (by decide), List.nil_append, List.cons_append, List.cons_append,
    List.append_assoc] at h
  obtain ⟨u, hleads, hlands⟩ := dash_leads h hcols (beginsToken_afterDash hc.1 d _)
  -- What stands behind the item is the next dash, or whatever is behind the last item.
  match hmore : more, hc with
  | [], hc =>
    obtain ⟨v, hleads', hlands'⟩ := item_leads c hc.1 hlands hhead hx
    refine ⟨v, hleads.trans hleads', ?_⟩
    simpa [itemLexemes] using hlands'
  | c' :: more', hc =>
    have hless : sizeOf (c' :: more') < sizeOf (c :: more) := by
      rw [hmore, List.cons.sizeOf_spec c]
      omega
    rw [itemLines_atStart, List.append_assoc] at hlands
    obtain ⟨v, hleads', hlands'⟩ :=
      item_leads c hc.1 hlands hhead (nextLine_items d c' more' _)
    obtain ⟨w, hleads'', hlands''⟩ := items_leads c' more' hc.2 hlands' hle hx
    rw [openedAt_openedAt, opening_openedAt] at hlands''
    refine ⟨w, (hleads.trans hleads').trans hleads'', ?_⟩
    rw [itemLexemes]
    simpa using hlands''
termination_by sizeOf (c :: more)

/-- Entries are read one after the other, the first one with the block that it opens. -/
theorem entries_leads {t : Tokenizer} {cols : List Nat} {lexemes : List Lexeme} (key : String)
    (v : Content) (more : List (String × Content)) (hv : EntriesKeyed ((key, v) :: more))
    {d k : Nat} {x : List Char}
    (h : t.Lands (entryLines d false ((key, v) :: more) ++ (List.replicate k ' ' ++ x)) d true cols
      lexemes) (hcols : ∀ c ∈ cols.head?, c ≤ d) (hx : NextLine (d + 1) k x) :
    ∃ u, t.Leads u ∧ u.Lands x k true (openedAt d cols)
      ((entryLexemes ((key, v) :: more)).reverse ++
        (opening d .blockMapping cols ++ lexemes)) := by
  have hhead := head?_openedAt hcols
  have hle := le_of_head? hhead (Nat.le_refl d)
  have hgap : ∀ y, startsGapOrEnd (afterKey d v ++ y) = true := startsGapOrEnd_afterKey d v
  rw [entryLines_cons, if_neg (by decide), List.nil_append, List.append_assoc, List.cons_append,
    List.append_assoc] at h
  obtain ⟨u, hleads, hrest, hallowed, hpending, hcolumn, hstands⟩ :=
    key_leads hv.1 h hcols (hgap _)
  rw [String.ofList_toList] at hstands
  match hmore : more, hv with
  | [], hv =>
    obtain ⟨w, hleads', hlands'⟩ :=
      value_leads v hv.2.1 hstands hrest hallowed hpending (by omega) hhead hx
    refine ⟨w, hleads.trans hleads', ?_⟩
    simpa [entryLexemes] using hlands'
  | (key', v') :: more', hv =>
    have hless : sizeOf ((key', v') :: more') < sizeOf ((key, v) :: more) := by
      rw [hmore, List.cons.sizeOf_spec (key, v)]
      omega
    rw [entryLines_atStart, List.append_assoc] at hrest
    obtain ⟨w, hleads', hlands'⟩ := value_leads v hv.2.1 hstands hrest hallowed hpending (by omega)
      hhead (nextLine_entries d hv.2.2.1 v' more' _)
    obtain ⟨z, hleads'', hlands''⟩ := entries_leads key' v' more' hv.2.2 hlands' hle hx
    rw [openedAt_openedAt, opening_openedAt] at hlands''
    refine ⟨z, (hleads.trans hleads').trans hleads'', ?_⟩
    rw [entryLexemes]
    simpa using hlands''
termination_by sizeOf ((key, v) :: more)

end

/-! ## Whole documents -/

theorem initial_lands {s : List Char} (hs : BeginsToken s) : (initial s).Lands s 0 true [] [] := by
  have hstands : (initial s).Stands [] [] := ⟨rfl, rfl, rfl, rfl, rfl⟩
  exact hstands.lands (p := .origin) (skipGap_token hs _ _ _) (Nat.le_refl _)
    (passed_of_none rfl _)

theorem nextLine_end (floor : Nat) : NextLine floor 0 [] where
  begins _ h := (Option.not_mem_none _ h).elim
  left h := absurd rfl h
  ended _ := rfl

/-- Reading a document leads to its end, where no more of it is open than its root. -/
theorem text_leads (c : Content) (hc : c.Keyed) :
    ∃ u cols lexemes, (initial c.text.toList).Leads u ∧ u.Lands [] 0 true cols lexemes ∧
      endings 0 cols ++ lexemes = (c.lexemes false).reverse := by
  have hnone : ∀ c ∈ ([] : List Nat).head?, c ≤ 0 := fun _ h => (Option.not_mem_none _ h).elim
  have hfree : true = true → floorOf [] ≠ 0 + 1 := by decide
  rw [text.eq_def, String.toList_ofList]
  cases c with
  | boolean b =>
    have hlands := initial_lands (beginsToken_plain (allowsPlain_word b) ['\n'])
    obtain ⟨u, hleads, hlands⟩ := word_leads (k := 0) (x := []) hlands (allowsPlain_word b) hnone
      hfree (nextLine_end 0)
    rw [String.ofList_toList] at hlands
    exact ⟨u, [], _, hleads, hlands, rfl⟩
  | string s =>
    have hblock : blockColumn (floorOf []) = 2 := rfl
    have hlands := initial_lands (beginsToken_scalarLine 2 s (List.replicate 0 ' ' ++ []))
    rw [← hblock] at hlands
    obtain ⟨u, hleads, hlands⟩ := scalar_leads hlands hnone hfree (nextLine_end 0)
    rw [hblock, show List.replicate 0 ' ' ++ [] = [] from rfl, List.append_nil] at hleads
    exact ⟨u, [], _, hleads, hlands, rfl⟩
  | sequence items =>
    cases items with
    | nil =>
      have hlands := initial_lands (beginsToken_cons (c := '[') (by decide) [']', '\n'])
      obtain ⟨u, hleads, hlands⟩ := brackets_lead (k := 0) (x := []) hlands hnone hfree
        (nextLine_end 0).begins
      exact ⟨u, [], _, hleads, hlands, rfl⟩
    | cons c more =>
      have hlands := initial_lands (nextLine_items 0 c more []).begins
      obtain ⟨u, hleads, hlands⟩ := items_leads (k := 0) (x := []) c more hc hlands hnone
        (nextLine_end 1)
      rw [List.append_nil] at hleads
      refine ⟨u, _, _, hleads, hlands, ?_⟩
      simp [Content.lexemes, endings, openedAt, opening, floorOf]
  | mapping entries =>
    cases entries with
    | nil =>
      have hlands := initial_lands (beginsToken_cons (c := '\x7b') (by decide) ['\x7d', '\n'])
      obtain ⟨u, hleads, hlands⟩ := braces_lead (k := 0) (x := []) hlands hnone hfree
        (nextLine_end 0).begins
      exact ⟨u, [], _, hleads, hlands, rfl⟩
    | cons entry more =>
      obtain ⟨k, v⟩ := entry
      have hlands := initial_lands (nextLine_entries 0 hc.1 v more []).begins
      obtain ⟨u, hleads, hlands⟩ := entries_leads (k := 0) (x := []) k v more hc hlands hnone
        (nextLine_end 1)
      rw [List.append_nil] at hleads
      refine ⟨u, _, _, hleads, hlands, ?_⟩
      simp [Content.lexemes, endings, openedAt, opening, floorOf]

end Tokenizer

/-- The lexemes in the text of a document are those that the document is made of. -/
theorem Content.tokenize_text (c : Content) (hc : c.Keyed) :
    (tokenize c.text.toList).map (·.lexeme) = c.lexemes false ++ [.finish] := by
  obtain ⟨u, cols, lexemes, hleads, hlands, hlexemes⟩ := Tokenizer.text_leads c hc
  obtain ⟨fuel, hfuel, hrun⟩ := hleads.run_eq (Nat.lt_succ_self c.text.toList.length)
  rw [tokenize, if_pos (List.all_eq_true.2 (c.forall_allowed_text hc)), hrun,
    Tokenizer.finish_of_lands hlands hfuel, hlexemes, List.reverse_cons, List.reverse_reverse]

end UniformIter.Document
