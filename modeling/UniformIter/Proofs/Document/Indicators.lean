import UniformIter.Proofs.Document.Keys
import UniformIter.Proofs.Document.Landing
import UniformIter.Proofs.Document.PlainText

/-!
# Indicators as tokens

What the tokenizer makes of the marks that a written document has besides its scalars: the dash
in front of an item (`dash_leads`), a key with its colon (`key_leads`), the brackets of an empty
collection (`flow_leads`) and the end of the text (`finish_of_lands`).

A dash or a key opens a block unless one is open in its column. `openedAt` and `opening` say in
one place which blocks are open afterwards and whether there is a lexeme more.
-/

namespace UniformIter.Document

/-- The blocks that are open once there is one at column `d`. -/
def openedAt (d : Nat) (cols : List Nat) : List Nat := if d < floorOf cols then cols else d :: cols

/-- The lexeme of that block, if it opens only now. -/
def opening (d : Nat) (l : Lexeme) (cols : List Nat) : List Lexeme :=
  if d < floorOf cols then [] else [l]

theorem lt_floorOf_openedAt (d : Nat) (cols : List Nat) : d < floorOf (openedAt d cols) := by
  unfold openedAt
  by_cases hd : d < floorOf cols
  · rwa [if_pos hd]
  · rw [if_neg hd]
    exact Nat.lt_succ_self d

/-- A block opens once. -/
theorem openedAt_openedAt (d : Nat) (cols : List Nat) :
    openedAt d (openedAt d cols) = openedAt d cols := if_pos (lt_floorOf_openedAt d cols)

theorem opening_openedAt (d : Nat) (l : Lexeme) (cols : List Nat) :
    opening d l (openedAt d cols) = [] := if_pos (lt_floorOf_openedAt d cols)

/-- Where no block was open right of it, the block at that column is the innermost. -/
theorem head?_openedAt {d : Nat} {cols : List Nat} (h : ∀ c ∈ cols.head?, c ≤ d) :
    (openedAt d cols).head? = some d := by
  unfold openedAt
  cases cols with
  | nil => rfl
  | cons c cols =>
    have hc : c ≤ d := h c rfl
    by_cases hd : d < floorOf (c :: cols)
    · rw [if_pos hd]
      exact congrArg some (Nat.le_antisymm hc (Nat.le_of_lt_succ hd))
    · rw [if_neg hd]
      rfl

theorem floorOf_of_head? {d : Nat} {cols : List Nat} (h : cols.head? = some d) :
    floorOf cols = d + 1 := by
  cases cols with
  | nil => cases h
  | cons c cols =>
    cases h
    rfl

theorem le_of_head? {c d : Nat} {cols : List Nat} (h : cols.head? = some d) (hd : d ≤ c) :
    ∀ b ∈ cols.head?, b ≤ c := by
  intro b hb
  rw [h] at hb
  cases hb
  exact hd

theorem opening_of_head? {d : Nat} {l : Lexeme} {cols : List Nat} (h : cols.head? = some d) :
    opening d l cols = [] :=
  if_pos (by rw [floorOf_of_head? h]; exact Nat.lt_succ_self d)

theorem openedAt_of_head? {d : Nat} {cols : List Nat} (h : cols.head? = some d) :
    openedAt d cols = cols :=
  if_pos (by rw [floorOf_of_head? h]; exact Nat.lt_succ_self d)

namespace Tokenizer

variable {t u : Tokenizer} {cols : List Nat} {lexemes : List Lexeme}

/-- A block opens at most once at its column. -/
theorem Stands.openBlock (h : t.Stands cols lexemes) (d : Nat) (l : Lexeme) (p : Position)
    (back : Nat) :
    (t.openBlock d l p back).Stands (openedAt d cols)
        (lexemes.take back ++ (opening d l cols ++ lexemes.drop back)) ∧
      (t.openBlock d l p back).rest = t.rest ∧
      (t.openBlock d l p back).position = t.position ∧
      (t.openBlock d l p back).pending = t.pending ∧
      (t.openBlock d l p back).keyAllowed = t.keyAllowed := by
  unfold Tokenizer.openBlock openedAt opening
  rw [h.inFlow, Bool.false_or, h.floor]
  by_cases hd : d < floorOf cols
  · rw [if_pos (decide_eq_true hd), if_pos hd, if_pos hd, List.nil_append, List.take_append_drop]
    exact ⟨h, rfl, rfl, rfl, rfl⟩
  · rw [if_neg (by simpa using hd), if_neg hd, if_neg hd]
    refine ⟨⟨rfl, ?_, h.outerPending, ?_, ?_⟩, rfl, rfl, rfl, rfl⟩
    · rw [h.outerFloors]
      rfl
    · simp only [List.map_append, List.map_cons, List.map_take, List.map_drop, h.lexemes]
      rfl
    · have hlength := congrArg List.length (List.take_append_drop back t.tokens)
      rw [List.length_append] at hlength
      simp only [List.length_append, List.length_cons, h.count]
      omega

/-- An indicator is one lexeme. -/
theorem Stands.indicator (h : t.Stands cols lexemes) (l : Lexeme) (n : Nat) (r : List Char) :
    (t.indicator l n r).Stands cols (l :: lexemes) :=
  ⟨h.floor, h.outerFloors, h.outerPending, congrArg (l :: ·) h.lexemes, congrArg (· + 1) h.count⟩

theorem Stands.allowKey (h : t.Stands cols lexemes) (keyAllowed : Bool) :
    Stands { t with keyAllowed := keyAllowed } cols lexemes :=
  ⟨h.floor, h.outerFloors, h.outerPending, h.lexemes, h.count⟩

/-! ## Dashes -/

/-- A dash begins an item. What the item is begins two columns further on. -/
theorem dash_leads {s : List Char} {d : Nat} (h : t.Lands ('-' :: ' ' :: s) d true cols lexemes)
    (hcols : ∀ c ∈ cols.head?, c ≤ d) (hs : BeginsToken s) :
    ∃ u, t.Leads u ∧
      u.Lands s (d + 2) true (openedAt d cols)
        (.item :: (opening d .blockSequence cols ++ lexemes)) := by
  have hlength := h.1
  obtain ⟨w, hnext, hrest, rfl, hkey, hpending, hstands⟩ := h.stands hcols
  obtain ⟨hopen, -, hposition, hpend, -⟩ :=
    hstands.openBlock w.position.column .blockSequence w.position 0
  have hstep : w.step '-' (' ' :: s) = some
      (({ w.openBlock w.position.column .blockSequence w.position 0 with
          keyAllowed := true } : Tokenizer).indicator .item 1 (' ' :: s)) := by
    have hitem : w.step '-' (' ' :: s) = w.item (' ' :: s) := by
      simp [step, startsDocumentMark, startsGapOrEnd, isGap, isBlank]
    rw [hitem, item, hkey]
    simp [dropKey, hpend, hpending]
  refine ⟨_, Reads.leads ⟨'-', ' ' :: s, hrest, hstep, ?_⟩ hnext (hrest ▸ hlength), ?_⟩
  · rw [hrest]
    exact Nat.lt_succ_self _
  · have hgap : skipGap false true false ((w.openBlock w.position.column .blockSequence
        w.position 0).position.right 1) (' ' :: s) = (true, w.position.right 2, s) := by
      rw [skipGap_space, skipGap_token hs, hposition]
      rfl
    exact ((hopen.allowKey true).indicator .item 1 (' ' :: s)).lands hgap (Nat.le_succ _)
      (passed_of_none (hpend.trans hpending) _)

/-! ## Keys -/

/-- The letter of a key begins a plain scalar. -/
theorem step_letter {c : Char} (hc : continuesIdentifier c = true) (t : Tokenizer)
    (r : List Char) : t.step c r = t.plainScalar := by
  have hindicator : isIndicator c = false :=
    of_continues (p := fun c => isIndicator c = false) (by decide) hc
  have hgap : isGap c = false := of_continues (p := fun c => isGap c = false) (by decide) hc
  have hmark : startsDocumentMark (c :: r) = false := by
    unfold startsDocumentMark
    split
    next heq =>
      cases heq
      exact absurd hc (by decide)
    next heq =>
      cases heq
      exact absurd hc (by decide)
    next => rfl
  have hbegins : beginsPlain t.inFlow c r = true := by
    rw [beginsPlain, hgap, hindicator]
    rfl
  simp only [isIndicator, Bool.or_eq_false_iff] at hindicator
  simp [step, hmark, hbegins, hindicator]

/-- How many tokens there are. -/
theorem Stands.count_eq (h : t.Stands cols lexemes) : t.count = lexemes.length := by
  rw [h.count, ← h.lexemes, List.length_map]

/-- The colon behind a scalar makes it a key, and opens the mapping of the key. -/
theorem Stands.confirmKey {l : Lexeme} (h : t.Stands cols (l :: lexemes)) {k : PendingKey}
    (hindex : k.index = lexemes.length) :
    (t.confirmKey k).Stands (openedAt k.position.column cols)
        (l :: .key :: (opening k.position.column .blockMapping cols ++ lexemes)) ∧
      (t.confirmKey k).rest = t.rest ∧ (t.confirmKey k).position = t.position ∧
      (t.confirmKey k).pending = none ∧ (t.confirmKey k).keyAllowed = false := by
  have hback : t.count - k.index = 1 := by
    rw [h.count_eq, hindex, List.length_cons, Nat.add_sub_cancel_left]
  have hkey : Stands
      { t with
        tokens := t.tokens.take 1 ++ Token.mk .key k.position k.position :: t.tokens.drop 1
        count := t.count + 1
        pending := none
        keyAllowed := false } cols (l :: .key :: lexemes) := by
    have hlength := congrArg List.length (List.take_append_drop 1 t.tokens)
    rw [List.length_append] at hlength
    refine ⟨h.floor, h.outerFloors, h.outerPending, ?_, ?_⟩
    · simp only [List.map_append, List.map_cons, List.map_take, List.map_drop, h.lexemes]
      rfl
    · simp only [List.length_append, List.length_cons, h.count]
      omega
  unfold Tokenizer.confirmKey
  rw [hback]
  exact hkey.openBlock k.position.column .blockMapping k.position 2

/-- The key that may begin where a state stands. -/
def heldKey (t : Tokenizer) : PendingKey :=
  { required := !t.inFlow && t.floor == t.position.column + 1
    index := t.count
    position := t.position
    column := t.position.column
    octets := 0
    text := t.rest }

/-- It is still possible behind a word that is short enough. -/
theorem keepAt_heldKey {key r : List Char} (hkey : IsKeyWord key) (hrest : t.rest = key ++ r) :
    PendingKey.keepAt (t.position.right key.length) (some t.heldKey) =
      some (some (t.heldKey.follow (t.position.column + key.length))) := by
  have hwidth : t.position.column + key.length - t.heldKey.column = key.length :=
    Nat.add_sub_cancel_left _ _
  have hoctets : (t.heldKey.follow (t.position.column + key.length)).octets = key.length := by
    rw [PendingKey.follow]
    dsimp only
    rw [hwidth, show t.heldKey.text = key ++ r from hrest, List.take_left, hkey.octets]
    exact Nat.zero_add _
  have hshort : ¬longestKey < (t.heldKey.follow (t.position.column + key.length)).octets := by
    rw [hoctets]
    exact Nat.not_lt_of_le hkey.short
  have hline : ¬t.heldKey.position.line < (t.position.right key.length).line := Nat.lt_irrefl _
  rw [PendingKey.keepAt, PendingKey.reach?, if_neg hline]
  dsimp only [Position.right]
  rw [if_neg hshort]

/-- The word of a key is read as a plain scalar, and where it began is noted. -/
theorem Stands.word (h : t.Stands cols lexemes) (hallowed : t.keyAllowed = true)
    (hpending : t.pending = none) {key r : List Char} (hkey : IsKeyWord key)
    (hr : startsGapOrEnd r = true) (hrest : t.rest = key ++ ':' :: r) :
    ∃ u, t.Reads u ∧ u.rest = ':' :: r ∧ u.position = t.position.right key.length ∧
      u.keyAllowed = false ∧ u.pending = some t.heldKey ∧
      u.Stands cols (.scalar .plain (String.ofList key) :: lexemes) := by
  have hnote : t.noteKey = some { t with pending := some t.heldKey } := by
    unfold Tokenizer.noteKey
    rw [if_pos hallowed, dropKey, hpending]
    rfl
  have hword := readWord_colon (fun c hc => ⟨hkey.isGap hc, hkey.ne hc (by decide)⟩) hr [] 0
  have hread : readPlain false t.floor [] t.position (key ++ ':' :: r) =
      some ⟨key.reverse ++ [], t.position.right (0 + key.length), ':' :: r, false⟩ := by
    rw [readPlain_of_word hword]
    exact if_pos rfl
  have hplain : t.plainScalar = some
      { t with
        pending := some t.heldKey
        tokens := ⟨.scalar .plain (String.ofList key), t.position,
          t.position.right key.length⟩ :: t.tokens
        count := t.count + 1
        keyAllowed := false
        position := t.position.right key.length
        rest := ':' :: r } := by
    rw [plainScalar, hnote, hrest]
    simp only [Option.bind_eq_bind, Option.bind_some, h.inFlow, hread, emit, List.append_nil,
      List.reverse_reverse, Nat.zero_add]
  obtain ⟨c, s, rfl⟩ := List.exists_cons_of_ne_nil hkey.nonempty
  rw [← step_letter (hkey.letters c List.mem_cons_self) t (s ++ ':' :: r)] at hplain
  refine ⟨_, ⟨c, s ++ ':' :: r, hrest, hplain, ?_⟩, rfl, rfl, rfl, rfl, h.floor, h.outerFloors,
    h.outerPending, congrArg (_ :: ·) h.lexemes, congrArg (· + 1) h.count⟩
  rw [hrest]
  simp only [List.length_cons, List.length_append]
  omega

/-- A key is read together with its colon. -/
theorem key_leads {key r : List Char} (hkey : IsKeyWord key) {d : Nat}
    (h : t.Lands (key ++ ':' :: r) d true cols lexemes) (hcols : ∀ c ∈ cols.head?, c ≤ d)
    (hr : startsGapOrEnd r = true) :
    ∃ u, t.Leads u ∧ u.rest = r ∧ u.keyAllowed = false ∧ u.pending = none ∧
      d ≤ u.position.column ∧
      u.Stands (openedAt d cols) (.value :: .scalar .plain (String.ofList key) :: .key ::
        (opening d .blockMapping cols ++ lexemes)) := by
  have hlength := h.1
  obtain ⟨w, hnext, hrest, rfl, hallowed, hpending, hstands⟩ := h.stands hcols
  obtain ⟨v, hreads, hrest', hposition', hallowed', hpending', hv⟩ :=
    hstands.word hallowed hpending hkey hr hrest
  -- Behind the word the colon still finds where the key began.
  have hcolon : BeginsToken (':' :: r) := by
    intro c hc
    cases hc
    decide
  have hkeep := keepAt_heldKey hkey hrest
  rw [← hpending'] at hkeep
  obtain ⟨x, hnext', hrest'', hposition'', -, hpending'', hx⟩ := hv.toNext
    (p := w.position.right key.length)
    (by rw [hrest', hposition', skipGap_token hcolon]) hkeep
  obtain ⟨hremaining, hendings⟩ := remaining_eq_self fun c hc =>
    Nat.lt_succ_of_le (Nat.le_trans (hcols c hc) (Nat.le_add_right _ key.length))
  rw [show (w.position.right key.length).column + 1 =
    (w.position.column + key.length).succ from rfl, hremaining, hendings, List.nil_append] at hx
  obtain ⟨hconfirmed, -, hposition, hpending, hallowed⟩ :=
    hx.confirmKey (k := w.heldKey.follow (w.position.column + key.length)) hstands.count_eq
  have hreads' : x.Reads ((x.confirmKey (w.heldKey.follow
      (w.position.column + key.length))).indicator .value 1 r) := by
    refine ⟨':', r, hrest'', ?_, ?_⟩
    · have hcolon : x.step ':' r = x.colon r := by
        simp [step, startsDocumentMark, hr]
      rw [hcolon, Tokenizer.colon, hpending'']
    · rw [hrest'']
      exact Nat.lt_succ_self _
  refine ⟨_, (hreads.leads hnext (hrest ▸ hlength)).trans (hreads'.leads hnext' ?_), rfl, hallowed,
    hpending, ?_, hconfirmed.indicator .value 1 r⟩
  · exact Nat.le_of_eq (congrArg List.length (hrest''.trans hrest'.symm))
  · show w.position.column ≤ (x.confirmKey _).position.column + 1
    rw [hposition, hposition'']
    exact Nat.le_succ_of_le (Nat.le_add_right _ _)

/-! ## Empty collections -/

/-- Inside a flow collection that opened here, with the key that may begin with it set aside. -/
def inside (t : Tokenizer) (pending : Option PendingKey) (l : Lexeme) (r : List Char) :
    Tokenizer :=
  ({ t with
    pending := none
    outerPending := [pending]
    keyAllowed := true } : Tokenizer).indicator l 1 r

theorem toNext_inside (t : Tokenizer) {pending pending' : Option PendingKey} (l : Lexeme)
    {r : List Char} (hr : BeginsToken r)
    (hkeep : PendingKey.keepAt (t.position.right 1) pending = some pending') :
    (t.inside pending l r).toNext = some (t.inside pending' l r) := by
  have hnone : PendingKey.keepAt (t.position.right 1) none = some none := rfl
  rw [toNext]
  dsimp only [inside, Tokenizer.indicator, goOn, emit]
  rw [skipGap_token hr]
  simp [expireKeys, hkeep, hnone, closeBlocks, inFlow]

/-- An empty flow collection is read to the end of its line. -/
theorem flow_leads {opener closer : Lexeme} {o c : Char}
    (ho : ∀ (t : Tokenizer) r, t.step o r = t.openFlow opener r)
    (hc : ∀ (t : Tokenizer) r, t.step c r = t.closeFlow closer r)
    (hbegins : ∀ r, BeginsToken (c :: r)) {x : List Char} {col k : Nat} {keyAllowed : Bool}
    (h : t.Lands (o :: c :: '\n' :: (List.replicate k ' ' ++ x)) col keyAllowed cols lexemes)
    (hcols : ∀ c ∈ cols.head?, c ≤ col) (hfree : keyAllowed = true → floorOf cols ≠ col + 1)
    (hx : BeginsToken x) :
    ∃ u, t.Leads u ∧ u.Lands x k true cols (closer :: opener :: lexemes) := by
  have hlength := h.1
  obtain ⟨w, hnext, hrest, rfl, rfl, hpending, hstands⟩ := h.stands hcols
  -- The brackets might be a key. Inside them that is set aside, and the next line gives it up.
  obtain ⟨pending, hnote, hpassed⟩ := hstands.noteKey hpending hfree
  obtain ⟨pending', hkeep, hpassed'⟩ :=
    (hpassed ⟨w.position.line + 1, k⟩ (Nat.lt_succ_self _)).keepAt (w.position.right 1)
  have hopen : w.Reads (w.inside pending opener (c :: '\n' :: (List.replicate k ' ' ++ x))) := by
    refine ⟨o, _, hrest, ?_, ?_⟩
    · rw [ho, openFlow, hnote]
      simp [inside, hstands.outerPending]
    · rw [hrest]
      exact Nat.lt_succ_self _
  have hclose : (w.inside pending' opener (c :: '\n' :: (List.replicate k ' ' ++ x))).Reads
      ((({ w with
        pending := pending'
        outerPending := []
        keyAllowed := false } : Tokenizer).indicator opener 1 []).indicator closer 1
          ('\n' :: (List.replicate k ' ' ++ x))) := by
    refine ⟨c, _, rfl, ?_, Nat.lt_succ_self _⟩
    rw [hc]
    rfl
  refine ⟨_, (hopen.leads hnext (hrest ▸ hlength)).trans
    (hclose.leads (w.toNext_inside opener (hbegins _) hkeep) (Nat.le_refl _)), ?_⟩
  have hstands' : Stands (({ w with
      pending := pending'
      outerPending := []
      keyAllowed := false } : Tokenizer).indicator opener 1 []) cols (opener :: lexemes) :=
    ⟨hstands.floor, hstands.outerFloors, rfl, congrArg (opener :: ·) hstands.lexemes,
      congrArg (· + 1) hstands.count⟩
  refine (hstands'.indicator closer 1 _).lands (skipGap_newline hx _ _ k) ?_ hpassed'
  simp only [Tokenizer.indicator, goOn, List.length_cons, List.length_append]
  omega

/-- A pair of brackets is an empty sequence. -/
theorem brackets_lead {x : List Char} {col k : Nat} {keyAllowed : Bool}
    (h : t.Lands ('[' :: ']' :: '\n' :: (List.replicate k ' ' ++ x)) col keyAllowed cols lexemes)
    (hcols : ∀ c ∈ cols.head?, c ≤ col) (hfree : keyAllowed = true → floorOf cols ≠ col + 1)
    (hx : BeginsToken x) :
    ∃ u, t.Leads u ∧
      u.Lands x k true cols (.flowSequenceClose :: .flowSequenceOpen :: lexemes) :=
  flow_leads (fun _ _ => by simp [step, startsDocumentMark])
    (fun _ _ => by simp [step, startsDocumentMark])
    (fun _ => beginsToken_cons (by decide) _) h hcols hfree hx

/-- A pair of braces is an empty mapping. -/
theorem braces_lead {x : List Char} {col k : Nat} {keyAllowed : Bool}
    (h : t.Lands ('\x7b' :: '\x7d' :: '\n' :: (List.replicate k ' ' ++ x)) col keyAllowed cols
      lexemes)
    (hcols : ∀ c ∈ cols.head?, c ≤ col) (hfree : keyAllowed = true → floorOf cols ≠ col + 1)
    (hx : BeginsToken x) :
    ∃ u, t.Leads u ∧ u.Lands x k true cols (.flowMappingClose :: .flowMappingOpen :: lexemes) :=
  flow_leads (fun _ _ => by simp [step, startsDocumentMark])
    (fun _ _ => by simp [step, startsDocumentMark])
    (fun _ => beginsToken_cons (by decide) _) h hcols hfree hx

/-! ## The end -/

/-- Blocks that close by and by end like blocks that close at once. -/
theorem endings_remaining (limit : Nat) (cols : List Nat) :
    endings 0 (remaining limit cols) ++ endings limit cols = endings 0 cols := by
  induction cols with
  | nil => rfl
  | cons c cols ih =>
    by_cases hc : limit ≤ c
    · rw [remaining, if_pos hc, endings, if_pos hc, ← List.append_assoc, ih]
      exact (if_pos (Nat.zero_le c)).symm
    · rw [remaining, if_neg hc, endings.eq_def limit]
      dsimp only
      rw [if_neg hc, List.append_nil]

/-- At the end of the text the open blocks close, and there is one lexeme more. -/
theorem finish_of_lands (h : t.Lands [] 0 true cols lexemes) {fuel : Nat}
    (hfuel : t.rest.length < fuel) :
    (run fuel t).map (·.lexeme) = (.finish :: (endings 0 cols ++ lexemes)).reverse := by
  obtain ⟨-, w, hnext, hrest, hcolumn, -, hpending, hstands⟩ := h
  obtain ⟨hclosed, -, -, -, hpend⟩ := hstands.closeBlocks 0
  rw [← List.append_assoc, endings_remaining] at hclosed
  have hfinish : w.finish =
      some ((w.closeBlocks 0).emit .finish w.position w.position).tokens.reverse := by
    have hdrop : (w.closeBlocks 0).dropKey = some (w.closeBlocks 0) := by
      rw [dropKey, hpend, hpending]
    rw [finish, hcolumn]
    show ((w.closeBlocks 0).dropKey).bind (fun u =>
      some (u.emit .finish w.position w.position).tokens.reverse) = _
    rw [hdrop]
    rfl
  have hadvance : t.advance = some
      (.inr ((w.closeBlocks 0).emit .finish w.position w.position).tokens.reverse) := by
    simp only [advance, hnext, Option.bind_eq_bind, Option.bind_some, hrest, hfinish,
      Option.map_some]
  obtain ⟨n, rfl⟩ := Nat.exists_eq_add_of_lt hfuel
  rw [run, hadvance]
  simp only [emit, List.map_reverse, List.map_cons, hclosed.lexemes]

end Tokenizer

end UniformIter.Document
