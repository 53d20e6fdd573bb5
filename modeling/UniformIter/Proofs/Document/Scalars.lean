import UniformIter.Proofs.Document.Landing
import UniformIter.Proofs.Document.LiteralText
import UniformIter.Proofs.Document.PlainText
import UniformIter.Proofs.Document.QuotedText

/-!
# Scalars as tokens

In whatever style a string is written, the tokenizer takes it for one scalar of that style with
the same text, and goes on with the next line (`scalar_leads`). There is one lemma for each
style. A scalar may have been taken for the beginning of a key; that is given up on the next
line, because only a scalar in the column of an open mapping has to be one.
-/

namespace UniformIter.Document.Tokenizer

open ScalarText (isPrintable allowsPlain allowsSingle styleOf)

variable {t : Tokenizer} {cols : List Nat} {lexemes : List Lexeme}

/-- A scalar that was read lands on the next line. -/
theorem Stands.scalar (h : t.Stands cols lexemes) {pending : Option PendingKey}
    {l : Lexeme} {p q : Position} {keyAllowed : Bool} {r x : List Char}
    (hgap : skipGap false keyAllowed false q r = (true, p, x)) (hlength : x.length ≤ r.length)
    (hpassed : Passed pending p) :
    Lands { t with
        pending := pending
        tokens := ⟨l, t.position, q⟩ :: t.tokens
        count := t.count + 1
        keyAllowed := keyAllowed
        position := q
        rest := r } x p.column true cols (l :: lexemes) := by
  have hstands : Stands { t with
        pending := pending
        tokens := ⟨l, t.position, q⟩ :: t.tokens
        count := t.count + 1
        keyAllowed := keyAllowed
        position := q
        rest := r } cols (l :: lexemes) :=
    ⟨h.floor, h.outerFloors, h.outerPending, congrArg (l :: ·) h.lexemes,
      congrArg (· + 1) h.count⟩
  exact hstands.lands hgap hlength hpassed

/-! ## Plain scalars -/

/-- A text that may stand plain begins with no mark of a document. -/
theorem startsDocumentMark_of_plain {c : Char} {r : List Char}
    (h : ScalarText.beginsOtherwise (c :: r) = false) (y : List Char) :
    startsDocumentMark (c :: (r ++ '\n' :: y)) = false := by
  have hthree : ∀ d : Char, d ≠ '\n' →
      (∀ r', ScalarText.beginsOtherwise (d :: d :: d :: r') = true) →
      ∀ r', c :: (r ++ '\n' :: y) ≠ d :: d :: d :: r' := by
    intro d hd hmark r' heq
    rcases r with _ | ⟨c₂, _ | ⟨c₃, r⟩⟩
    · exact hd (List.cons.inj (List.cons.inj heq).2).1.symm
    · exact hd (List.cons.inj (List.cons.inj (List.cons.inj heq).2).2).1.symm
    · obtain ⟨rfl, rfl, rfl, -⟩ : c = d ∧ c₂ = d ∧ c₃ = d ∧ r ++ '\n' :: y = r' := by
        simpa using heq
      rw [hmark] at h
      cases h
  unfold startsDocumentMark
  split
  next r' heq => exact absurd heq (hthree '-' (by decide) (fun _ => rfl) _)
  next r' heq => exact absurd heq (hthree '.' (by decide) (fun _ => rfl) _)
  next => rfl

/-- What is asked of the beginning of a text that may stand plain, beyond those marks. -/
theorem plain_begins {c : Char} {r : List Char}
    (h : ScalarText.beginsOtherwise (c :: r) = false) :
    ScalarText.isIndicator c = false ∧
      ((c == '?' || c == '-') && startsGapOrEnd r) = false := by
  unfold ScalarText.beginsOtherwise at h
  split at h
  · cases h
  · cases h
  next heq =>
    cases heq
    exact Bool.or_eq_false_iff.1 h
  next heq => cases heq

/-- What begins with none of the indicators, nor with one that has a gap behind it, may be read
as a plain scalar. -/
theorem beginsPlain_of {c : Char} {r : List Char} (hgap : isGap c = false)
    (hindicator : ScalarText.isIndicator c = false)
    (hmore : c = '-' ∨ c = '?' ∨ c = ':' → startsGapOrEnd r = false) :
    beginsPlain false c r = true := by
  unfold beginsPlain
  by_cases hspecial : c = '-' ∨ c = '?' ∨ c = ':'
  · have hr := hmore hspecial
    rcases hspecial with rfl | rfl | rfl
    · have hblank : r.head?.any isBlank = false := by
        cases r with
        | nil => rfl
        | cons d r => exact (Bool.or_eq_false_iff.1 hr).1
      rw [hblank]
      rfl
    · rw [hr]
      rfl
    · rw [hr]
      rfl
  · simp only [not_or] at hspecial
    simp only [ScalarText.isIndicator, List.contains_cons, List.contains_nil, Bool.or_false,
      Bool.or_eq_false_iff, beq_eq_false_iff_ne] at hindicator
    simp [hgap, isIndicator, hspecial, hindicator]

/-- The tokenizer takes it for a plain scalar. -/
theorem step_plain {c : Char} {r : List Char} (h : allowsPlain (c :: r) = true)
    (hflow : t.inFlow = false) (y : List Char) :
    t.step c (r ++ '\n' :: y) = t.plainScalar := by
  obtain ⟨-, hline⟩ := plainLine_of_allowsPlain h
  simp only [allowsPlain, Bool.and_eq_true, Bool.not_eq_true'] at h
  obtain ⟨hindicator, hdash⟩ := plain_begins h.1.2
  have hmark := startsDocumentMark_of_plain h.1.2 y
  have hcut := hline.whole
  rw [isCutShort_cons, Bool.or_eq_false_iff] at hcut
  have hmore : c = '-' ∨ c = '?' ∨ c = ':' → startsGapOrEnd (r ++ '\n' :: y) = false := by
    rw [startsGapOrEnd_append_newline]
    rintro (rfl | rfl | rfl)
    · exact hdash
    · exact hdash
    · exact hcut.1
  have hsolo : ∀ d, d = '-' ∨ d = '?' ∨ d = ':' →
      (c == d && startsGapOrEnd (r ++ '\n' :: y)) = false := by
    intro d hd
    by_cases hc : c = d
    · rw [hmore (hc ▸ hd), Bool.and_false]
    · rw [beq_eq_false_iff_ne.2 hc, Bool.false_and]
  have hbegins := beginsPlain_of (hline.begins c rfl) hindicator hmore
  simp only [ScalarText.isIndicator, List.contains_cons, List.contains_nil, Bool.or_false,
    Bool.or_eq_false_iff] at hindicator
  rw [step, hmark, hflow, Bool.false_or, hsolo '-' (.inl rfl), hsolo '?' (.inr (.inl rfl)),
    hsolo ':' (.inr (.inr rfl)), hbegins]
  simp [hindicator]

/-- A plain scalar is read to the end of its line. -/
theorem Stands.plain (h : t.Stands cols lexemes) (hp : t.pending = none)
    (hfree : t.keyAllowed = true → floorOf cols ≠ t.position.column + 1) {k : Nat}
    {s x : List Char} (hx : NextLine (floorOf cols) k x) (hs : allowsPlain s = true)
    (hrest : t.rest = s ++ '\n' :: (List.replicate k ' ' ++ x)) :
    ∃ u, t.Reads u ∧ u.Lands x k true cols (.scalar .plain (String.ofList s) :: lexemes) := by
  obtain ⟨pending, hnote, hpassed⟩ := h.noteKey hp hfree
  obtain ⟨hne, hline⟩ := plainLine_of_allowsPlain hs
  have hread := readPlain_line hx hline [] t.position
  have hplain : t.plainScalar = some { t with
      pending := pending
      tokens := ⟨.scalar .plain (String.ofList s), t.position, ⟨t.position.line + 1, k⟩⟩ ::
        t.tokens
      count := t.count + 1
      keyAllowed := true
      position := ⟨t.position.line + 1, k⟩
      rest := x } := by
    rw [plainScalar, hnote, hrest]
    simp only [Option.bind_eq_bind, Option.bind_some, h.inFlow, h.floor, hread, emit,
      List.append_nil, List.reverse_reverse]
  cases s with
  | nil => exact absurd rfl hne
  | cons c r =>
    refine ⟨_, ⟨c, r ++ '\n' :: (List.replicate k ' ' ++ x), hrest, ?_, ?_⟩,
      h.scalar (skipGap_token hx.begins _ _ _) (Nat.le_refl _)
        (hpassed ⟨t.position.line + 1, k⟩ (Nat.lt_succ_self _))⟩
    · rw [step_plain hs h.inFlow, hplain]
    · rw [hrest]
      simp only [List.length_cons, List.length_append, List.length_replicate]
      omega

/-! ## Quoted scalars -/

/-- A quoted scalar is read, and then the rest of its line, which is empty. -/
theorem Stands.quoted (h : t.Stands cols lexemes) (hp : t.pending = none)
    (hfree : t.keyAllowed = true → floorOf cols ≠ t.position.column + 1) {k : Nat}
    {s body x : List Char} (hx : BeginsToken x) (style : ScalarStyle) {q : Position}
    (hline : t.position.line ≤ q.line)
    (hread : (if style == .singleQuoted then readSingleQuoted [] (t.position.right 1) body
      else readDoubleQuoted [] (t.position.right 1) body) =
        some (s.reverse, q, '\n' :: (List.replicate k ' ' ++ x))) :
    ∃ u, t.quotedScalar style body = some u ∧ u.rest = '\n' :: (List.replicate k ' ' ++ x) ∧
      u.Lands x k true cols (.scalar style (String.ofList s) :: lexemes) := by
  obtain ⟨pending, hnote, hpassed⟩ := h.noteKey hp hfree
  have hgap := skipGap_newline hx false q k
  have hquoted : t.quotedScalar style body = some { t with
      pending := pending
      tokens := ⟨.scalar style (String.ofList s), t.position, q⟩ :: t.tokens
      count := t.count + 1
      keyAllowed := false
      position := q
      rest := '\n' :: (List.replicate k ' ' ++ x) } := by
    rw [quotedScalar, hnote]
    by_cases hstyle : (style == .singleQuoted) = true
    · rw [if_pos hstyle] at hread
      simp only [Option.bind_eq_bind, Option.bind_some, if_pos hstyle, hread, emit,
        List.reverse_reverse]
    · rw [if_neg hstyle] at hread
      simp only [Option.bind_eq_bind, Option.bind_some, if_neg hstyle, hread, emit,
        List.reverse_reverse]
  have hlength : x.length ≤ ('\n' :: (List.replicate k ' ' ++ x)).length := by
    simp only [List.length_cons, List.length_append]
    omega
  exact ⟨_, hquoted, rfl,
    h.scalar hgap hlength (hpassed ⟨q.line + 1, k⟩ (Nat.lt_succ_of_le hline))⟩

/-- A text in single quotes. Where its further lines are indented, they may not stand at the
beginning of a line. -/
theorem Stands.single (h : t.Stands cols lexemes) (hp : t.pending = none)
    (hfree : t.keyAllowed = true → floorOf cols ≠ t.position.column + 1) {k : Nat}
    {s x : List Char} (hx : BeginsToken x) (hs : allowsSingle s = true) (hfeed : '\n' ∉ s)
    {indent : Nat} (hindent : 0 < indent)
    (hrest : t.rest = ScalarText.singleQuoted indent s ++ '\n' :: (List.replicate k ' ' ++ x)) :
    ∃ u, t.Reads u ∧
      u.Lands x k true cols (.scalar .singleQuoted (String.ofList s) :: lexemes) := by
  simp only [allowsSingle, Bool.and_eq_true, Bool.not_eq_true', List.all_eq_true] at hs
  obtain ⟨⟨hprintable, hbefore⟩, hbehind⟩ := hs
  obtain ⟨q, hline, hread⟩ := readSingleQuoted_framed hindent
    (t := '\n' :: (List.replicate k ' ' ++ x)) (by simp) ⟨hprintable, hfeed, hbefore, hbehind⟩ []
    (t.position.right 1)
  rw [List.append_nil] at hread
  rw [singleQuoted_eq, List.cons_append, List.append_assoc, List.singleton_append] at hrest
  obtain ⟨u, hquoted, hleft, hlands⟩ := h.quoted hp hfree hx .singleQuoted hline hread
  refine ⟨u, ⟨'\x27', _, hrest, ?_, ?_⟩, hlands⟩
  · rw [← hquoted]
    simp [step, startsDocumentMark]
  · rw [hleft, hrest]
    simp only [List.length_cons, List.length_append]
    omega

/-- A text in double quotes. -/
theorem Stands.double (h : t.Stands cols lexemes) (hp : t.pending = none)
    (hfree : t.keyAllowed = true → floorOf cols ≠ t.position.column + 1) {k : Nat}
    {s x : List Char} (hx : BeginsToken x)
    (hrest : t.rest = ScalarText.doubleQuoted s ++ '\n' :: (List.replicate k ' ' ++ x)) :
    ∃ u, t.Reads u ∧
      u.Lands x k true cols (.scalar .doubleQuoted (String.ofList s) :: lexemes) := by
  obtain ⟨q, hline, hread⟩ := readDoubleQuoted_escaped s ('\n' :: (List.replicate k ' ' ++ x)) []
    (t.position.right 1)
  rw [List.append_nil] at hread
  rw [ScalarText.doubleQuoted, List.cons_append, List.cons_append, List.append_assoc,
    List.singleton_append] at hrest
  obtain ⟨u, hquoted, hleft, hlands⟩ :=
    h.quoted hp hfree hx .doubleQuoted (Nat.le_of_eq hline.symm) hread
  refine ⟨u, ⟨'\x22', _, hrest, ?_, ?_⟩, hlands⟩
  · rw [← hquoted]
    simp [step, startsDocumentMark]
  · rw [hleft, hrest]
    simp only [List.length_cons, List.length_append]
    omega

/-! ## Literal blocks -/

/-- A literal block is read with all of its lines. No key may begin with one. -/
theorem Stands.literal (h : t.Stands cols lexemes) (hp : t.pending = none) {k : Nat}
    {s x : List Char} (hx : NextLine (floorOf cols) k x) (hne : s ≠ [])
    (hs : ∀ c ∈ s, isPrintable c = true)
    (hrest : t.rest = ScalarText.literal (blockColumn (floorOf cols)) s ++
      (closingBreak s ++ (List.replicate k ' ' ++ x))) :
    ∃ u, t.Reads u ∧ u.Lands x k true cols (.scalar .literal (String.ofList s) :: lexemes) := by
  obtain ⟨q, hcolumn, hread⟩ := readBlockScalar_literal hx hne hs (t.position.right 1)
  rw [ScalarText.literal, List.cons_append, List.cons_append, List.cons_append,
    List.append_assoc, List.cons_append] at hrest
  have hblock : t.blockScalar .literal
      (ScalarText.indentation s ++ ScalarText.chomping s ++
        '\n' :: (ScalarText.indented (blockColumn (floorOf cols)) true s ++
          (closingBreak s ++ (List.replicate k ' ' ++ x)))) = some { t with
      pending := t.pending
      tokens := ⟨.scalar .literal (String.ofList s), t.position, q⟩ :: t.tokens
      count := t.count + 1
      keyAllowed := true
      position := q
      rest := x } := by
    have hliteral : (ScalarStyle.literal == ScalarStyle.literal) = true := rfl
    simp only [blockScalar, dropKey, hp, Option.bind_eq_bind, Option.bind_some, hliteral, h.floor,
      hread, emit, List.reverse_reverse]
  refine ⟨_, ⟨'|', _, hrest, ?_, ?_⟩,
    hcolumn ▸ h.scalar (skipGap_token hx.begins _ _ _) (Nat.le_refl _)
      (passed_of_none hp q)⟩
  · rw [← hblock]
    simp [step, startsDocumentMark, h.inFlow]
  · rw [hrest]
    simp only [List.length_cons, List.length_append]
    omega

/-! ## Any style -/

/-- The text of a string as a scalar, up to the next line, is read as that string. -/
theorem scalar_leads {s : String} {x : List Char} {col k : Nat} {keyAllowed : Bool}
    (h : t.Lands (scalarLine (blockColumn (floorOf cols)) s ++ (List.replicate k ' ' ++ x)) col
      keyAllowed cols lexemes)
    (hcols : ∀ c ∈ cols.head?, c ≤ col) (hfree : keyAllowed = true → floorOf cols ≠ col + 1)
    (hx : NextLine (floorOf cols) k x) :
    ∃ u, t.Leads u ∧ u.Lands x k true cols (.scalar (styleOf s) s :: lexemes) := by
  have hlength := h.1
  obtain ⟨w, hnext, hrest, rfl, rfl, hpending, hstands⟩ := h.stands hcols
  rw [← hrest] at hlength
  obtain ⟨u, hreads, hlands⟩ : ∃ u, w.Reads u ∧
      u.Lands x k true cols (.scalar (styleOf s) (String.ofList s.toList) :: lexemes) := by
    rcases styleOf_cases s with ⟨hstyle, hfeed, hs⟩ | ⟨hstyle, -, hs⟩ | ⟨hstyle, hfeed, hs⟩ | hstyle
    · rw [scalarLine, hstyle, List.append_assoc] at hrest
      rw [hstyle]
      exact hstands.literal hpending hx (List.ne_nil_of_mem hfeed) hs hrest
    · rw [scalarLine, hstyle, List.append_assoc] at hrest
      rw [hstyle]
      exact hstands.plain hpending hfree hx hs hrest
    · rw [scalarLine, hstyle, List.append_assoc] at hrest
      rw [hstyle]
      exact hstands.single hpending hfree hx.begins hs hfeed (Nat.succ_pos _) hrest
    · rw [scalarLine, hstyle, List.append_assoc] at hrest
      rw [hstyle]
      exact hstands.double hpending hfree hx.begins hrest
  rw [String.ofList_toList] at hlands
  exact ⟨u, hreads.leads hnext hlength, hlands⟩

/-- A word that may stand plain is read as that word. -/
theorem word_leads {s x : List Char} {col k : Nat} {keyAllowed : Bool}
    (h : t.Lands (s ++ '\n' :: (List.replicate k ' ' ++ x)) col keyAllowed cols lexemes)
    (hs : allowsPlain s = true) (hcols : ∀ c ∈ cols.head?, c ≤ col)
    (hfree : keyAllowed = true → floorOf cols ≠ col + 1) (hx : NextLine (floorOf cols) k x) :
    ∃ u, t.Leads u ∧ u.Lands x k true cols (.scalar .plain (String.ofList s) :: lexemes) := by
  have hlength := h.1
  obtain ⟨w, hnext, hrest, rfl, rfl, hpending, hstands⟩ := h.stands hcols
  rw [← hrest] at hlength
  obtain ⟨u, hreads, hlands⟩ := hstands.plain hpending hfree hx hs hrest
  exact ⟨u, hreads.leads hnext hlength, hlands⟩

end UniformIter.Document.Tokenizer
