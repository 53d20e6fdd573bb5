import UniformIter.Proofs.Document.Characters

/-!
# Reading back quoted scalars

In single quotes a text goes on in a line of its own behind each of its breaks, so the writer
puts an indentation there, which the reader takes for part of the gap and drops with it
(`framed`, `readSingleQuoted_framed`). In double quotes every break is escaped, and with it every
character that is not written as it is; an escape reads as the character it was made from
(`readEscape_escaped`), and the only gaps left are runs of spaces (`readDoubleQuoted_escaped`).
Both readers go by runs, so both proofs are by induction on the length of what is left.
-/

namespace UniformIter.Document

open ScalarText (isPrintable hasPair indented endsInBreak singleQuoted doubleQuoted escaped
  escapeLetter? hexDigits allowsSingle)

/-! ## Pairs of neighbours -/

/-- Neighbours in a part of a text are neighbours in the text. -/
theorem hasPair_append {first second : Char → Bool} {w r : List Char}
    (h : hasPair first second (w ++ r) = false) : hasPair first second r = false := by
  induction w with
  | nil => exact h
  | cons c w ih =>
    refine ih ?_
    cases hw : w ++ r with
    | nil => rfl
    | cons d more =>
      rw [List.cons_append, hw, hasPair, Bool.or_eq_false_iff] at h
      exact h.2

/-- What stands behind a run does not follow the last of it as a pair. -/
theorem not_second_of_run {first second : Char → Bool} {run rest : List Char}
    (h : hasPair first second (run ++ rest) = false) (hne : run ≠ [])
    (hrun : ∀ c ∈ run, first c = true) : ∀ d ∈ rest.head?, second d = false := by
  intro d hd
  obtain ⟨front, last, rfl⟩ : ∃ front last, run = front ++ [last] :=
    ⟨_, _, (List.dropLast_concat_getLast hne).symm⟩
  obtain ⟨more, rfl⟩ : ∃ more, rest = d :: more := List.head?_eq_some_iff.1 hd
  rw [List.append_assoc] at h
  have hpair := hasPair_append h
  rw [List.singleton_append, hasPair, Bool.or_eq_false_iff,
    hrun last (List.mem_append_right _ List.mem_cons_self), Bool.true_and] at hpair
  exact hpair.1

/-! ## Single quotes -/

/-- A character between single quotes. -/
def quotedChar (c : Char) : List Char := if c == '\x27' then ['\x27', c] else [c]

/-- What stands between single quotes, with the indentation of every further line, that of the
closing quote included. -/
def framed (indent : Nat) (atStart : Bool) : List Char → List Char
  | [] => if atStart then List.replicate indent ' ' else []
  | c :: r =>
    if isBreak c then c :: framed indent true r
    else (if atStart then List.replicate indent ' ' else []) ++
      (quotedChar c ++ framed indent false r)

/-- The writer indents first and doubles the quotes then, which comes to the same. -/
theorem flatMap_indented (indent : Nat) (atStart : Bool) (s : List Char) :
    (indented indent atStart s).flatMap quotedChar ++
        (if (s.getLast?.map isBreak).getD atStart then List.replicate indent ' ' else []) =
      framed indent atStart s := by
  have hspaces : (List.replicate indent ' ').flatMap quotedChar = List.replicate indent ' ' :=
    flatMap_replicate_self rfl indent
  induction s generalizing atStart with
  | nil => rfl
  | cons c r ih =>
    have hlast : ((c :: r).getLast?.map isBreak).getD atStart =
        (r.getLast?.map isBreak).getD (isBreak c) := by
      rw [List.getLast?_cons]
      cases r.getLast? <;> rfl
    rw [hlast, indented, framed]
    by_cases hb : isBreak c = true
    · have hquote : quotedChar c = [c] := by
        refine if_neg fun h => ?_
        rw [beq_iff_eq.1 h] at hb
        exact absurd hb (by decide)
      rw [if_pos hb, if_pos hb, List.flatMap_cons, hquote, List.append_assoc, hb, ih]
      rfl
    · rw [if_neg hb, if_neg hb, List.flatMap_append, List.flatMap_cons, ← ih false,
        Bool.eq_false_iff.2 hb, List.append_assoc, List.append_assoc]
      cases atStart with
      | true => rw [if_pos rfl, hspaces]
      | false => rfl

theorem singleQuoted_eq (indent : Nat) (s : List Char) :
    singleQuoted indent s = '\x27' :: (framed indent false s ++ ['\x27']) := by
  have hend : endsInBreak s = (s.getLast?.map isBreak).getD false := by
    rw [endsInBreak]
    cases s.getLast? <;> rfl
  show '\x27' :: (indented indent false s).flatMap quotedChar ++
    (if endsInBreak s then List.replicate indent ' ' else []) ++ ['\x27'] = _
  rw [hend, ← flatMap_indented, List.cons_append, List.cons_append]

/-- What is left of a text in single quotes. -/
structure SingleLine (s : List Char) : Prop where
  printable : ∀ c ∈ s, isPrintable c = true
  lineFeed : '\n' ∉ s
  before : hasPair (· == ' ') isBreak s = false
  behind : hasPair isBreak (· == ' ') s = false

theorem SingleLine.append {w r : List Char} (h : SingleLine (w ++ r)) : SingleLine r where
  printable c hc := h.printable c (List.mem_append_right _ hc)
  lineFeed hmem := h.lineFeed (List.mem_append_right _ hmem)
  before := hasPair_append h.before
  behind := hasPair_append h.behind

theorem framed_of_not_isBreak {r : List Char} (h : ∀ c ∈ r.head?, isBreak c = false)
    (indent : Nat) :
    framed indent true r = List.replicate indent ' ' ++ framed indent false r := by
  cases r with
  | nil => exact (List.append_nil _).symm
  | cons c r =>
    have hc : ¬isBreak c = true := by rw [h c rfl]; decide
    rw [framed, framed, if_neg hc, if_neg hc]
    rfl

/-- Breaks stand as they are, and the line behind the last of them is indented. -/
theorem framed_breaks {bs r : List Char} (hbs : ∀ c ∈ bs, isBreak c = true) (hne : bs ≠ [])
    (hr : ∀ c ∈ r.head?, isBreak c = false) (indent : Nat) (atStart : Bool) :
    framed indent atStart (bs ++ r) =
      bs ++ (List.replicate indent ' ' ++ framed indent false r) := by
  induction bs generalizing atStart with
  | nil => exact absurd rfl hne
  | cons b bs ih =>
    obtain ⟨hb, hmore⟩ := List.forall_mem_cons.1 hbs
    rw [List.cons_append, framed, if_pos hb]
    by_cases hnil : bs = []
    · rw [hnil, List.nil_append, framed_of_not_isBreak hr]
      rfl
    · rw [ih hmore hnil]
      rfl

theorem framed_spaces (m : Nat) (r : List Char) (indent : Nat) :
    framed indent false (List.replicate m ' ' ++ r) =
      List.replicate m ' ' ++ framed indent false r := by
  induction m with
  | zero => rfl
  | succ m ih =>
    rw [List.replicate_succ, List.cons_append, framed, if_neg (by decide), ih]
    rfl

/-- A character other than a gap is still none where it is quoted. -/
theorem isGap_head_framed {r t : List Char} (hr : ∀ c ∈ r.head?, isGap c = false)
    (indent : Nat) : ∀ c ∈ (framed indent false r ++ '\x27' :: t).head?, isGap c = false := by
  intro c hc
  cases r with
  | nil =>
    obtain rfl : '\x27' = c := Option.some.inj hc
    rfl
  | cons d r =>
    have hd : isGap d = false := hr d rfl
    rw [framed, if_neg (by rw [isBreak_of_not_isGap hd]; decide), quotedChar] at hc
    by_cases hq : (d == '\x27') = true
    · rw [if_pos hq] at hc
      obtain rfl : '\x27' = c := Option.some.inj hc
      rfl
    · rw [if_neg hq] at hc
      obtain rfl : d = c := Option.some.inj hc
      exact hd

/-- A run of breaks with the indentation behind it reads as the breaks alone. -/
theorem foldGap_breaks {bs : List Char} (hp : ∀ c ∈ bs, isPrintable c = true ∧ isBreak c = true)
    (hne : bs ≠ []) (hfeed : '\n' ∉ bs) (indent : Nat) :
    foldGap (bs ++ List.replicate indent ' ') = bs := by
  rw [foldGap, breaksOf_append_spaces hp]
  obtain ⟨b, more, rfl⟩ := List.exists_cons_of_ne_nil hne
  obtain ⟨hb, hbreak⟩ := hp b List.mem_cons_self
  rcases eq_of_isBreak hb hbreak with rfl | rfl | rfl
  · exact absurd List.mem_cons_self hfeed
  · rfl
  · rfl

/-- No document begins on a line that is indented. -/
theorem endsInsideQuotes_indented {bs : List Char} (hbs : ∀ c ∈ bs, isBreak c = true)
    {indent : Nat} (hindent : 0 < indent) (rest : List Char) :
    endsInsideQuotes (bs ++ List.replicate indent ' ') rest = false := by
  by_cases hne : bs = []
  · have hbreak : (bs ++ List.replicate indent ' ').any isBreak = false := by
      rw [hne]
      exact List.any_eq_false.2 (forall_mem_replicate (by decide) _)
    rw [endsInsideQuotes, hbreak]
    rfl
  · have hcolumn : lastColumn (bs ++ List.replicate indent ' ') = indent := by
      rw [← List.dropLast_concat_getLast hne, List.append_assoc]
      exact lastColumn_append_spaces (hbs _ (List.getLast_mem hne)) indent
    rw [endsInsideQuotes, hcolumn, beq_eq_false_iff_ne.2 (Nat.ne_of_gt hindent), Bool.and_false,
      Bool.false_and]

theorem endsInsideQuotes_spaces (m : Nat) (rest : List Char) :
    endsInsideQuotes (List.replicate m ' ') rest = false := by
  have hbreak : (List.replicate m ' ').any isBreak = false :=
    List.any_eq_false.2 (forall_mem_replicate (by decide) _)
  rw [endsInsideQuotes, hbreak]
  rfl

/-- A gap in single quotes is read as a whole. -/
theorem readSingleQuoted_gap {gap rest : List Char} (hne : gap ≠ [])
    (hgap : ∀ c ∈ gap, isGap c = true) (hrest : ∀ c ∈ rest.head?, isGap c = false)
    (hends : endsInsideQuotes gap rest = false) (acc : List Char) (p : Position) :
    readSingleQuoted acc p (gap ++ rest) =
      readSingleQuoted ((foldGap gap).reverse ++ acc) (p.past gap) rest := by
  obtain ⟨c, more, rfl⟩ := List.exists_cons_of_ne_nil hne
  obtain ⟨hc, hmore⟩ := List.forall_mem_cons.1 hgap
  obtain ⟨htake, hdrop⟩ := takeWhile_run hmore hrest
  rw [List.cons_append, readSingleQuoted.eq_def]
  dsimp only
  rw [if_pos hc, htake, hdrop, hends]
  rfl

/-- A character in single quotes is read as itself. -/
theorem readSingleQuoted_char {c : Char} (hc : isGap c = false) (acc rest : List Char)
    (p : Position) :
    ∃ q : Position, q.line = p.line ∧
      readSingleQuoted acc p (quotedChar c ++ rest) = readSingleQuoted (c :: acc) q rest := by
  by_cases hq : c = '\x27'
  · subst hq
    refine ⟨p.right 2, rfl, ?_⟩
    show readSingleQuoted acc p ('\x27' :: '\x27' :: rest) = _
    rw [readSingleQuoted]
    rfl
  · refine ⟨p.right 1, rfl, ?_⟩
    have hne : (c == '\x27') = false := beq_eq_false_iff_ne.2 hq
    rw [quotedChar, hne, if_neg (by decide), List.singleton_append, readSingleQuoted.eq_def]
    dsimp only
    rw [hc, hne]
    rfl

/-- Behind a run of breaks a text in single quotes goes on with no gap. -/
theorem SingleLine.exists_breaks {c : Char} {r : List Char} (h : SingleLine (c :: r))
    (hc : isBreak c = true) :
    ∃ bs r', c :: r = bs ++ r' ∧ bs ≠ [] ∧ (∀ d ∈ bs, isBreak d = true) ∧
      ∀ d ∈ r'.head?, isGap d = false := by
  obtain ⟨bs, r', hsplit, hbs, hr'⟩ := exists_run isBreak (c :: r)
  have hne : bs ≠ [] := by
    rintro rfl
    have hhead := hr' c (by rw [← List.nil_append r', ← hsplit]; rfl)
    rw [hc] at hhead
    cases hhead
  refine ⟨bs, r', hsplit, hne, hbs, fun d hd => ?_⟩
  rw [hsplit] at h
  have hprint := h.printable d (List.mem_append_right _ (List.mem_of_mem_head? hd))
  cases hg : isGap d with
  | false => rfl
  | true =>
    have hspace := not_second_of_run h.behind hne hbs d hd
    rw [eq_space_of_isGap hprint (hr' d hd) hg] at hspace
    cases hspace

/-- So it does behind a run of spaces. -/
theorem SingleLine.exists_spaces {r : List Char} (h : SingleLine (' ' :: r)) :
    ∃ m r', ' ' :: r = List.replicate (m + 1) ' ' ++ r' ∧
      ∀ d ∈ r'.head?, isGap d = false := by
  obtain ⟨run, r', rfl, hrun, hr'⟩ := exists_run (· == ' ') r
  have hspaces : run = List.replicate run.length ' ' :=
    eq_replicate_of_run fun d hd => beq_iff_eq.1 (hrun d hd)
  refine ⟨run.length, r', by rw [List.replicate_succ, List.cons_append, ← hspaces], ?_⟩
  intro d hd
  rw [← List.cons_append] at h
  have hprint := h.printable d (List.mem_append_right _ (List.mem_of_mem_head? hd))
  have hbreak := not_second_of_run h.before (List.cons_ne_nil _ _)
    (List.forall_mem_cons.2 ⟨by decide, hrun⟩) d hd
  cases hg : isGap d with
  | false => rfl
  | true =>
    have hspace := hr' d hd
    rw [eq_space_of_isGap hprint hbreak hg] at hspace
    cases hspace

/-- A run of breaks is read with the indentation of the line behind it. -/
theorem readSingleQuoted_breaks {indent : Nat} (hindent : 0 < indent) {bs r : List Char}
    (h : SingleLine (bs ++ r)) (hne : bs ≠ []) (hbs : ∀ c ∈ bs, isBreak c = true)
    (hr : ∀ c ∈ r.head?, isGap c = false) (acc t : List Char) (p : Position) :
    readSingleQuoted acc p (framed indent false (bs ++ r) ++ '\x27' :: t) =
      readSingleQuoted (bs.reverse ++ acc) (p.past (bs ++ List.replicate indent ' '))
        (framed indent false r ++ '\x27' :: t) := by
  have hgap : ∀ c ∈ bs ++ List.replicate indent ' ', isGap c = true :=
    List.forall_mem_append.2
      ⟨fun c hc => isGap_of_isBreak (hbs c hc), forall_mem_replicate (by decide) _⟩
  have hfold : foldGap (bs ++ List.replicate indent ' ') = bs :=
    foldGap_breaks (fun c hc => ⟨h.printable c (List.mem_append_left _ hc), hbs c hc⟩) hne
      (fun hmem => h.lineFeed (List.mem_append_left _ hmem)) _
  rw [framed_breaks hbs hne fun c hc => isBreak_of_not_isGap (hr c hc), ← List.append_assoc,
    List.append_assoc, readSingleQuoted_gap (List.append_ne_nil_of_left_ne_nil hne _) hgap
      (isGap_head_framed hr indent) (endsInsideQuotes_indented hbs hindent _), hfold]

/-- A run of spaces is read as it is. -/
theorem readSingleQuoted_spaces (indent m : Nat) {r : List Char}
    (hr : ∀ c ∈ r.head?, isGap c = false) (acc t : List Char) (p : Position) :
    readSingleQuoted acc p
        (framed indent false (List.replicate (m + 1) ' ' ++ r) ++ '\x27' :: t) =
      readSingleQuoted (List.replicate (m + 1) ' ' ++ acc) (p.past (List.replicate (m + 1) ' '))
        (framed indent false r ++ '\x27' :: t) := by
  have hgap : ∀ c ∈ List.replicate (m + 1) ' ', isGap c = true :=
    forall_mem_replicate (by decide) _
  have hne : List.replicate (m + 1) ' ' ≠ [] := List.cons_ne_nil _ _
  rw [framed_spaces, List.append_assoc, readSingleQuoted_gap hne hgap
    (isGap_head_framed hr indent) (endsInsideQuotes_spaces _ _), foldGap_spaces,
    List.reverse_replicate]

/-- A text in single quotes reads as itself, up to the quote that closes it. -/
theorem readSingleQuoted_framed {indent : Nat} (hindent : 0 < indent) {t : List Char}
    (ht : t.head? ≠ some '\x27') {s : List Char} (hs : SingleLine s) (acc : List Char)
    (p : Position) :
    ∃ q : Position, p.line ≤ q.line ∧
      readSingleQuoted acc p (framed indent false s ++ '\x27' :: t) =
        some (s.reverse ++ acc, q, t) := by
  obtain ⟨n, hn⟩ : ∃ n, s.length = n := ⟨_, rfl⟩
  -- A run of breaks or spaces is read at once, so what is left may be shorter by several.
  induction n using Nat.strongRecOn generalizing s acc p with
  | ind n ih =>
    cases s with
    | nil =>
      refine ⟨p.right 1, Nat.le_refl _, ?_⟩
      show readSingleQuoted acc p ('\x27' :: t) = _
      rw [readSingleQuoted.eq_def]
      dsimp only
      rw [if_neg (by decide), if_pos (by decide)]
      split
      · exact absurd rfl ht
      · rfl
    | cons c r =>
      by_cases hb : isBreak c = true
      · obtain ⟨bs, r', hsplit, hne, hbs, hr'⟩ := hs.exists_breaks hb
        rw [hsplit] at hs hn ⊢
        have hshort : r'.length < n := by
          have hpos := List.length_pos_iff.2 hne
          rw [← hn, List.length_append]
          omega
        obtain ⟨q, hq, hread⟩ := ih r'.length hshort hs.append (bs.reverse ++ acc)
          (p.past (bs ++ List.replicate indent ' ')) rfl
        refine ⟨q, Nat.le_trans (p.line_le_past _) hq, ?_⟩
        rw [readSingleQuoted_breaks hindent hs hne hbs hr', hread, List.reverse_append,
          List.append_assoc]
      · by_cases hg : isGap c = true
        · obtain rfl : c = ' ' :=
            eq_space_of_isGap (hs.printable c List.mem_cons_self) (Bool.eq_false_iff.2 hb) hg
          obtain ⟨m, r', hsplit, hr'⟩ := hs.exists_spaces
          rw [hsplit] at hs hn ⊢
          have hshort : r'.length < n := by
            rw [← hn, List.length_append, List.length_replicate]
            omega
          obtain ⟨q, hq, hread⟩ := ih r'.length hshort hs.append
            (List.replicate (m + 1) ' ' ++ acc) (p.past (List.replicate (m + 1) ' ')) rfl
          refine ⟨q, Nat.le_trans (p.line_le_past _) hq, ?_⟩
          rw [readSingleQuoted_spaces indent m hr', hread, List.reverse_append,
            List.reverse_replicate, List.append_assoc]
        · obtain ⟨q, hq, hread⟩ := readSingleQuoted_char (Bool.eq_false_iff.2 hg) acc
            (framed indent false r ++ '\x27' :: t) p
          obtain ⟨q', hq', hmore⟩ := ih r.length (by rw [← hn]; exact Nat.lt_succ_self _)
            (hs.append (w := [c])) (c :: acc) q rfl
          refine ⟨q', hq ▸ hq', ?_⟩
          rw [framed, if_neg hb, if_neg (by decide), List.nil_append, List.append_assoc, hread,
            hmore, List.reverse_cons, List.append_assoc, List.singleton_append]

/-! ## Double quotes -/

theorem hexValue?_digit (d : Nat) (h : d < 16) :
    hexValue? (Char.ofNat (if d < 10 then d + 48 else d + 55)) = some d := by
  have hall : ∀ d : Fin 16,
      hexValue? (Char.ofNat (if d.1 < 10 then d.1 + 48 else d.1 + 55)) = some d.1 := by
    decide
  exact hall ⟨d, h⟩

/-- Digits read as the number that they were made from, as far as there are enough of them. -/
theorem readHex_hexDigits (count acc n : Nat) (t : List Char) :
    readHex acc count (hexDigits count n ++ t) =
      some (acc * Nat.pow 16 count + n % Nat.pow 16 count, t) := by
  show _ = some (acc * 16 ^ count + n % 16 ^ count, t)
  induction count generalizing acc with
  | zero => simp [readHex, hexDigits, Nat.mod_one]
  | succ count ih =>
    have hsplit : hexDigits (count + 1) n =
        Char.ofNat (if n / 16 ^ count % 16 < 10 then n / 16 ^ count % 16 + 48
          else n / 16 ^ count % 16 + 55) :: hexDigits count n := by
      rw [hexDigits, List.range_succ, List.reverse_append, List.map_append]
      rfl
    rw [hsplit, List.cons_append, readHex,
      hexValue?_digit _ (Nat.mod_lt _ (by decide)), Option.bind_some, ih, Nat.mod_pow_succ]
    have hacc : 16 * acc * 16 ^ count = acc * 16 ^ (count + 1) := by
      rw [Nat.mul_comm 16 acc, Nat.mul_assoc, Nat.pow_succ']
    rw [Nat.add_mul, hacc, Nat.mul_comm (n / 16 ^ count % 16), Nat.add_assoc,
      Nat.add_comm (n % 16 ^ count)]

/-- A character behind a backslash reads as itself. -/
theorem readEscape_of_letter {c e : Char} (h : escapeLetter? c = some e) (t : List Char) :
    readEscape (e :: t) = some (c, 1, t) ∧ isBreak e = false := by
  obtain ⟨before, after, htable, -⟩ := List.lookup_eq_some_iff.1 h
  have hall : ∀ p ∈ before ++ (c, e) :: after,
      namedEscape? p.2 = some p.1 ∧ isBreak p.2 = false := by
    rw [← htable]
    decide
  obtain ⟨hnamed, hbreak⟩ := hall (c, e) (List.mem_append_right _ List.mem_cons_self)
  refine ⟨?_, hbreak⟩
  rw [readEscape, hnamed]

theorem readEscape_of_number {c letter : Char} {count : Nat}
    (hletter : namedEscape? letter = none ∧ numericEscape? letter = some count)
    (hc : c.toNat < Nat.pow 16 count) (t : List Char) :
    readEscape (letter :: (hexDigits count c.toNat ++ t)) = some (c, 1 + count, t) := by
  have hvalid : c.toNat.isValidChar := c.valid
  rw [readEscape, hletter.1, hletter.2]
  show ((readHex 0 count (hexDigits count c.toNat ++ t)).bind _) = _
  rw [readHex_hexDigits, Nat.zero_mul, Nat.zero_add, Nat.mod_eq_of_lt hc, Option.bind_some]
  dsimp only
  rw [if_pos hvalid, Char.ofNat_toNat]

/-- A character is written as it is, or as an escape that reads as itself. -/
theorem escaped_cases (c : Char) :
    (escaped c = [c] ∧ isPrintable c = true ∧ isBreak c = false ∧ c ≠ '\x22' ∧ c ≠ '\\') ∨
      ∃ letter e n, escaped c = '\\' :: letter :: e ∧ isBreak letter = false ∧
        ∀ t, readEscape (letter :: (e ++ t)) = some (c, n, t) := by
  unfold escaped
  split
  next h =>
    simp only [Bool.and_eq_true, Bool.not_eq_true', bne_iff_ne] at h
    exact .inl ⟨rfl, h.1.1.1, h.1.1.2, h.1.2, h.2⟩
  next =>
    refine .inr ?_
    split
    next e he =>
      exact ⟨e, [], 1, rfl, (readEscape_of_letter he []).2,
        fun t => (readEscape_of_letter he t).1⟩
    next =>
      dsimp only
      by_cases hx : c.toNat ≤ 0xFF
      · rw [if_pos hx]
        exact ⟨_, _, _, rfl, rfl, readEscape_of_number ⟨rfl, rfl⟩ (Nat.lt_succ_of_le hx)⟩
      · rw [if_neg hx]
        by_cases hu : c.toNat ≤ 0xFFFF
        · rw [if_pos hu]
          exact ⟨_, _, _, rfl, rfl, readEscape_of_number ⟨rfl, rfl⟩ (Nat.lt_succ_of_le hu)⟩
        · rw [if_neg hu]
          exact ⟨_, _, _, rfl, rfl, readEscape_of_number ⟨rfl, rfl⟩ c.val.toNat_lt⟩

/-- What is written for a character other than a space begins with no gap. -/
theorem isGap_head_escaped {r t : List Char} (hr : r.head? ≠ some ' ') :
    ∀ c ∈ (r.flatMap escaped ++ '\x22' :: t).head?, isGap c = false := by
  intro c hc
  cases r with
  | nil =>
    obtain rfl : '\x22' = c := Option.some.inj hc
    rfl
  | cons d r =>
    rw [List.flatMap_cons] at hc
    rcases escaped_cases d with ⟨he, hp, hb, -, -⟩ | ⟨letter, e, n, he, -, -⟩
    · rw [he] at hc
      obtain rfl : d = c := Option.some.inj hc
      cases hg : isGap d with
      | false => rfl
      | true => exact absurd (congrArg some (eq_space_of_isGap hp hb hg)) hr
    · rw [he] at hc
      obtain rfl : '\\' = c := Option.some.inj hc
      rfl

/-- A character in double quotes is read as itself, unless it is a space. -/
theorem readDoubleQuoted_char {c : Char} (hc : c ≠ ' ') (acc t : List Char) (p : Position) :
    ∃ q : Position, q.line = p.line ∧
      readDoubleQuoted acc p (escaped c ++ t) = readDoubleQuoted (c :: acc) q t := by
  rcases escaped_cases c with ⟨he, hp, hb, hquote, hslash⟩ | ⟨letter, e, n, he, hbreak, hread⟩
  · have hg : isGap c = false := by
      cases hg : isGap c with
      | false => rfl
      | true => exact absurd (eq_space_of_isGap hp hb hg) hc
    refine ⟨p.right 1, rfl, ?_⟩
    rw [he, List.singleton_append, readDoubleQuoted.eq_def]
    dsimp only
    rw [hg, beq_eq_false_iff_ne.2 hquote, beq_eq_false_iff_ne.2 hslash]
    rfl
  · refine ⟨p.right (1 + n), rfl, ?_⟩
    have hnone : readBreak (letter :: (e ++ t)) = none := by
      refine readBreak_eq_none fun d hd => ?_
      obtain rfl : letter = d := Option.some.inj hd
      exact hbreak
    rw [he, List.cons_append, List.cons_append, readDoubleQuoted.eq_def]
    dsimp only
    rw [if_neg (by decide), if_neg (by decide), if_pos (by decide)]
    split
    next h =>
      rw [hnone] at h
      cases h
    next =>
      split
      next h =>
        rw [hread] at h
        cases h
        rfl
      next h =>
        rw [hread] at h
        cases h

/-- A gap in double quotes is read as a whole. -/
theorem readDoubleQuoted_spaces {m : Nat} {rest : List Char}
    (hrest : ∀ c ∈ rest.head?, isGap c = false) (acc : List Char) (p : Position) :
    readDoubleQuoted acc p (List.replicate (m + 1) ' ' ++ rest) =
      readDoubleQuoted (List.replicate (m + 1) ' ' ++ acc) (p.right (m + 1)) rest := by
  have hspaces : ∀ c ∈ List.replicate m ' ', isGap c = true := forall_mem_replicate (by decide) m
  obtain ⟨htake, hdrop⟩ := takeWhile_run hspaces hrest
  rw [List.replicate_succ, List.cons_append, readDoubleQuoted.eq_def]
  dsimp only
  rw [if_pos (by decide), htake, hdrop, ← List.replicate_succ, endsInsideQuotes_spaces,
    if_neg (by decide), foldGap_spaces, List.reverse_replicate, Position.past_spaces]

/-- A text in double quotes reads as itself, up to the quote that closes it. -/
theorem readDoubleQuoted_escaped (s t acc : List Char) (p : Position) :
    ∃ q : Position, q.line = p.line ∧
      readDoubleQuoted acc p (s.flatMap escaped ++ '\x22' :: t) =
        some (s.reverse ++ acc, q, t) := by
  obtain ⟨n, hn⟩ : ∃ n, s.length = n := ⟨_, rfl⟩
  induction n using Nat.strongRecOn generalizing s acc p with
  | ind n ih =>
    cases s with
    | nil =>
      refine ⟨p.right 1, rfl, ?_⟩
      show readDoubleQuoted acc p ('\x22' :: t) = _
      rw [readDoubleQuoted.eq_def]
      rfl
    | cons c r =>
      by_cases hc : c = ' '
      · obtain ⟨run, r', rfl, hrun, hr'⟩ := exists_run (· == ' ') r
        have hspaces : c :: run = List.replicate (run.length + 1) ' ' := by
          rw [List.replicate_succ, hc,
            ← eq_replicate_of_run fun d hd => beq_iff_eq.1 (hrun d hd)]
        have hescaped : (List.replicate (run.length + 1) ' ').flatMap escaped =
            List.replicate (run.length + 1) ' ' :=
          flatMap_replicate_self rfl _
        rw [← List.cons_append] at hn ⊢
        rw [hspaces] at hn ⊢
        have hnext : r'.head? ≠ some ' ' := by
          intro h
          have hspace := hr' ' ' h
          cases hspace
        have hshort : r'.length < n := by
          rw [← hn, List.length_append, List.length_replicate]
          omega
        obtain ⟨q, hq, hread⟩ := ih r'.length hshort r' (List.replicate (run.length + 1) ' ' ++ acc)
          (p.right (run.length + 1)) rfl
        refine ⟨q, hq, ?_⟩
        rw [List.flatMap_append, hescaped, List.append_assoc,
          readDoubleQuoted_spaces (isGap_head_escaped hnext), hread]
        simp
      · obtain ⟨q, hq, hread⟩ := readDoubleQuoted_char hc acc (r.flatMap escaped ++ '\x22' :: t) p
        obtain ⟨q', hq', hmore⟩ := ih r.length (by rw [← hn]; exact Nat.lt_succ_self _) r
          (c :: acc) q rfl
        refine ⟨q', hq'.trans hq, ?_⟩
        rw [List.flatMap_cons, List.append_assoc, hread, hmore]
        simp

end UniformIter.Document
