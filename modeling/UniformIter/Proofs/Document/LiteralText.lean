import UniformIter.Document.BlockScalar
import UniformIter.Proofs.Document.Characters

/-!
# Reading back literal blocks

A literal block is a header and then lines. The writer indents whatever line holds anything and
leaves an empty line empty; the reader tells the two apart by the breaks that stand in front of an
indentation (`readIndentation_run`). So a text is read line by line, each with the breaks behind
it (`readLines_indented`), and what the header says about the breaks at the end is just what the
text has there (`chompingOf`).
-/

namespace UniformIter.Document

open ScalarText (isPrintable indented endsInBreak chomping indentation literal)

/-! ## The header -/

/-- What happens to the breaks at the end of a block, so that this text comes out of it. -/
def chompingOf (s : List Char) : Chomping :=
  match s.reverse with
  | [] => .strip
  | c :: r => if !isBreak c then .strip else if r.head?.all isBreak then .keep else .clip

/-- The breaks at the end of a text are those at the end of its last part, if that part does not
consist of breaks alone. -/
theorem chompingOf_append {s : List Char} (hne : s ≠ []) (hs : ∀ c ∈ s.head?, isBreak c = false)
    (w : List Char) : chompingOf (w ++ s) = chompingOf s := by
  unfold chompingOf
  rw [List.reverse_append]
  cases hrev : s.reverse with
  | nil => exact absurd (List.reverse_eq_nil_iff.1 hrev) hne
  | cons c r =>
    cases r with
    | nil =>
      -- A single character, which is no break.
      have hsingle : s = [c] := by rw [← List.reverse_reverse s, hrev]; rfl
      have hc : isBreak c = false := hs c (by rw [hsingle]; rfl)
      simp [hc]
    | cons d r => rfl

/-- A text of breaks alone keeps them all. -/
theorem chompingOf_breaks {bs : List Char} (hne : bs ≠ []) (hbs : ∀ c ∈ bs, isBreak c = true) :
    chompingOf bs = .keep := by
  have hrev : ∀ c ∈ bs.reverse, isBreak c = true := fun c hc => hbs c (List.mem_reverse.1 hc)
  unfold chompingOf
  cases hsplit : bs.reverse with
  | nil => exact absurd (List.reverse_eq_nil_iff.1 hsplit) hne
  | cons c r =>
    rw [hsplit] at hrev
    obtain ⟨hc, hr⟩ := List.forall_mem_cons.1 hrev
    have hall : r.head?.all isBreak = true := by
      cases r with
      | nil => rfl
      | cons d r => exact hr d List.mem_cons_self
    simp [hc, hall]

/-- The reader finds in the header what the writer has put there. -/
theorem readIndicators_header (s r : List Char) :
    ∃ n, readIndicators (indentation s ++ chomping s ++ '\n' :: r) =
      some (⟨chompingOf s, if indentation s = [] then none else some 2⟩, n, '\n' :: r) := by
  have hsign : ∀ s : List Char, (chomping s = ['-'] ∧ chompingOf s = .strip) ∨
      (chomping s = ['+'] ∧ chompingOf s = .keep) ∨
      (chomping s = [] ∧ chompingOf s = .clip) := by
    intro s
    unfold chomping chompingOf
    cases s.reverse with
    | nil => exact .inl ⟨rfl, rfl⟩
    | cons c r =>
      dsimp only
      by_cases hc : (!isBreak c) = true
      · rw [if_pos hc, if_pos hc]
        exact .inl ⟨rfl, rfl⟩
      · rw [if_neg hc, if_neg hc]
        by_cases hr : r.head?.all isBreak = true
        · rw [if_pos hr, if_pos hr]
          exact .inr (.inl ⟨rfl, rfl⟩)
        · rw [if_neg hr, if_neg hr]
          exact .inr (.inr ⟨rfl, rfl⟩)
  have hwidth : indentation s = [] ∨ indentation s = ['2'] := by
    unfold indentation
    split
    next c _ =>
      split
      · exact .inr rfl
      · exact .inl rfl
    next => exact .inl rfl
  rcases hwidth with hw | hw <;> rcases hsign s with ⟨hc, hk⟩ | ⟨hc, hk⟩ | ⟨hc, hk⟩ <;>
    rw [hw, hc, hk] <;> exact ⟨_, rfl⟩

/-! ## Indentation -/

/-- A break in front of a line is kept, and the line behind it begins anew. -/
theorem readIndentation_break {limit : Option Nat} {breaks : List Char} {widest : Nat}
    {p : Position} (hp : p.column = 0) {b : Char} (hb : isPrintable b = true ∧ isBreak b = true)
    (r : List Char) :
    readIndentation limit breaks widest p (b :: r) =
      readIndentation limit (b :: breaks) widest p.nextLine r := by
  have hspace : (b == ' ') = false := by
    rcases eq_of_isBreak hb.1 hb.2 with rfl | rfl | rfl <;> rfl
  have htab : (some b == some '\t') = false := by
    rcases eq_of_isBreak hb.1 hb.2 with rfl | rfl | rfl <;> rfl
  have hleading : leadingSpaces limit (b :: r) = 0 := by
    unfold leadingSpaces
    rw [List.takeWhile_cons_of_neg (by rw [hspace]; decide)]
    cases limit <;> simp
  have hcolumn : max widest (p.right 0).column = widest := by
    rw [Position.right, hp]
    exact Nat.max_eq_left (Nat.zero_le _)
  rw [readIndentation.eq_def]
  dsimp only
  rw [hleading, List.drop_zero, List.head?_cons, htab, Bool.and_false, if_neg (by decide),
    hcolumn]
  split
  next b' r' h =>
    rw [readBreak_of_printable hb.1 hb.2] at h
    cases h
    rfl
  next h =>
    rw [readBreak_of_printable hb.1 hb.2] at h
    cases h

/-- The indentation of a line ends where the line begins. -/
theorem readIndentation_line {limit : Option Nat} {m : Nat} {x : List Char}
    (hm : leadingSpaces limit (List.replicate m ' ' ++ x) = m)
    (hx : ∀ c ∈ x.head?, isBreak c = false ∧ c ≠ '\t') (breaks : List Char) (widest : Nat)
    {p : Position} (hp : p.column = 0) :
    readIndentation limit breaks widest p (List.replicate m ' ' ++ x) =
      some ⟨breaks, max widest m, ⟨p.line, m⟩, x⟩ := by
  have hdrop : (List.replicate m ' ' ++ x).drop m = x :=
    List.drop_left' List.length_replicate
  have htab : (x.head? == some '\t') = false :=
    beq_eq_false_iff_ne.2 fun h => (hx _ h).2 rfl
  have hright : p.right m = ⟨p.line, m⟩ := by
    rw [Position.right, hp, Nat.zero_add]
  rw [readIndentation.eq_def]
  dsimp only
  rw [hm, hdrop, htab, Bool.and_false, if_neg (by decide), hright]
  split
  next b r h =>
    rw [readBreak_eq_none fun c hc => (hx c hc).1] at h
    cases h
  next => rfl

/-- Empty lines are passed over, and their breaks are kept. -/
theorem readIndentation_run {limit : Option Nat} {m : Nat} {x : List Char}
    (hm : leadingSpaces limit (List.replicate m ' ' ++ x) = m)
    (hx : ∀ c ∈ x.head?, isBreak c = false ∧ c ≠ '\t') {bs : List Char}
    (hbs : ∀ c ∈ bs, isPrintable c = true ∧ isBreak c = true) (breaks : List Char)
    (widest : Nat) {p : Position} (hp : p.column = 0) :
    readIndentation limit breaks widest p (bs ++ (List.replicate m ' ' ++ x)) =
      some ⟨bs.reverse ++ breaks, max widest m, ⟨p.line + bs.length, m⟩, x⟩ := by
  induction bs generalizing breaks p with
  | nil => exact readIndentation_line hm hx breaks widest hp
  | cons b bs ih =>
    obtain ⟨hb, hmore⟩ := List.forall_mem_cons.1 hbs
    rw [List.cons_append, readIndentation_break hp hb, ih hmore (b :: breaks) rfl,
      List.reverse_cons, List.append_assoc, List.length_cons]
    simp only [Position.nextLine, List.singleton_append]
    congr 3
    omega

/-- As many spaces as are asked for belong to the indentation, whatever stands behind them. -/
theorem leadingSpaces_full (d : Nat) (x : List Char) :
    leadingSpaces (some d) (List.replicate d ' ' ++ x) = d := by
  have hspaces : ∀ c ∈ List.replicate d ' ', (c == ' ') = true :=
    forall_mem_replicate (by decide) d
  unfold leadingSpaces
  dsimp only
  rw [List.takeWhile_append_of_pos hspaces, List.length_append, List.length_replicate]
  exact Nat.min_eq_right (Nat.le_add_right _ _)

/-- Fewer spaces do too, if nothing but them stands there. -/
theorem leadingSpaces_short {limit : Option Nat} {m : Nat} (hm : ∀ d ∈ limit, m ≤ d)
    {x : List Char} (hx : ∀ c ∈ x.head?, c ≠ ' ') :
    leadingSpaces limit (List.replicate m ' ' ++ x) = m := by
  have hspaces : ∀ c ∈ List.replicate m ' ', (c == ' ') = true :=
    forall_mem_replicate (by decide) m
  obtain ⟨htake, -⟩ := takeWhile_run hspaces fun c hc => beq_eq_false_iff_ne.2 (hx c hc)
  unfold leadingSpaces
  rw [htake, List.length_replicate]
  cases limit with
  | none => rfl
  | some d => exact Nat.min_eq_left (hm d rfl)

/-- The next token ends the indentation in front of it. -/
theorem BeginsToken.line {t : List Char} (ht : BeginsToken t) :
    ∀ c ∈ t.head?, isBreak c = false ∧ c ≠ '\t' := fun c hc =>
  ⟨isBreak_of_not_isGap (ht.isGap c hc), fun h => absurd (ht.isGap c hc) (by rw [h]; decide)⟩

theorem BeginsToken.leadingSpaces {t : List Char} (ht : BeginsToken t) {k d : Nat} (hk : k < d) :
    leadingSpaces (some d) (List.replicate k ' ' ++ t) = k :=
  leadingSpaces_short (fun e he => Option.some.inj he ▸ Nat.le_of_lt hk) fun c hc h =>
    absurd (ht.isGap c hc) (by rw [h]; decide)

/-! ## Lines -/

theorem indented_line {line : List Char} (hline : ∀ c ∈ line, isBreak c = false) (d : Nat)
    (r : List Char) : indented d false (line ++ r) = line ++ indented d false r := by
  induction line with
  | nil => rfl
  | cons c line ih =>
    obtain ⟨hc, hmore⟩ := List.forall_mem_cons.1 hline
    rw [List.cons_append, indented, hc, ih hmore]
    rfl

theorem indented_start {s : List Char} (hne : s ≠ []) (hs : ∀ c ∈ s.head?, isBreak c = false)
    (d : Nat) : indented d true s = List.replicate d ' ' ++ indented d false s := by
  obtain ⟨c, r, rfl⟩ := List.exists_cons_of_ne_nil hne
  have hc : isBreak c = false := hs c rfl
  rw [indented, indented, hc]
  rfl

theorem indented_breaks {bs : List Char} (hbs : ∀ c ∈ bs, isBreak c = true) (d : Nat)
    (r : List Char) : indented d true (bs ++ r) = bs ++ indented d true r := by
  induction bs with
  | nil => rfl
  | cons b bs ih =>
    obtain ⟨hb, hmore⟩ := List.forall_mem_cons.1 hbs
    rw [List.cons_append, indented, hb, ih hmore]
    rfl

/-- A line that is not empty begins behind its indentation as it does in the text. -/
theorem head?_indented {s : List Char} (hne : s ≠ []) (hs : ∀ c ∈ s.head?, isBreak c = false)
    (d : Nat) (x : List Char) : (indented d false s ++ x).head? = s.head? := by
  obtain ⟨c, r, rfl⟩ := List.exists_cons_of_ne_nil hne
  rw [indented, if_neg (by rw [hs c rfl]; decide)]
  rfl

theorem head?_line {s : List Char} (hs : ∀ c ∈ s.head?, isBreak c = false)
    (hprint : ∀ c ∈ s, isPrintable c = true) : ∀ c ∈ s.head?, isBreak c = false ∧ c ≠ '\t' := by
  intro c hc
  refine ⟨hs c hc, ?_⟩
  rintro rfl
  exact absurd (hprint _ (List.mem_of_mem_head? hc)) (by decide)

/-- All characters that were read of a block, those of its last breaks included, last one
first. -/
def BlockLines.all (l : BlockLines) : List Char :=
  l.blankLines ++ (l.lastBreak.toList ++ l.reversed)

/-- In a literal block a line is put behind everything that was read before. -/
theorem BlockLines.joined_literal (l : BlockLines) (opensBlank : Bool) :
    l.joined true opensBlank = l.all := rfl

/-- A line that does not reach the block's column ends the block. -/
theorem readLines_stop {d : Nat} {p : Position} (hp : p.column ≠ d) (l : BlockLines)
    (s : List Char) : readLines true d l p s = some (l, p, s) := by
  rw [readLines.eq_def, if_pos hp]

/-- A line is read with its break and the empty lines behind that. -/
theorem readLines_line {d : Nat} {p : Position} (hp : p.column = d) {line : List Char}
    (hne : line ≠ []) (hline : ∀ c ∈ line, isBreak c = false) {b : Char}
    (hb : isPrintable b = true ∧ isBreak b = true) {x : List Char} {i : Indentation}
    (hi : readIndentation (some d) [] 0 p.nextLine x = some i) (l : BlockLines) :
    ∃ opensBlank, readLines true d l p (line ++ b :: x) =
      readLines true d ⟨line.reverse ++ l.all, some b, i.breaks, opensBlank⟩ i.position
        i.rest := by
  obtain ⟨c, line, rfl⟩ := List.exists_cons_of_ne_nil hne
  obtain ⟨htake, hdrop⟩ : (line ++ b :: x).takeWhile (fun c => !isBreak c) = line ∧
      (line ++ b :: x).dropWhile (fun c => !isBreak c) = b :: x := by
    refine takeWhile_run (fun d hd => ?_) fun d hd => ?_
    · rw [hline d (List.mem_cons_of_mem _ hd)]
      rfl
    · obtain rfl : b = d := Option.some.inj hd
      rw [hb.2]
      rfl
  refine ⟨isBlank c, ?_⟩
  rw [List.cons_append, readLines.eq_def, if_neg (not_not_intro hp)]
  dsimp only
  rw [hdrop, htake, l.joined_literal]
  split
  next h =>
    rw [readBreak_of_printable hb.1 hb.2] at h
    cases h
  next b' r' h =>
    rw [readBreak_of_printable hb.1 hb.2] at h
    cases h
    split
    next h =>
      rw [show readIndentation (some d) [] 0 p.nextLine x = none from h] at hi
      cases hi
    next i' h =>
      rw [show readIndentation (some d) [] 0 p.nextLine x = some i' from h] at hi
      cases hi
      rw [List.reverse_cons, List.append_assoc]
      rfl

/-- What the writer puts behind a text that does not end in a break. -/
def closingBreak (s : List Char) : List Char := if endsInBreak s then [] else ['\n']

/-- What the reader keeps of the breaks at the end is what the text has there. -/
theorem chomped_of_breaks {line bs : List Char} (hne : line ≠ [])
    (hline : ∀ c ∈ line, isBreak c = false) {b : Char} (hb : isBreak b = true)
    (hbs : ∀ c ∈ bs, isBreak c = true) (all : List Char) (opensBlank : Bool) :
    (BlockLines.mk (line.reverse ++ all) (some b) bs.reverse opensBlank).chomped
        (chompingOf (line ++ b :: bs)) = (line ++ b :: bs).reverse ++ all := by
  rcases List.eq_nil_or_concat bs with rfl | ⟨front, c, hconcat⟩
  · obtain ⟨front, c, rfl⟩ : ∃ front c, line = front ++ [c] :=
      ⟨_, _, (List.dropLast_concat_getLast hne).symm⟩
    have hc : isBreak c = false := hline c (List.mem_append_right _ List.mem_cons_self)
    have hclip : chompingOf (front ++ [c] ++ [b]) = .clip := by
      simp [chompingOf, hb, hc]
    rw [hclip]
    simp [BlockLines.chomped]
  · rw [List.concat_eq_append] at hconcat
    subst hconcat
    have hc : isBreak c = true := hbs c (List.mem_append_right _ List.mem_cons_self)
    have hbefore : (front.reverse ++ b :: line.reverse).head?.all isBreak = true := by
      cases hrev : front.reverse with
      | nil => exact hb
      | cons e r =>
        have he : e ∈ front := List.mem_reverse.1 (by rw [hrev]; exact List.mem_cons_self)
        exact hbs e (List.mem_append_left _ he)
    have hkeep : chompingOf (line ++ b :: (front ++ [c])) = .keep := by
      simp only [chompingOf, List.reverse_append, List.reverse_cons, List.reverse_nil,
        List.nil_append, List.append_assoc, List.cons_append, hc]
      rw [hbefore]
      rfl
    rw [hkeep]
    simp [BlockLines.chomped]

/-- A text that ends in no break gets one, which the header tells the reader to drop. -/
theorem ending_of_line {line : List Char} (hne : line ≠ [])
    (hline : ∀ c ∈ line, isBreak c = false) :
    closingBreak line = ['\n'] ∧ chompingOf line = .strip := by
  obtain ⟨front, c, rfl⟩ : ∃ front c, line = front ++ [c] :=
    ⟨_, _, (List.dropLast_concat_getLast hne).symm⟩
  have hc : isBreak c = false := hline c (List.mem_append_right _ List.mem_cons_self)
  simp [closingBreak, endsInBreak, chompingOf, hc]

/-- A text that ends in breaks needs none. -/
theorem closingBreak_of_breaks {w bs : List Char} (hne : bs ≠ [])
    (hbs : ∀ c ∈ bs, isBreak c = true) : closingBreak (w ++ bs) = [] := by
  obtain ⟨front, c, rfl⟩ : ∃ front c, bs = front ++ [c] :=
    ⟨_, _, (List.dropLast_concat_getLast hne).symm⟩
  have hc : isBreak c = true := hbs c (List.mem_append_right _ List.mem_cons_self)
  simp [closingBreak, endsInBreak, hc]

theorem closingBreak_append {w s : List Char} (hne : s ≠ []) :
    closingBreak (w ++ s) = closingBreak s := by
  rw [closingBreak, closingBreak, endsInBreak, endsInBreak, List.getLast?_append]
  cases hlast : s.getLast? with
  | none => exact absurd (List.getLast?_eq_none_iff.1 hlast) hne
  | some c => rfl

/-- From the beginning of a line a text has first the rest of this line, and behind it either
nothing or breaks, with more lines behind them or not. -/
theorem exists_line {s : List Char} (hne : s ≠ []) (hfirst : ∀ c ∈ s.head?, isBreak c = false) :
    ∃ line rest, s = line ++ rest ∧ line ≠ [] ∧ (∀ c ∈ line, isBreak c = false) ∧
      (rest = [] ∨ ∃ b bs more, rest = b :: (bs ++ more) ∧ isBreak b = true ∧
        (∀ c ∈ bs, isBreak c = true) ∧ ∀ c ∈ more.head?, isBreak c = false) := by
  obtain ⟨line, rest, rfl, hrun, hrest⟩ := exists_run (fun c => !isBreak c) s
  refine ⟨line, rest, rfl, ?_, fun c hc => by simpa using hrun c hc, ?_⟩
  · rintro rfl
    obtain ⟨c, r, rfl⟩ := List.exists_cons_of_ne_nil hne
    have hc := hrest c rfl
    rw [show isBreak c = false from hfirst c rfl] at hc
    cases hc
  · cases rest with
    | nil => exact .inl rfl
    | cons b rest =>
      obtain ⟨bs, more, rfl, hbs, hmore⟩ := exists_run isBreak rest
      exact .inr ⟨b, bs, more, rfl, by simpa using hrest b rfl, hbs, hmore⟩

/-- The last line of a text that ends in no break is read with the break put behind it. -/
theorem readLines_lastLine {d k : Nat} (hk : k < d) {t : List Char} (ht : BeginsToken t)
    {line : List Char} (hne : line ≠ []) (hline : ∀ c ∈ line, isBreak c = false)
    (l : BlockLines) {p : Position} (hp : p.column = d) :
    ∃ l' q, readLines true d l p
        (indented d false line ++ (closingBreak line ++ (List.replicate k ' ' ++ t))) =
          some (l', q, t) ∧
      q.column = k ∧ l'.chomped (chompingOf line) = line.reverse ++ l.all := by
  have hfeed : isPrintable '\n' = true ∧ isBreak '\n' = true := by decide
  obtain ⟨opensBlank, hread⟩ := readLines_line hp hne hline hfeed
    (readIndentation_line (ht.leadingSpaces hk) ht.line [] 0 rfl) l
  obtain ⟨hclosing, hstrip⟩ := ending_of_line hne hline
  have hout : indented d false line = line := by
    have h := indented_line hline d []
    rwa [List.append_nil, show indented d false [] = [] from rfl, List.append_nil] at h
  refine ⟨⟨line.reverse ++ l.all, some '\n', [], opensBlank⟩, ⟨p.nextLine.line, k⟩, ?_, rfl, ?_⟩
  · rw [hout, hclosing, List.singleton_append, hread]
    exact readLines_stop (Nat.ne_of_lt hk) _ _
  · rw [hstrip]
    rfl

/-- The last line of a text is read with the breaks that the text ends in. -/
theorem readLines_lastBreaks {d k : Nat} (hk : k < d) {t : List Char} (ht : BeginsToken t)
    {line bs : List Char} {b : Char} (hne : line ≠ []) (hline : ∀ c ∈ line, isBreak c = false)
    (hb : isPrintable b = true ∧ isBreak b = true)
    (hbs : ∀ c ∈ bs, isPrintable c = true ∧ isBreak c = true) (l : BlockLines) {p : Position}
    (hp : p.column = d) :
    ∃ l' q, readLines true d l p (indented d false (line ++ b :: bs) ++
        (closingBreak (line ++ b :: bs) ++ (List.replicate k ' ' ++ t))) = some (l', q, t) ∧
      q.column = k ∧ l'.chomped (chompingOf (line ++ b :: bs)) =
        (line ++ b :: bs).reverse ++ l.all := by
  have hall : ∀ c ∈ bs, isBreak c = true := fun c hc => (hbs c hc).2
  have hclosing : closingBreak (line ++ b :: bs) = [] :=
    closingBreak_of_breaks (List.cons_ne_nil _ _) (List.forall_mem_cons.2 ⟨hb.2, hall⟩)
  have hout : indented d false (line ++ b :: bs) = line ++ b :: bs := by
    have h := indented_breaks hall d []
    rw [List.append_nil, show indented d true [] = [] from rfl, List.append_nil] at h
    rw [indented_line hline, indented, if_pos hb.2, h]
  obtain ⟨opensBlank, hread⟩ := readLines_line hp hne hline hb
    (readIndentation_run (ht.leadingSpaces hk) ht.line hbs [] 0 rfl) l
  refine ⟨⟨line.reverse ++ l.all, some b, bs.reverse ++ [], opensBlank⟩,
    ⟨p.nextLine.line + bs.length, k⟩, ?_, rfl, ?_⟩
  · rw [hclosing, hout, List.nil_append, List.append_assoc, List.cons_append, hread]
    exact readLines_stop (Nat.ne_of_lt hk) _ _
  · rw [List.append_nil]
    exact chomped_of_breaks hne hline hb.2 hall l.all opensBlank

/-- The lines of a text are read one by one, up to the line that does not reach their column. -/
theorem readLines_indented {d k : Nat} (hk : k < d) {t : List Char} (ht : BeginsToken t)
    {s : List Char} (hne : s ≠ []) (hfirst : ∀ c ∈ s.head?, isBreak c = false)
    (hs : ∀ c ∈ s, isPrintable c = true) (l : BlockLines) {p : Position} (hp : p.column = d) :
    ∃ l' q, readLines true d l p
        (indented d false s ++ (closingBreak s ++ (List.replicate k ' ' ++ t))) =
          some (l', q, t) ∧
      q.column = k ∧ l'.chomped (chompingOf s) = s.reverse ++ l.all := by
  obtain ⟨n, hn⟩ : ∃ n, s.length = n := ⟨_, rfl⟩
  -- What is left is shorter by the next line and the breaks behind it.
  induction n using Nat.strongRecOn generalizing s l p with
  | ind n ih =>
    obtain ⟨line, rest, rfl, hlne, hline, hrest⟩ := exists_line hne hfirst
    rcases hrest with rfl | ⟨b, bs, s', rfl, hb, hbs, hs'⟩
    · rw [List.append_nil]
      exact readLines_lastLine hk ht hlne hline l hp
    · rw [List.forall_mem_append, List.forall_mem_cons, List.forall_mem_append] at hs
      obtain ⟨-, hbprint, hbsprint, hprint⟩ := hs
      have hbreaks : ∀ c ∈ bs, isPrintable c = true ∧ isBreak c = true := fun c hc =>
        ⟨hbsprint c hc, hbs c hc⟩
      by_cases hnil : s' = []
      · rw [hnil, List.append_nil]
        exact readLines_lastBreaks hk ht hlne hline ⟨hbprint, hb⟩ hbreaks l hp
      · -- The next line that is not empty begins behind the breaks.
        have hwhole : line ++ b :: (bs ++ s') = line ++ b :: bs ++ s' := by simp
        have hout : indented d false (line ++ b :: bs ++ s') =
            line ++ b :: (bs ++ (List.replicate d ' ' ++ indented d false s')) := by
          rw [← hwhole, indented_line hline, indented, if_pos hb, indented_breaks hbs,
            indented_start hnil hs']
        have hmore : ∀ c ∈ (indented d false s' ++ (closingBreak s' ++
            (List.replicate k ' ' ++ t))).head?, isBreak c = false ∧ c ≠ '\t' := by
          rw [head?_indented hnil hs']
          exact head?_line hs' hprint
        obtain ⟨opensBlank, hread⟩ := readLines_line hp hlne hline ⟨hbprint, hb⟩
          (readIndentation_run (leadingSpaces_full d _) hmore hbreaks [] 0 rfl) l
        have hless : s'.length < n := by
          have hpos := List.length_pos_iff.2 hlne
          rw [← hn, hwhole, List.length_append, List.length_append]
          omega
        obtain ⟨l', q, hlines, hq, hchomped⟩ := ih s'.length hless hnil hs' hprint
          ⟨line.reverse ++ l.all, some b, bs.reverse ++ [], opensBlank⟩
          (p := ⟨p.nextLine.line + bs.length, d⟩) rfl rfl
        refine ⟨l', q, ?_, hq, ?_⟩
        · rw [hwhole, closingBreak_append hnil, hout, List.append_assoc, List.cons_append,
            List.append_assoc, List.append_assoc, hread]
          exact hlines
        · rw [hwhole, chompingOf_append hnil hs', hchomped]
          simp [BlockLines.all]

/-! ## The whole block -/

/-- Behind the header the line ends. -/
theorem endLine?_newline (p : Position) (r : List Char) :
    endLine? p ('\n' :: r) = some (p.nextLine, r) := rfl

/-- The column of a block's lines. The header tells it where the first line does not show it. -/
def blockColumn (floor : Nat) : Nat := floor - 1 + 2

theorem lt_blockColumn {floor k : Nat} {t : List Char} (ht : NextLine floor k t) :
    k < blockColumn floor := by
  unfold blockColumn
  by_cases h : t = []
  · rw [ht.ended h]
    omega
  · have := ht.left h
    omega

theorem indentation_eq_nil {c : Char} {r : List Char} (h : indentation (c :: r) = []) :
    c ≠ ' ' ∧ isBreak c = false := by
  by_cases hc : (c == ' ' || isBreak c) = true
  · rw [indentation, if_pos hc] at h
    cases h
  · simpa using hc

/-- The column of a block's lines is found, whether the header tells it or the first line shows
it. -/
theorem readIndentation_first (floor : Nat) {bs s : List Char}
    (hbs : ∀ c ∈ bs, isPrintable c = true ∧ isBreak c = true) (hne : s ≠ [])
    (hs : ∀ c ∈ s.head?, isBreak c = false) {x : List Char}
    (hx : ∀ c ∈ x.head?, isBreak c = false ∧ c ≠ '\t') (hhead : x.head? = s.head?)
    {p : Position} (hp : p.column = 0) :
    ∃ w, readIndentation
        ((if indentation (bs ++ s) = [] then none else some 2).map fun n => floor - 1 + n) [] 0 p
        (bs ++ (List.replicate (blockColumn floor) ' ' ++ x)) =
          some ⟨bs.reverse, w, ⟨p.line + bs.length, blockColumn floor⟩, x⟩ ∧
      ((if indentation (bs ++ s) = [] then none else some 2).map fun n => floor - 1 + n).getD
        (max w (max floor 1)) = blockColumn floor := by
  by_cases hind : indentation (bs ++ s) = []
  · rw [if_pos hind]
    obtain ⟨c, r, rfl⟩ := List.exists_cons_of_ne_nil hne
    have hnil : bs = [] := by
      cases bs with
      | nil => rfl
      | cons b bs =>
        have hb := (indentation_eq_nil hind).2
        rw [(hbs b List.mem_cons_self).2] at hb
        cases hb
    subst hnil
    have hspace : ∀ e ∈ x.head?, e ≠ ' ' := by
      intro e he
      rw [hhead] at he
      obtain rfl : c = e := Option.some.inj he
      exact (indentation_eq_nil hind).1
    have hleading : leadingSpaces none (List.replicate (blockColumn floor) ' ' ++ x) =
        blockColumn floor :=
      leadingSpaces_short (by simp) hspace
    refine ⟨max 0 (blockColumn floor), readIndentation_line hleading hx [] 0 hp, ?_⟩
    show max (max 0 (blockColumn floor)) (max floor 1) = blockColumn floor
    unfold blockColumn
    omega
  · rw [if_neg hind]
    refine ⟨max 0 (blockColumn floor), ?_, rfl⟩
    have hread := readIndentation_run (leadingSpaces_full (blockColumn floor) x) hx hbs [] 0 hp
    rw [List.append_nil] at hread
    exact hread

/-- A literal block reads as the text that it was written for. -/
theorem readBlockScalar_literal {floor k : Nat} {t : List Char} (ht : NextLine floor k t)
    {s : List Char} (hne : s ≠ []) (hs : ∀ c ∈ s, isPrintable c = true) (p : Position) :
    ∃ q : Position, q.column = k ∧
      readBlockScalar true floor p (indentation s ++ chomping s ++
        '\n' :: (indented (blockColumn floor) true s ++
          (closingBreak s ++ (List.replicate k ' ' ++ t)))) = some (s.reverse, q, t) := by
  have hk := lt_blockColumn ht
  obtain ⟨n, hheader⟩ := readIndicators_header s (indented (blockColumn floor) true s ++
    (closingBreak s ++ (List.replicate k ' ' ++ t)))
  obtain ⟨bs, s', rfl, hbs, hs'⟩ := exists_run isBreak s
  have hbreaks : ∀ c ∈ bs, isPrintable c = true ∧ isBreak c = true := fun c hc =>
    ⟨hs c (List.mem_append_left _ hc), hbs c hc⟩
  unfold readBlockScalar
  rw [hheader, Option.bind_some]
  dsimp only
  rw [endLine?_newline, Option.bind_some]
  dsimp only
  by_cases hnil : s' = []
  · -- Nothing but breaks: they all stand in front of the next line.
    subst hnil
    rw [List.append_nil] at hne ⊢
    have hind : indentation bs ≠ [] := by
      obtain ⟨b, more, rfl⟩ := List.exists_cons_of_ne_nil hne
      intro h
      have hb := (indentation_eq_nil h).2
      rw [hbs b List.mem_cons_self] at hb
      cases hb
    have hclosing : closingBreak bs = [] := closingBreak_of_breaks (w := []) hne hbs
    have hout : indented (blockColumn floor) true bs = bs := by
      have h := indented_breaks hbs (blockColumn floor) []
      rwa [List.append_nil, show indented (blockColumn floor) true [] = [] from rfl,
        List.append_nil] at h
    have hread := readIndentation_run (ht.begins.leadingSpaces hk) ht.begins.line hbreaks [] 0
      (p := (p.right n).nextLine) rfl
    refine ⟨⟨(p.right n).nextLine.line + bs.length, k⟩, rfl, ?_⟩
    rw [if_neg hind, chompingOf_breaks hne hbs, hclosing, hout, List.nil_append]
    show (readIndentation (some (blockColumn floor)) [] 0 _ _).bind _ = _
    rw [hread, Option.bind_some]
    show (readLines true (blockColumn floor) _ _ t).map _ = _
    rw [readLines_stop (Nat.ne_of_lt hk)]
    simp [BlockLines.chomped]
  · have hx : ∀ c ∈ (indented (blockColumn floor) false s' ++ (closingBreak s' ++
        (List.replicate k ' ' ++ t))).head?, isBreak c = false ∧ c ≠ '\t' := by
      rw [head?_indented hnil hs']
      exact head?_line hs' fun c hc => hs c (List.mem_append_right _ hc)
    obtain ⟨w, hread, hcolumn⟩ := readIndentation_first floor hbreaks hnil hs' hx
      (head?_indented hnil hs' _ _) (p := (p.right n).nextLine) rfl
    obtain ⟨l', q, hlines, hq, hchomped⟩ := readLines_indented hk ht.begins hnil hs'
      (fun c hc => hs c (List.mem_append_right _ hc)) ⟨[], none, bs.reverse, false⟩
      (p := ⟨(p.right n).nextLine.line + bs.length, blockColumn floor⟩) rfl
    refine ⟨q, hq, ?_⟩
    rw [closingBreak_append hnil, indented_breaks hbs, indented_start hnil hs', List.append_assoc,
      List.append_assoc, hread, Option.bind_some]
    dsimp only
    rw [hcolumn, hlines, Option.map_some, chompingOf_append hnil hs', hchomped]
    simp [BlockLines.all]

end UniformIter.Document
