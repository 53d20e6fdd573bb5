import UniformIter.Json.Printer
import UniformIter.Json.Reader

/-!
# Reading back written JSON

A value whose collections nest within the reader's depth is read back from its indented text
(`read_indentedText`). The entries of its objects come back in the order of their names, each name
once (`Json.inOrder`), because that is how the reader gives every object. Values with numbers are
left out (`Json.Fits`); nothing that is written here holds any.

The reader counts down its fuel with every value, item and entry, while the characters of the text
are what bounds them, so the induction carries along that there is as much fuel as there are
characters (`value_written` and the two statements beside it).
-/

namespace UniformIter.Json

open Printer (escaped hexUnit newLine)
open Reader (units unit? escaped? joined isLeading isTrailing skip isBlank)

/-! ## Strings -/

/-- The digits of a control character, which are read as its number. -/
theorem hexUnit_control : ∀ n, n < 0x20 →
    hexUnit n = ['0', '0', Nat.digitChar (n / 16), Nat.digitChar (n % 16)] ∧
      unit? '0' '0' (Nat.digitChar (n / 16)) (Nat.digitChar (n % 16)) = some n := by
  decide

/-- A letter behind a backslash is read as the character that it stands for. -/
theorem units_escape {e c : Char} (he : escaped? e = some c) (hu : e ≠ 'u') (r : List Char) :
    units ('\\' :: e :: r) = (units r).map fun (us, rest) => (c.toNat :: us, rest) := by
  rw [units, he]
  · cases units r <;> rfl
  · exact fun _ _ _ _ _ h _ => hu h

/-- A string shows a character by a letter behind a backslash, by its number, or as it is. -/
theorem escaped_cases (c : Char) :
    (∃ e, escaped c = ['\\', e] ∧ escaped? e = some c ∧ e ≠ 'u') ∨
      (c.toNat < 0x20 ∧ escaped c = '\\' :: 'u' :: hexUnit c.toNat) ∨
      (escaped c = [c] ∧ ¬c.toNat < 0x20 ∧ c ≠ '\x22' ∧ c ≠ '\\') := by
  have hletter : ∀ e d, escaped? e = some d → e ≠ 'u' → (c == d) = true →
      ∃ f, ['\\', e] = ['\\', f] ∧ escaped? f = some c ∧ f ≠ 'u' := by
    intro e d he hu hc
    rw [beq_iff_eq.mp hc]
    exact ⟨e, rfl, he, hu⟩
  unfold escaped
  split
  next h =>
    rw [Bool.or_eq_true] at h
    rcases h with hquote | hslash
    · rw [beq_iff_eq.mp hquote]
      exact .inl ⟨'\x22', rfl, rfl, by decide⟩
    · rw [beq_iff_eq.mp hslash]
      exact .inl ⟨'\\', rfl, rfl, by decide⟩
  next hplain =>
    split
    next h => exact .inl (hletter 'b' '\x08' rfl (by decide) h)
    split
    next h => exact .inl (hletter 'f' '\x0c' rfl (by decide) h)
    split
    next h => exact .inl (hletter 'n' '\n' rfl (by decide) h)
    split
    next h => exact .inl (hletter 'r' '\x0d' rfl (by decide) h)
    split
    next h => exact .inl (hletter 't' '\t' rfl (by decide) h)
    split
    next h => exact .inr (.inl ⟨h, rfl⟩)
    next h =>
      rw [Bool.or_eq_true, beq_iff_eq, beq_iff_eq, not_or] at hplain
      exact .inr (.inr ⟨rfl, h, hplain⟩)

/-- A character is read as its own unit, however the string shows it. -/
theorem units_escaped (c : Char) (r : List Char) :
    units (escaped c ++ r) = (units r).map fun (us, rest) => (c.toNat :: us, rest) := by
  rcases escaped_cases c with ⟨e, hshown, he, hu⟩ | ⟨hcontrol, hshown⟩ |
    ⟨hshown, hcontrol, hquote, hslash⟩
  · rw [hshown]
    exact units_escape he hu r
  · obtain ⟨hdigits, hread⟩ := hexUnit_control c.toNat hcontrol
    rw [hshown, hdigits]
    show units ('\\' :: 'u' :: '0' :: '0' :: _ :: _ :: r) = _
    rw [units, hread]
    cases units r <;> rfl
  · rw [hshown, List.singleton_append, units, if_neg hcontrol]
    · cases units r <;> rfl
    · exact hquote
    · exact fun _ _ _ _ _ hc _ => hslash hc
    · exact fun _ _ hc _ => hslash hc

theorem units_text (cs r : List Char) :
    units (cs.flatMap escaped ++ '\x22' :: r) = some (cs.map Char.toNat, r) := by
  induction cs with
  | nil => rw [List.flatMap_nil, List.nil_append, units, List.map_nil]
  | cons c cs ih => rw [List.flatMap_cons, List.append_assoc, units_escaped, ih]; rfl

/-- No character is half of another one. -/
theorem isLeading_toNat (c : Char) : isLeading c.toNat = false := by
  have hvalid : c.toNat < 0xD800 ∨ 0xDFFF < c.toNat ∧ c.toNat < 0x110000 := c.valid
  rw [isLeading, Bool.and_eq_false_iff, decide_eq_false_iff_not, decide_eq_false_iff_not]
  omega

theorem isTrailing_toNat (c : Char) : isTrailing c.toNat = false := by
  have hvalid : c.toNat < 0xD800 ∨ 0xDFFF < c.toNat ∧ c.toNat < 0x110000 := c.valid
  rw [isTrailing, Bool.and_eq_false_iff, decide_eq_false_iff_not, decide_eq_false_iff_not]
  omega

theorem joined_toNat (cs : List Char) : joined (cs.map Char.toNat) = some cs := by
  induction cs with
  | nil => rfl
  | cons c cs ih =>
    have hc : Char.ofNat c.toNat = c := Char.ofNat_toNat c
    cases cs with
    | nil => simp [joined, isLeading_toNat, isTrailing_toNat, hc]
    | cons d cs =>
      rw [List.map_cons] at ih
      simp [joined, isLeading_toNat, isTrailing_toNat, ih, hc]

/-- A string is read as itself, to its closing quote. -/
theorem text_written (s : String) (r : List Char) :
    Reader.text (s.toList.flatMap escaped ++ '\x22' :: r) = some (s, r) := by
  rw [Reader.text, units_text]
  simp [joined_toNat]

/-! ## Values without numbers -/

mutual

/-- A value without numbers, whose collections nest no deeper than there is room for. -/
def Fits : (room : Nat) → Json → Prop
  | _, null => True
  | _, boolean _ => True
  | _, string _ => True
  | _, integer _ => False
  | _, fraction _ => False
  | 0, array _ => False
  | room + 1, array items => ItemsFit room items
  | 0, object _ => False
  | room + 1, object entries => EntriesFit room entries

/-- So are the items of a list. -/
def ItemsFit (room : Nat) : List Json → Prop
  | [] => True
  | x :: more => Fits room x ∧ ItemsFit room more

/-- So are the values of entries. -/
def EntriesFit (room : Nat) : List (String × Json) → Prop
  | [] => True
  | (_, x) :: more => Fits room x ∧ EntriesFit room more

end

mutual

/-- A value as it is read: the entries of its objects are in the order of their names. -/
def inOrder : Json → Json
  | array items => array (itemsInOrder items)
  | object entries => ofEntries (entriesInOrder entries)
  | v => v

/-- Items as they are read. -/
def itemsInOrder : List Json → List Json
  | [] => []
  | x :: more => inOrder x :: itemsInOrder more

/-- Entries as they are read, before they are put in order. -/
def entriesInOrder : List (String × Json) → List (String × Json)
  | [] => []
  | (k, x) :: more => (k, inOrder x) :: entriesInOrder more

end

theorem itemsFit_map {α : Type} {room : Nat} {f : α → Json} (h : ∀ a, Fits room (f a))
    (l : List α) : ItemsFit room (l.map f) := by
  induction l with
  | nil => exact trivial
  | cons a l ih => exact ⟨h a, ih⟩

theorem itemsInOrder_map {α : Type} (f : α → Json) (l : List α) :
    itemsInOrder (l.map f) = l.map fun a => (f a).inOrder := by
  induction l with
  | nil => rfl
  | cons a l ih => rw [List.map_cons, List.map_cons, itemsInOrder, ih]

theorem skip_of_begins {c : Char} (hc : isBlank c = false) (r : List Char) :
    skip (c :: r) = c :: r := by
  rw [skip, List.dropWhile_cons_of_neg (by rw [hc]; decide)]

/-- A new line is passed over, with the blanks that begin it. -/
theorem skip_newLine (depth : Nat) (r : List Char) : skip (newLine depth ++ r) = skip r := by
  rw [newLine, List.cons_append, skip, List.dropWhile_cons_of_pos (by decide),
    List.dropWhile_append_of_pos]
  · rfl
  · intro c hc
    rw [List.eq_of_mem_replicate hc]
    decide

/-- What a value begins with is no blank, and does not close an array. -/
theorem value_begins {v : Json} {room : Nat} (h : v.Fits room) (depth : Nat) :
    ∃ c cs, Printer.value depth v = c :: cs ∧ isBlank c = false ∧ c ≠ ']' := by
  cases v with
  | null => exact ⟨_, _, rfl, by decide, by decide⟩
  | boolean b => cases b <;> exact ⟨_, _, rfl, by decide, by decide⟩
  | integer n => exact absurd h id
  | fraction x => exact absurd h id
  | string s => exact ⟨_, _, rfl, by decide, by decide⟩
  | array items => cases items <;> exact ⟨_, _, rfl, by decide, by decide⟩
  | object entries => cases entries <;> exact ⟨_, _, rfl, by decide, by decide⟩

theorem skip_value_behind_colon {v : Json} {room : Nat} (h : v.Fits room) (depth : Nat)
    (r : List Char) : skip (' ' :: (Printer.value depth v ++ r)) = Printer.value depth v ++ r := by
  obtain ⟨c, cs, hv, hblank, -⟩ := value_begins h depth
  rw [skip, List.dropWhile_cons_of_pos (by decide), ← skip, hv, List.cons_append,
    skip_of_begins hblank]

theorem itemLines_begin {x : Json} {more : List Json} {room : Nat}
    (h : ItemsFit room (x :: more)) (depth : Nat) :
    ∃ c cs, Printer.itemLines depth (x :: more) = c :: cs ∧ isBlank c = false ∧ c ≠ ']' := by
  obtain ⟨c, cs, hx, hc⟩ := value_begins h.1 depth
  cases more with
  | nil => exact ⟨c, _, by rw [Printer.itemLines, hx]; rfl, hc⟩
  | cons y more => exact ⟨c, _, by rw [Printer.itemLines, hx]; rfl; nofun, hc⟩

theorem entryLines_begin (e : String × Json) (more : List (String × Json)) (depth : Nat) :
    ∃ cs, Printer.entryLines depth (e :: more) = '\x22' :: cs := by
  cases more with
  | nil => exact ⟨_, rfl⟩
  | cons d more => exact ⟨_, rfl⟩

theorem skip_itemLines {x : Json} {more : List Json} {room : Nat}
    (h : ItemsFit room (x :: more)) (depth : Nat) (rest : List Char) :
    skip (newLine depth ++ (Printer.itemLines depth (x :: more) ++ rest)) =
      Printer.itemLines depth (x :: more) ++ rest := by
  obtain ⟨c, cs, hc, hblank, -⟩ := itemLines_begin h depth
  rw [skip_newLine, hc, List.cons_append, skip_of_begins hblank]

theorem skip_entryLines (e : String × Json) (more : List (String × Json)) (depth : Nat)
    (rest : List Char) :
    skip (newLine depth ++ (Printer.entryLines depth (e :: more) ++ rest)) =
      Printer.entryLines depth (e :: more) ++ rest := by
  obtain ⟨cs, hc⟩ := entryLines_begin e more depth
  rw [skip_newLine, hc, List.cons_append, skip_of_begins (by decide)]

/-! ## Steps of the reader -/

section

variable {room fuel : Nat} {s r rest : List Char} {x : Json}

theorem value_bracket (h : ∀ r', skip r ≠ ']' :: r') :
    Reader.value (room + 1) (fuel + 1) ('[' :: r) =
      (Reader.items room fuel (skip r)).map fun (xs, rest) => (.array xs, rest) := by
  rw [Reader.value]
  rw [if_neg (Nat.succ_ne_zero room)]
  split
  next r' hr => exact absurd hr (h r')
  next => rfl

theorem value_brace (h : ∀ r', skip r ≠ '\x7d' :: r') :
    Reader.value (room + 1) (fuel + 1) ('\x7b' :: r) =
      (Reader.entries room fuel (skip r)).map fun (es, rest) => (ofEntries es, rest) := by
  rw [Reader.value]
  rw [if_neg (Nat.succ_ne_zero room)]
  split
  next r' hr => exact absurd hr (h r')
  next => rfl

theorem items_last (hvalue : Reader.value room fuel s = some (x, r))
    (hclose : skip r = ']' :: rest) : Reader.items room (fuel + 1) s = some ([x], rest) := by
  rw [Reader.items, hvalue]
  simp only [Option.bind_eq_bind, Option.bind_some, hclose]

theorem items_more (hvalue : Reader.value room fuel s = some (x, r))
    (hcomma : skip r = ',' :: rest) :
    Reader.items room (fuel + 1) s =
      (Reader.items room fuel (skip rest)).map fun (xs, rest) => (x :: xs, rest) := by
  rw [Reader.items, hvalue]
  simp only [Option.bind_eq_bind, Option.bind_some, hcomma]
  cases Reader.items room fuel (skip rest) <;> rfl

variable {k : String} {r₁ r₂ : List Char}

theorem entries_last (hkey : Reader.text s = some (k, r₁)) (hcolon : skip r₁ = ':' :: r₂)
    (hvalue : Reader.value room fuel (skip r₂) = some (x, r)) (hclose : skip r = '\x7d' :: rest) :
    Reader.entries room (fuel + 1) ('\x22' :: s) = some ([(k, x)], rest) := by
  rw [Reader.entries]
  simp only [hkey, Option.bind_eq_bind, Option.bind_some, hcolon, hvalue, hclose]

theorem entries_more (hkey : Reader.text s = some (k, r₁)) (hcolon : skip r₁ = ':' :: r₂)
    (hvalue : Reader.value room fuel (skip r₂) = some (x, r)) (hcomma : skip r = ',' :: rest) :
    Reader.entries room (fuel + 1) ('\x22' :: s) =
      (Reader.entries room fuel (skip rest)).map fun (es, rest) => ((k, x) :: es, rest) := by
  rw [Reader.entries]
  simp only [hkey, Option.bind_eq_bind, Option.bind_some, hcolon, hvalue, hcomma]
  cases Reader.entries room fuel (skip rest) <;> rfl

end

/-! ## Whole values -/

mutual

/-- A written value is read as itself in order, to its last character. -/
theorem value_written (v : Json) (room depth fuel : Nat) (rest : List Char) (hfit : v.Fits room)
    (hfuel : (Printer.value depth v).length ≤ fuel) :
    Reader.value room (fuel + 1) (Printer.value depth v ++ rest) = some (v.inOrder, rest) := by
  match v with
  | null => rfl
  | boolean true => rfl
  | boolean false => rfl
  | string s =>
    show Reader.value room (fuel + 1) ('\x22' :: (s.toList.flatMap escaped ++ ['\x22'] ++ rest)) = _
    rw [List.append_assoc]
    show ((Reader.text _).map _ : Option (Json × List Char)) = _
    rw [List.singleton_append, text_written]
    rfl
  | array [] =>
    cases room with
    | zero => exact absurd hfit id
    | succ room => rfl
  | array (x :: more) =>
    cases room with
    | zero => exact absurd hfit id
    | succ room =>
      have hlines : Printer.value depth (array (x :: more)) =
        '[' :: (newLine (depth + 1) ++ Printer.itemLines (depth + 1) (x :: more)) := rfl
      rw [hlines] at hfuel ⊢
      rw [List.length_cons, List.length_append] at hfuel
      have hskip := skip_itemLines hfit (depth + 1) rest
      obtain ⟨fuel, rfl⟩ : ∃ f, fuel = f + 1 := ⟨fuel - 1, by omega⟩
      have hitems := items_written x more room (depth + 1) fuel rest hfit (by omega)
      rw [List.cons_append, List.append_assoc, value_bracket, hskip, hitems]
      · rfl
      -- The array is not taken for an empty one, because no item begins with its bracket.
      · intro r' hclose
        obtain ⟨c, cs, hc, -, hopen⟩ := itemLines_begin hfit (depth + 1)
        rw [hskip, hc, List.cons_append] at hclose
        exact hopen (List.cons.inj hclose).1
  | object [] =>
    cases room with
    | zero => exact absurd hfit id
    | succ room => rfl
  | object (e :: more) =>
    cases room with
    | zero => exact absurd hfit id
    | succ room =>
      have hlines : Printer.value depth (object (e :: more)) =
        '\x7b' :: (newLine (depth + 1) ++ Printer.entryLines (depth + 1) (e :: more)) := rfl
      rw [hlines] at hfuel ⊢
      rw [List.length_cons, List.length_append] at hfuel
      have hskip := skip_entryLines e more (depth + 1) rest
      obtain ⟨fuel, rfl⟩ : ∃ f, fuel = f + 1 := ⟨fuel - 1, by omega⟩
      have hentries := entries_written e more room (depth + 1) fuel rest hfit (by omega)
      rw [List.cons_append, List.append_assoc, value_brace, hskip, hentries]
      · rfl
      · intro r' hclose
        obtain ⟨cs, hc⟩ := entryLines_begin e more (depth + 1)
        rw [hskip, hc, List.cons_append] at hclose
        exact absurd (List.cons.inj hclose).1 (by decide)
termination_by sizeOf v

/-- Written items are read one after the other, to the bracket that closes them. -/
theorem items_written (x : Json) (more : List Json) (room depth fuel : Nat) (rest : List Char)
    (hfit : ItemsFit room (x :: more))
    (hfuel : (Printer.itemLines depth (x :: more)).length ≤ fuel) :
    Reader.items room (fuel + 1) (Printer.itemLines depth (x :: more) ++ rest) =
      some (itemsInOrder (x :: more), rest) := by
  match more with
  | [] =>
    obtain ⟨hx, -⟩ := hfit
    have hlines : Printer.itemLines depth [x] =
      Printer.value depth x ++ (newLine (depth - 1) ++ [']']) := by
        rw [Printer.itemLines, List.append_assoc]
    rw [hlines] at hfuel ⊢
    rw [List.length_append, List.length_append, List.length_singleton] at hfuel
    obtain ⟨fuel, rfl⟩ : ∃ f, fuel = f + 1 := ⟨fuel - 1, by omega⟩
    have hvalue := value_written x room depth fuel (newLine (depth - 1) ++ [']'] ++ rest) hx
      (by omega)
    rw [List.append_assoc]
    apply items_last hvalue
    rw [List.append_assoc, skip_newLine, List.singleton_append, skip_of_begins (by decide)]
  | y :: more =>
    obtain ⟨hx, hmore⟩ := hfit
    have hlines : Printer.itemLines depth (x :: y :: more) =
      Printer.value depth x ++ (',' :: (newLine depth ++ Printer.itemLines depth (y :: more))) := by
        rw [Printer.itemLines]
        · simp
        · nofun
    rw [hlines] at hfuel ⊢
    rw [List.length_append, List.length_cons, List.length_append] at hfuel
    obtain ⟨fuel, rfl⟩ : ∃ f, fuel = f + 1 := ⟨fuel - 1, by omega⟩
    have hvalue := value_written x room depth fuel
      (',' :: (newLine depth ++ (Printer.itemLines depth (y :: more) ++ rest))) hx (by omega)
    have hitems := items_written y more room depth fuel rest hmore (by omega)
    rw [List.append_assoc, List.cons_append, List.append_assoc,
      items_more hvalue (skip_of_begins (by decide) _), skip_itemLines hmore, hitems]
    rfl
termination_by sizeOf x + sizeOf more + 1

/-- Written entries are read one after the other, to the brace that closes them. -/
theorem entries_written (e : String × Json) (more : List (String × Json))
    (room depth fuel : Nat) (rest : List Char) (hfit : EntriesFit room (e :: more))
    (hfuel : (Printer.entryLines depth (e :: more)).length ≤ fuel) :
    Reader.entries room (fuel + 1) (Printer.entryLines depth (e :: more) ++ rest) =
      some (entriesInOrder (e :: more), rest) := by
  match e, more with
  | (k, x), [] =>
    obtain ⟨hx, -⟩ := hfit
    have hlines : Printer.entryLines depth [(k, x)] = '\x22' :: (k.toList.flatMap escaped ++
        '\x22' :: ':' :: ' ' :: (Printer.value depth x ++ (newLine (depth - 1) ++ ['\x7d']))) := by
      simp [Printer.entryLines, Printer.text]
    rw [hlines] at hfuel ⊢
    simp only [List.length_cons, List.length_append] at hfuel
    obtain ⟨fuel, rfl⟩ : ∃ f, fuel = f + 1 := ⟨fuel - 1, by omega⟩
    have hvalue := value_written x room depth fuel (newLine (depth - 1) ++ '\x7d' :: rest) hx
      (by omega)
    rw [← skip_value_behind_colon hx] at hvalue
    simp only [List.cons_append, List.append_assoc, List.nil_append]
    apply entries_last (text_written k _) (skip_of_begins (by decide) _) hvalue
    rw [skip_newLine, skip_of_begins (by decide)]
  | (k, x), f :: more =>
    obtain ⟨hx, hmore⟩ := hfit
    have hlines : Printer.entryLines depth ((k, x) :: f :: more) =
        '\x22' :: (k.toList.flatMap escaped ++ '\x22' :: ':' :: ' ' :: (Printer.value depth x ++
          (',' :: (newLine depth ++ Printer.entryLines depth (f :: more))))) := by
      simp [Printer.entryLines, Printer.text]
    rw [hlines] at hfuel ⊢
    simp only [List.length_cons, List.length_append] at hfuel
    obtain ⟨fuel, rfl⟩ : ∃ f, fuel = f + 1 := ⟨fuel - 1, by omega⟩
    have hvalue := value_written x room depth fuel
      (',' :: (newLine depth ++ (Printer.entryLines depth (f :: more) ++ rest))) hx (by omega)
    have hentries := entries_written f more room depth fuel rest hmore (by omega)
    rw [← skip_value_behind_colon hx] at hvalue
    simp only [List.cons_append, List.append_assoc]
    rw [entries_more (text_written k _) (skip_of_begins (by decide) _) hvalue
      (skip_of_begins (by decide) _), skip_entryLines, hentries]
    rfl
termination_by sizeOf e + sizeOf more + 1

end

/-- What was written of a value without numbers is read as this value in order, with a line's end
behind it. -/
theorem read_indentedText {v : Json} (h : v.Fits Reader.greatestDepth) :
    read (v.indentedText ++ "\n") = some v.inOrder := by
  obtain ⟨c, cs, hv, hblank, -⟩ := value_begins h 0
  have hlist : (v.indentedText ++ "\n").toList = Printer.value 0 v ++ ['\n'] := by
    rw [String.toList_append, indentedText, String.toList_ofList]
    rfl
  have hskip : skip (Printer.value 0 v ++ ['\n']) = Printer.value 0 v ++ ['\n'] := by
    rw [hv, List.cons_append, skip_of_begins hblank]
  have hvalue := value_written v Reader.greatestDepth 0
    (2 * (Printer.value 0 v ++ ['\n']).length + 1) ['\n'] h
    (by rw [List.length_append]; omega)
  rw [read, hlist]
  simp only [hskip, hvalue]
  rfl

end UniformIter.Json
