import UniformIter.Document.QuotedScalar

/-!
# String literals of Go

The interpreted string literals of Go, by the grammar of the language: between two quotation
marks stand characters and escapes, and each of them denotes bytes. An escape denotes fewer
bytes than it takes to write it (`Element.plain_or_shorter`). So a literal that is as long as
what it denotes has no escapes, and the first line of a text in quotation marks is a literal of
that text exactly if there is nothing in it to escape (`denotes_firstLine_iff`).
-/

namespace UniformIter.Go

/-- The bytes of a text in UTF-8. -/
def utf8 (s : List Char) : List UInt8 := s.flatMap String.utf8EncodeChar

/-! ## The grammar -/

/-- A character that stands for itself in a literal. -/
def IsPlain (c : Char) : Prop := c ≠ '\x22' ∧ c ≠ '\\' ∧ c ≠ '\n'

/-- The letters behind a backslash that denote a byte each. -/
def namedEscapes : List (Char × UInt8) :=
  [('a', 7), ('b', 8), ('f', 12), ('n', 10), ('r', 13), ('t', 9), ('v', 11), ('\\', 92),
    ('\x22', 34)]

/-- Digits to a base, so many of them, that stand for a number. -/
def IsNumber (base count : Nat) (digits : List Char) (n : Nat) : Prop :=
  digits.length = count ∧ ∃ values, digits.mapM Document.hexValue? = some values ∧
    (∀ d ∈ values, d < base) ∧ values.foldl (fun m d => m * base + d) 0 = n

/-- What a literal is made of, and the bytes that it denotes: a character, or an escape for a
byte or for a code point. -/
inductive Element : List Char → List UInt8 → Prop where
  | plain {c : Char} (h : IsPlain c) : Element [c] (String.utf8EncodeChar c)
  | named {c : Char} {b : UInt8} (h : (c, b) ∈ namedEscapes) : Element ['\\', c] [b]
  | octal {digits : List Char} {n : Nat} (h : IsNumber 8 3 digits n) (hn : n < 256) :
      Element ('\\' :: digits) [UInt8.ofNat n]
  | hex {digits : List Char} {n : Nat} (h : IsNumber 16 2 digits n) :
      Element ('\\' :: 'x' :: digits) [UInt8.ofNat n]
  | short {digits : List Char} {c : Char} (h : IsNumber 16 4 digits c.toNat) :
      Element ('\\' :: 'u' :: digits) (String.utf8EncodeChar c)
  | long {digits : List Char} {c : Char} (h : IsNumber 16 8 digits c.toNat) :
      Element ('\\' :: 'U' :: digits) (String.utf8EncodeChar c)

/-- What stands between the quotation marks. -/
inductive Within : List Char → List UInt8 → Prop where
  | nil : Within [] []
  | cons {p s : List Char} {b v : List UInt8} (hp : Element p b) (hs : Within s v) :
      Within (p ++ s) (b ++ v)

/-- A complete literal. -/
inductive Literal : List Char → List UInt8 → Prop where
  | quoted {s : List Char} {v : List UInt8} (h : Within s v) :
      Literal ('\x22' :: (s ++ ['\x22'])) v

/-- A literal that denotes these bytes and no others. -/
structure Denotes (text : List Char) (v : List UInt8) : Prop where
  literal : Literal text v
  only : ∀ w, Literal text w → w = v

/-! ## Lengths -/

theorem utf8_append (s t : List Char) : utf8 (s ++ t) = utf8 s ++ utf8 t :=
  List.flatMap_append

theorem utf8_cons (c : Char) (s : List Char) :
    utf8 (c :: s) = String.utf8EncodeChar c ++ utf8 s :=
  List.flatMap_cons

/-- Every character takes a byte at least. -/
theorem length_le_utf8 (s : List Char) : s.length ≤ (utf8 s).length := by
  induction s with
  | nil => exact Nat.le_refl 0
  | cons c s ih =>
    have hc := Char.utf8Size_pos c
    rw [utf8_cons, List.length_append, String.length_utf8EncodeChar, List.length_cons]
    omega

/-- An element is a character as it stands, or an escape that denotes less than it takes. -/
theorem Element.plain_or_shorter {p : List Char} {b : List UInt8} (h : Element p b) :
    (∃ c, IsPlain c ∧ p = [c] ∧ b = String.utf8EncodeChar c) ∨ '\\' ∈ p ∧ b.length < p.length := by
  cases h with
  | plain hc => exact .inl ⟨_, hc, rfl, rfl⟩
  | named _ => exact .inr ⟨List.mem_cons_self, by simp⟩
  | octal hn _ => exact .inr ⟨List.mem_cons_self, by simp [hn.1]⟩
  | hex hn => exact .inr ⟨List.mem_cons_self, by simp [hn.1]⟩
  | @short _ c hn | @long _ c hn =>
    -- A code point takes four bytes at most, and its escapes have six characters and ten.
    have hc := Char.utf8Size_le_four c
    refine .inr ⟨List.mem_cons_self, ?_⟩
    rw [String.length_utf8EncodeChar, List.length_cons, List.length_cons, hn.1]
    omega

/-- What stands between quotation marks has no escapes and denotes itself, or it denotes less
than it takes. -/
theorem Within.plain_or_shorter {s : List Char} {v : List UInt8} (h : Within s v) :
    (∀ c ∈ s, IsPlain c) ∧ v = utf8 s ∨ '\\' ∈ s ∧ v.length < (utf8 s).length := by
  induction h with
  | nil => exact .inl ⟨by simp, rfl⟩
  | @cons p s b v hp hs ih =>
    have hv : v.length ≤ (utf8 s).length := by
      rcases ih with ⟨-, rfl⟩ | ⟨-, hlt⟩
      · exact Nat.le_refl _
      · exact Nat.le_of_lt hlt
    rw [utf8_append, List.length_append, List.length_append]
    rcases hp.plain_or_shorter with ⟨c, hc, rfl, rfl⟩ | ⟨hmem, hlt⟩
    · have hone : utf8 [c] = String.utf8EncodeChar c := by
        rw [utf8_cons, show utf8 [] = [] from rfl, List.append_nil]
      rw [hone]
      rcases ih with ⟨hplain, rfl⟩ | ⟨hmem, hlt⟩
      · exact .inl ⟨List.forall_mem_cons.2 ⟨hc, hplain⟩, rfl⟩
      · exact .inr ⟨List.mem_append_right _ hmem, by omega⟩
    · have hp := length_le_utf8 p
      exact .inr ⟨List.mem_append_left _ hmem, by omega⟩

/-! ## Texts in quotation marks -/

theorem isPlain_of_all {cs : List Char}
    (h : cs.all (fun c => c != '\x22' && c != '\\' && c != '\n') = true) :
    ∀ c ∈ cs, IsPlain c := by
  intro c hc
  have hone := List.all_eq_true.1 h c hc
  rw [Bool.and_eq_true, Bool.and_eq_true, bne_iff_ne, bne_iff_ne, bne_iff_ne] at hone
  exact ⟨hone.1.1, hone.1.2, hone.2⟩

theorem within_of_plain {s : List Char} (h : ∀ c ∈ s, IsPlain c) : Within s (utf8 s) := by
  induction s with
  | nil => exact .nil
  | cons c s ih =>
    rw [List.forall_mem_cons] at h
    rw [utf8_cons]
    exact .cons (.plain h.1) (ih h.2)

/-- Between quotation marks, what needs no escapes denotes itself. -/
theorem denotes_quoted {s : List Char} (h : ∀ c ∈ s, IsPlain c) :
    Denotes ('\x22' :: (s ++ ['\x22'])) (utf8 s) := by
  refine ⟨.quoted (within_of_plain h), fun w hw => ?_⟩
  generalize htext : '\x22' :: (s ++ ['\x22']) = text at hw
  obtain ⟨hwithin⟩ := hw
  obtain rfl := List.append_cancel_right (List.cons.inj htext).2
  rcases hwithin.plain_or_shorter with ⟨-, hv⟩ | ⟨hmem, -⟩
  · exact hv
  · exact absurd rfl (h _ hmem).2.1

/-- The first line of a text in quotation marks is a literal of the text exactly if nothing in
the text needs an escape. -/
theorem denotes_firstLine_iff {s : List Char} :
    Denotes ('\x22' :: (s ++ ['\x22']).takeWhile (· != '\n')) (utf8 s) ↔ ∀ c ∈ s, IsPlain c := by
  constructor
  · rintro ⟨hliteral, -⟩
    generalize htext : '\x22' :: (s ++ ['\x22']).takeWhile (· != '\n') = text at hliteral
    cases hliteral with
    | @quoted body _ hwithin =>
      obtain ⟨rest, hrest⟩ := List.takeWhile_prefix (l := s ++ ['\x22']) (· != '\n')
      rw [(List.cons.inj htext).2] at hrest
      have hlength := congrArg (fun t => (utf8 t).length) hrest
      simp only [utf8_append, List.length_append] at hlength
      rcases hwithin.plain_or_shorter with ⟨hplain, hv⟩ | ⟨-, hlt⟩
      · -- Nothing is left behind the first line, so the text is what the literal holds.
        have hle := length_le_utf8 rest
        have hnil : rest = [] := List.length_eq_zero_iff.1 (by rw [hv] at hlength; omega)
        rw [hnil, List.append_nil] at hrest
        rwa [← List.append_cancel_right hrest]
      · omega
  · intro h
    have hline : (s ++ ['\x22']).takeWhile (· != '\n') = s ++ ['\x22'] := by
      rw [List.takeWhile_append_of_pos fun c hc => bne_iff_ne.2 (h c hc).2.2]
      rfl
    rw [hline]
    exact denotes_quoted h

end UniformIter.Go
