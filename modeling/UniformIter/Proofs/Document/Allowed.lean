import UniformIter.Proofs.Document.Keys

/-!
# Characters that may be read

The tokenizer refuses a text with a character that no document may hold. A written document never
has one, however strange its strings are (`forall_allowed_text`): three of the four styles hold
only characters that are written as they are, and double quotes hold escapes of all others.
-/

namespace UniformIter.Document

open ScalarText (isPrintable allowsPlain allowsSingle indented escaped escapeLetter? hexDigits)

/-! ## Scalars -/

theorem forall_allowed_spaces (n : Nat) : ∀ c ∈ List.replicate n ' ', isAllowed c = true :=
  forall_mem_replicate (by decide) n

theorem forall_allowed_indented {s : List Char} (hs : ∀ c ∈ s, isAllowed c = true) (indent : Nat)
    (atStart : Bool) : ∀ c ∈ indented indent atStart s, isAllowed c = true := by
  induction s generalizing atStart with
  | nil => exact fun c hc => by cases hc
  | cons c s ih =>
    obtain ⟨hc, hmore⟩ := List.forall_mem_cons.1 hs
    rw [indented]
    by_cases hb : isBreak c = true
    · rw [if_pos hb]
      exact List.forall_mem_cons.2 ⟨hc, ih hmore true⟩
    · rw [if_neg hb, List.forall_mem_append]
      refine ⟨?_, List.forall_mem_cons.2 ⟨hc, ih hmore false⟩⟩
      cases atStart with
      | false => exact fun c hc => by cases hc
      | true => exact forall_allowed_spaces indent

theorem forall_allowed_literal {s : List Char} (hs : ∀ c ∈ s, isAllowed c = true)
    (indent : Nat) : ∀ c ∈ ScalarText.literal indent s, isAllowed c = true := by
  have hwidth : ∀ c ∈ ScalarText.indentation s, isAllowed c = true := by
    unfold ScalarText.indentation
    split
    · split
      · exact List.all_eq_true.1 rfl
      · exact List.all_eq_true.1 rfl
    · exact List.all_eq_true.1 rfl
  have hsign : ∀ c ∈ ScalarText.chomping s, isAllowed c = true := by
    unfold ScalarText.chomping
    split
    · exact List.all_eq_true.1 rfl
    · split
      · exact List.all_eq_true.1 rfl
      · split
        · exact List.all_eq_true.1 rfl
        · exact List.all_eq_true.1 rfl
  rw [ScalarText.literal, List.cons_append, List.cons_append, List.forall_mem_cons,
    List.forall_mem_append, List.forall_mem_append, List.forall_mem_cons]
  exact ⟨by decide, ⟨hwidth, hsign⟩, by decide, forall_allowed_indented hs indent true⟩

theorem forall_allowed_single {s : List Char} (hs : ∀ c ∈ s, isAllowed c = true)
    (indent : Nat) : ∀ c ∈ ScalarText.singleQuoted indent s, isAllowed c = true := by
  unfold ScalarText.singleQuoted
  dsimp only
  rw [List.cons_append, List.cons_append, List.forall_mem_cons, List.forall_mem_append,
    List.forall_mem_append]
  refine ⟨by decide, ⟨?_, ?_⟩, List.all_eq_true.1 rfl⟩
  · intro d hd
    obtain ⟨c, hc, hd⟩ := List.mem_flatMap.1 hd
    have hallowed := forall_allowed_indented hs indent false c hc
    by_cases hquote : (c == '\x27') = true
    · rw [if_pos hquote] at hd
      rcases List.mem_cons.1 hd with rfl | hd
      · decide
      · rwa [List.mem_singleton.1 hd]
    · rw [if_neg hquote] at hd
      rwa [List.mem_singleton.1 hd]
  · split
    · exact forall_allowed_spaces indent
    · exact fun c hc => by cases hc

theorem forall_allowed_hexDigits (count n : Nat) :
    ∀ c ∈ hexDigits count n, isAllowed c = true := by
  have hall : ∀ d : Fin 16,
      isAllowed (Char.ofNat (if d.1 < 10 then d.1 + 48 else d.1 + 55)) = true := by
    decide
  intro c hc
  obtain ⟨i, -, rfl⟩ := List.mem_map.1 hc
  exact hall ⟨n / Nat.pow 16 i % 16, Nat.mod_lt _ (by decide)⟩

/-- An escape is made of letters and digits. -/
theorem forall_allowed_escaped (c : Char) : ∀ d ∈ escaped c, isAllowed d = true := by
  unfold escaped
  split
  next h =>
    simp only [Bool.and_eq_true] at h
    intro d hd
    rw [List.mem_singleton.1 hd]
    exact isAllowed_of_isPrintable h.1.1.1
  next =>
    split
    next e he =>
      obtain ⟨before, after, htable, -⟩ := List.lookup_eq_some_iff.1 he
      have hall : ∀ p ∈ before ++ (c, e) :: after, isAllowed p.2 = true := by
        rw [← htable]
        exact List.all_eq_true.1 (by decide)
      have hletter := hall (c, e) (List.mem_append_right _ List.mem_cons_self)
      exact List.forall_mem_cons.2 ⟨by decide, List.forall_mem_singleton.2 hletter⟩
    next =>
      have hnumber : ∀ letter count, isAllowed letter = true →
          ∀ d ∈ '\\' :: letter :: hexDigits count c.toNat, isAllowed d = true :=
        fun letter count hletter => List.forall_mem_cons.2
          ⟨by decide, List.forall_mem_cons.2 ⟨hletter, forall_allowed_hexDigits count c.toNat⟩⟩
      dsimp only
      split
      · exact hnumber 'x' 2 (by decide)
      · split
        · exact hnumber 'u' 4 (by decide)
        · exact hnumber 'U' 8 (by decide)

theorem forall_allowed_double (s : List Char) :
    ∀ c ∈ ScalarText.doubleQuoted s, isAllowed c = true := by
  rw [ScalarText.doubleQuoted, List.cons_append, List.forall_mem_cons, List.forall_mem_append]
  refine ⟨by decide, ?_, List.all_eq_true.1 rfl⟩
  intro d hd
  obtain ⟨c, -, hd⟩ := List.mem_flatMap.1 hd
  exact forall_allowed_escaped c d hd

theorem forall_allowed_scalarLine (indent : Nat) (s : String) :
    ∀ c ∈ scalarLine indent s, isAllowed c = true := by
  rw [scalarLine]
  rcases styleOf_cases s with ⟨hstyle, -, hs⟩ | ⟨hstyle, -, hs⟩ | ⟨hstyle, -, hs⟩ | hstyle
  · rw [hstyle, List.forall_mem_append]
    refine ⟨forall_allowed_literal (fun c hc => isAllowed_of_isPrintable (hs c hc)) indent, ?_⟩
    split
    · exact List.all_eq_true.1 rfl
    · exact List.all_eq_true.1 rfl
  · simp only [allowsPlain, Bool.and_eq_true, List.all_eq_true] at hs
    rw [hstyle, List.forall_mem_append]
    exact ⟨fun c hc => isAllowed_of_isPrintable (hs.1.1.1 c hc).1, List.all_eq_true.1 rfl⟩
  · simp only [allowsSingle, Bool.and_eq_true, List.all_eq_true] at hs
    rw [hstyle, List.forall_mem_append]
    exact ⟨forall_allowed_single (fun c hc => isAllowed_of_isPrintable (hs.1.1 c hc)) indent,
      List.all_eq_true.1 rfl⟩
  · rw [hstyle, List.forall_mem_append]
    exact ⟨forall_allowed_double _, List.all_eq_true.1 rfl⟩

/-! ## Documents -/

namespace Content

theorem forall_allowed_word (b : Bool) : ∀ c ∈ (word b).toList ++ ['\n'], isAllowed c = true := by
  cases b with
  | false => exact List.all_eq_true.1 (by decide)
  | true => exact List.all_eq_true.1 (by decide)

mutual

theorem forall_allowed_afterDash (c : Content) (hc : c.Keyed) (d : Nat) :
    ∀ a ∈ afterDash d c, isAllowed a = true := by
  match c, hc with
  | .boolean b, _ => exact forall_allowed_word b
  | .string s, _ => exact forall_allowed_scalarLine (d + 2) s
  | .sequence [], _ =>
    show ∀ a ∈ ['[', ']', '\n'], isAllowed a = true
    exact List.all_eq_true.1 rfl
  | .mapping [], _ =>
    show ∀ a ∈ ['\x7b', '\x7d', '\n'], isAllowed a = true
    exact List.all_eq_true.1 rfl
  | .sequence (c :: more), hc => exact forall_allowed_itemLines (c :: more) hc (d + 2) false
  | .mapping (e :: more), hc => exact forall_allowed_entryLines (e :: more) hc (d + 2) false
termination_by sizeOf c

theorem forall_allowed_afterKey (v : Content) (hv : v.Keyed) (d : Nat) :
    ∀ a ∈ afterKey d v, isAllowed a = true := by
  match v, hv with
  | .boolean b, _ => exact List.forall_mem_cons.2 ⟨by decide, forall_allowed_word b⟩
  | .string s, _ => exact List.forall_mem_cons.2 ⟨by decide, forall_allowed_scalarLine (d + 2) s⟩
  | .sequence [], _ =>
    show ∀ a ∈ [' ', '[', ']', '\n'], isAllowed a = true
    exact List.all_eq_true.1 rfl
  | .mapping [], _ =>
    show ∀ a ∈ [' ', '\x7b', '\x7d', '\n'], isAllowed a = true
    exact List.all_eq_true.1 rfl
  | .sequence (c :: more), hv =>
    exact List.forall_mem_cons.2 ⟨by decide, forall_allowed_itemLines (c :: more) hv d true⟩
  | .mapping (e :: more), hv =>
    exact List.forall_mem_cons.2 ⟨by decide, forall_allowed_entryLines (e :: more) hv (d + 2) true⟩
termination_by sizeOf v

theorem forall_allowed_itemLines (items : List Content) (h : ItemsKeyed items) (d : Nat)
    (atStart : Bool) : ∀ a ∈ itemLines d atStart items, isAllowed a = true := by
  match items, h with
  | [], _ => exact fun a ha => by cases ha
  | c :: more, h =>
    rw [itemLines, List.forall_mem_append, List.forall_mem_cons, List.forall_mem_cons,
      List.forall_mem_append]
    refine ⟨?_, by decide, by decide, forall_allowed_afterDash c h.1 d,
      forall_allowed_itemLines more h.2 d true⟩
    cases atStart with
    | false => exact fun a ha => by cases ha
    | true => exact forall_allowed_spaces d
termination_by sizeOf items

theorem forall_allowed_entryLines (entries : List (String × Content)) (h : EntriesKeyed entries)
    (d : Nat) (atStart : Bool) : ∀ a ∈ entryLines d atStart entries, isAllowed a = true := by
  match entries, h with
  | [], _ => exact fun a ha => by cases ha
  | (k, v) :: more, h =>
    rw [entryLines, List.forall_mem_append, List.forall_mem_append, List.forall_mem_cons,
      List.forall_mem_append]
    refine ⟨?_, h.1.isAllowed, by decide, forall_allowed_afterKey v h.2.1 d,
      forall_allowed_entryLines more h.2.2 d true⟩
    cases atStart with
    | false => exact fun a ha => by cases ha
    | true => exact forall_allowed_spaces d
termination_by sizeOf entries

end

/-- Every character of a written document may be read. -/
theorem forall_allowed_text (c : Content) (hc : c.Keyed) :
    ∀ a ∈ c.text.toList, isAllowed a = true := by
  rw [text.eq_def, String.toList_ofList]
  match c, hc with
  | .boolean b, _ => exact forall_allowed_word b
  | .string s, _ => exact forall_allowed_scalarLine 2 s
  | .sequence [], _ =>
    show ∀ a ∈ ['[', ']', '\n'], isAllowed a = true
    exact List.all_eq_true.1 rfl
  | .mapping [], _ =>
    show ∀ a ∈ ['\x7b', '\x7d', '\n'], isAllowed a = true
    exact List.all_eq_true.1 rfl
  | .sequence (c :: more), hc => exact forall_allowed_itemLines (c :: more) hc 0 true
  | .mapping (e :: more), hc => exact forall_allowed_entryLines (e :: more) hc 0 true

end Content

end UniformIter.Document
