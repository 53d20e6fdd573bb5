import Mathlib.Algebra.Group.Nat.Defs
import Mathlib.Tactic.SplitIfs
import UniformIter.Output.Run

/-!
# The order of bytes

Texts are in the order of their characters, from the front. Their bytes are in the same order
(`utf8_lt_utf8`). The first byte of a character tells how many there are, and of two characters
the one with more bytes has the greater first byte. With as many bytes it is their digits to the
base of 64 that are compared, the most significant first.
-/

namespace UniformIter

/-- A number in digits to the base of 64, the most significant first. The first digit has a mark
of its own, every other one the mark of what follows a first byte. -/
def digits64 (mark : Nat) : Nat → Nat → List UInt8
  | 0, v => [UInt8.ofNat (v + mark)]
  | k + 1, v => digits64 mark k (v / 64) ++ [UInt8.ofNat (v % 64 + 0x80)]

/-- How many bytes follow the first one of a character. -/
def following (v : Nat) : Nat :=
  if v ≤ 0x7f then 0 else if v ≤ 0x7ff then 1 else if v ≤ 0xffff then 2 else 3

/-- The mark of a first byte. -/
def leadMark : Nat → Nat
  | 0 => 0
  | 1 => 0xc0
  | 2 => 0xe0
  | _ => 0xf0

/-- The first byte of a character. -/
def lead (v : Nat) : Nat := v / 64 ^ following v + leadMark (following v)

/-! ## One character -/

theorem val_lt (c : Char) : c.val.toNat < 0x110000 := by
  rcases c.valid with h | ⟨-, h⟩
  · exact Nat.lt_trans h (by decide)
  · exact h

theorem utf8EncodeChar_eq (c : Char) :
    String.utf8EncodeChar c =
      digits64 (leadMark (following c.val.toNat)) (following c.val.toNat) c.val.toNat := by
  have hc := val_lt c
  unfold String.utf8EncodeChar following
  dsimp only
  split_ifs with h₀ h₁ h₂
  · rfl
  · rw [Nat.mod_eq_of_lt (show c.val.toNat / 64 < 0x20 by omega)]
    rfl
  · rw [Nat.mod_eq_of_lt (show c.val.toNat / 4096 < 0x10 by omega),
      ← Nat.div_div_eq_div_mul c.val.toNat 64 64]
    rfl
  · rw [Nat.mod_eq_of_lt (show c.val.toNat / 262144 < 0x08 by omega),
      ← Nat.div_div_eq_div_mul c.val.toNat 4096 64, ← Nat.div_div_eq_div_mul c.val.toNat 64 64]
    rfl

theorem digits64_eq_cons (mark k v : Nat) :
    ∃ rest, digits64 mark k v = UInt8.ofNat (v / 64 ^ k + mark) :: rest := by
  induction k generalizing v with
  | zero => exact ⟨[], by simp [digits64]⟩
  | succ k ih =>
    obtain ⟨rest, h⟩ := ih (v / 64)
    refine ⟨rest ++ [UInt8.ofNat (v % 64 + 0x80)], ?_⟩
    rw [digits64, h, Nat.div_div_eq_div_mul, ← Nat.pow_succ', List.cons_append]

theorem ofNat_lt_ofNat {m n : Nat} (h : m < n) (hn : n < 256) : UInt8.ofNat m < UInt8.ofNat n := by
  rw [UInt8.lt_iff_toNat_lt, UInt8.toNat_ofNat_of_lt' (Nat.lt_trans h hn),
    UInt8.toNat_ofNat_of_lt' hn]
  exact h

/-- Of two numbers with as many digits, the first digit that differs decides. -/
theorem digits64_append_lt {mark k v w : Nat} (h : v < w) (hw : w / 64 ^ k + mark < 256)
    (s t : List UInt8) : digits64 mark k v ++ s < digits64 mark k w ++ t := by
  induction k generalizing v w s t with
  | zero =>
    rw [Nat.pow_zero, Nat.div_one] at hw
    exact List.cons_lt_cons_iff.2 (.inl (ofNat_lt_ofNat (Nat.add_lt_add_right h mark) hw))
  | succ k ih =>
    rw [digits64, digits64, List.append_assoc, List.append_assoc]
    rcases Nat.lt_or_eq_of_le (Nat.div_le_div_right (c := 64) (Nat.le_of_lt h)) with hlt | heq
    · apply ih hlt
      rw [Nat.div_div_eq_div_mul, ← Nat.pow_succ']
      exact hw
    · -- All digits but the last are the same.
      rw [heq]
      apply List.append_left_lt
      exact List.cons_lt_cons_iff.2 (.inl (ofNat_lt_ofNat (by omega) (by omega)))

/-- Of two characters the greater one has as many bytes, or a greater first byte. -/
theorem following_eq_or_lead_lt {v w : Nat} (h : v < w) (hw : w < 0x110000) :
    following v = following w ∨ lead v < lead w := by
  unfold lead following
  split_ifs <;> simp [leadMark] <;> omega

theorem lead_lt {v : Nat} (h : v < 0x110000) : lead v < 256 := by
  unfold lead following
  split_ifs <;> simp [leadMark] <;> omega

/-- The bytes of a greater character are greater, whatever comes behind them. -/
theorem utf8EncodeChar_append_lt {a b : Char} (h : a < b) (s t : List UInt8) :
    String.utf8EncodeChar a ++ s < String.utf8EncodeChar b ++ t := by
  have hval : a.val.toNat < b.val.toNat := h
  have hb := lead_lt (val_lt b)
  rw [utf8EncodeChar_eq, utf8EncodeChar_eq]
  rcases following_eq_or_lead_lt hval (val_lt b) with heq | hlt
  · rw [heq]
    exact digits64_append_lt hval hb s t
  · obtain ⟨rest, hrest⟩ := digits64_eq_cons (leadMark (following a.val.toNat)) _ a.val.toNat
    obtain ⟨rest', hrest'⟩ := digits64_eq_cons (leadMark (following b.val.toNat)) _ b.val.toNat
    rw [hrest, hrest']
    exact List.cons_lt_cons_iff.2 (.inl (ofNat_lt_ofNat hlt hb))

/-! ## Texts -/

/-- The bytes of a text are those of its characters. -/
theorem utf8_eq (s : String) : utf8 s = s.toList.flatMap String.utf8EncodeChar := by
  unfold utf8
  rw [String.toUTF8_eq_toByteArray, ← String.utf8Encode_toList, List.utf8Encode,
    List.toList_data_toByteArray]

theorem flatMap_utf8EncodeChar_lt {s t : List Char} (h : s < t) :
    s.flatMap String.utf8EncodeChar < t.flatMap String.utf8EncodeChar := by
  induction h with
  | @nil c t =>
    obtain ⟨byte, rest, hc⟩ := List.exists_cons_of_ne_nil (String.utf8EncodeChar_ne_nil (c := c))
    rw [List.flatMap_cons, hc]
    exact List.nil_lt_cons _ _
  | rel h =>
    rw [List.flatMap_cons, List.flatMap_cons]
    exact utf8EncodeChar_append_lt h _ _
  | cons _ ih =>
    rw [List.flatMap_cons, List.flatMap_cons]
    exact List.append_left_lt ih

/-- Texts are in the order of their bytes. -/
theorem utf8_lt_utf8 {s t : String} (h : s < t) : utf8 s < utf8 t := by
  rw [utf8_eq, utf8_eq]
  exact flatMap_utf8EncodeChar_lt h

end UniformIter
