import UniformIter.Naming.Identifier
import UniformIter.Text.Padding

/-!
# Words of a line

What a reader sees who splits a line at its blanks: the words in order, each with the column
that it begins at (`words`). Several blanks in a row are one gap, so a field that was filled up
reads as the word in it (`words_field`).
-/

namespace UniformIter.Text

/-- Parts of a line that follow one another with one blank in between, each with its column. -/
def placed (column : Nat) : List (List Char) → List (Nat × List Char)
  | [] => []
  | part :: more => (column, part) :: placed (column + part.length + 1) more

/-- The words of a line that begins at a column. -/
def words (column : Nat) (line : List Char) : List (Nat × List Char) :=
  (placed column (line.splitOn ' ')).filter (!·.2.isEmpty)

/-- A text that is read as one word. -/
structure IsWord (s : List Char) : Prop where
  nonempty : s ≠ []
  solid : ' ' ∉ s

variable {w : List Char}

theorem words_blank (column : Nat) (line : List Char) :
    words column (' ' :: line) = words (column + 1) line := by
  have hsplit : (' ' :: line).splitOn ' ' = [] :: line.splitOn ' ' :=
    List.splitOn_append_cons_self [] line
  rw [words, hsplit]
  rfl

/-- A gap only moves what stands behind it. -/
theorem words_gap (column n : Nat) (line : List Char) :
    words column (List.replicate n ' ' ++ line) = words (column + n) line := by
  induction n generalizing column with
  | zero => rfl
  | succ n ih =>
    rw [List.replicate_succ, List.cons_append, words_blank, ih, Nat.add_assoc, Nat.add_comm 1]

theorem IsWord.isEmpty (hw : IsWord w) : w.isEmpty = false :=
  List.isEmpty_eq_false_iff.mpr hw.nonempty

/-- A line may be one word. -/
theorem words_word (hw : IsWord w) (column : Nat) : words column w = [(column, w)] := by
  rw [words, List.splitOn_eq_singleton hw.solid, placed, placed,
    List.filter_cons_of_pos (by rw [hw.isEmpty]; rfl)]
  rfl

/-- A word ends at the next blank. -/
theorem words_cons (hw : IsWord w) (column : Nat) (line : List Char) :
    words column (w ++ ' ' :: line) = (column, w) :: words (column + w.length + 1) line := by
  rw [words, List.splitOn_append_cons_self, List.splitOn_eq_singleton hw.solid,
    List.singleton_append, placed, List.filter_cons_of_pos (by rw [hw.isEmpty]; rfl)]
  rfl

/-- A column's field is filled up behind its text. -/
theorem pad_column (width : Nat) (s : List Char) :
    (Field.column width).pad s = s ++ List.replicate (width - s.length) ' ' := by
  simp [Field.pad, Field.column]

/-- A field and the blanks behind it are read as the word in it; the next field begins behind the
field's whole width. -/
theorem words_field (hw : IsWord w) {width : Nat} (hwidth : w.length ≤ width)
    (column behind : Nat) (line : List Char) :
    words column ((Field.column width).pad w ++ (List.replicate (behind + 1) ' ' ++ line)) =
      (column, w) :: words (column + width + (behind + 1)) line := by
  have hgap : (Field.column width).pad w ++ (List.replicate (behind + 1) ' ' ++ line) =
      w ++ ' ' :: (List.replicate (width - w.length + behind) ' ' ++ line) := by
    rw [pad_column, List.append_assoc, ← List.append_assoc (List.replicate _ _),
      List.replicate_append_replicate, ← Nat.add_assoc, List.replicate_succ, List.cons_append]
  have hcolumn : column + w.length + 1 + (width - w.length + behind) =
      column + width + (behind + 1) := by
    omega
  rw [hgap, words_cons hw, words_gap, hcolumn]

/-! ## Texts that are one word -/

theorem isWord_of_isIdentifier {s : String} (h : isIdentifier s = true) :
    IsWord s.toList where
  nonempty := by
    intro hnil
    rw [isIdentifier, hnil] at h
    exact absurd h (by decide)
  solid := not_mem_of_isIdentifier h (by decide)

/-- A number in a text is made of digits. -/
theorem not_mem_toString (n : Nat) {c : Char} (hc : c.isDigit = false) :
    c ∉ (toString n).toList := by
  show c ∉ n.repr.toList
  rw [Nat.toList_repr]
  intro hmem
  rw [Nat.isDigit_of_mem_toDigits (by decide) (by decide) hmem] at hc
  cases hc

theorem isWord_toString (n : Nat) : IsWord (toString n).toList where
  nonempty := by
    show n.repr.toList ≠ []
    rw [Nat.toList_repr]
    exact Nat.toDigits_ne_nil
  solid := not_mem_toString n (by decide)

end UniformIter.Text
