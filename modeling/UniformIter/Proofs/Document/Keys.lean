import UniformIter.Document.Content
import UniformIter.Document.Tokenizer
import UniformIter.Proofs.Document.Characters
import UniformIter.Proofs.Naming.Snake

/-!
# Keys of a written document

Keys are written without quotes, whatever they are, so a document is only read back if they are
words (`IsKeyWord`): letters, digits and underscores, and no more of them than a key may have.
`Content.Keyed` says so of all keys in a document.
-/

namespace UniformIter.Document

/-- A word that may be a key: characters of identifiers, no more than a key may have. -/
structure IsKeyWord (s : List Char) : Prop where
  nonempty : s ≠ []
  short : s.length ≤ longestKey
  letters : ∀ c ∈ s, continuesIdentifier c = true

instance (s : List Char) : Decidable (IsKeyWord s) :=
  decidable_of_iff (s ≠ [] ∧ s.length ≤ longestKey ∧ s.all continuesIdentifier = true)
    ⟨fun ⟨hnonempty, hshort, hletters⟩ => ⟨hnonempty, hshort, List.all_eq_true.1 hletters⟩,
      fun h => ⟨h.nonempty, h.short, List.all_eq_true.2 h.letters⟩⟩

theorem IsKeyWord.ne {s : List Char} (h : IsKeyWord s) {c : Char} (hc : c ∈ s) {d : Char}
    (hd : continuesIdentifier d = false) : c ≠ d := by
  rintro rfl
  rw [h.letters c hc] at hd
  cases hd

theorem IsKeyWord.isGap {s : List Char} (h : IsKeyWord s) {c : Char} (hc : c ∈ s) :
    isGap c = false :=
  of_continues (p := fun c => Document.isGap c = false) (by decide) (h.letters c hc)

theorem IsKeyWord.isAllowed {s : List Char} (h : IsKeyWord s) :
    ∀ c ∈ s, isAllowed c = true := fun c hc =>
  of_continues (p := fun c => Document.isAllowed c = true) (by decide) (h.letters c hc)

/-- A key takes as many octets as it has letters. -/
theorem IsKeyWord.octets {s : List Char} (h : IsKeyWord s) (n : Nat) :
    s.foldl (fun octets c => octets + c.utf8Size) n = n + s.length := by
  have hsize : ∀ c ∈ s, c.utf8Size = 1 := by
    intro c hc
    rw [Char.utf8Size_eq_one_iff, UInt32.le_iff_toNat_le]
    exact Nat.le_of_lt_succ (toNat_lt_of_continues (h.letters c hc))
  clear h
  induction s generalizing n with
  | nil => rfl
  | cons c s ih =>
    rw [List.foldl_cons, hsize c List.mem_cons_self,
      ih _ fun d hd => hsize d (List.mem_cons_of_mem _ hd), List.length_cons]
    omega

namespace Content

mutual

/-- Every key is a word. -/
def Keyed : Content → Prop
  | boolean _ => True
  | string _ => True
  | sequence items => ItemsKeyed items
  | mapping entries => EntriesKeyed entries

/-- Every key in a list of items is a word. -/
def ItemsKeyed : List Content → Prop
  | [] => True
  | c :: more => Keyed c ∧ ItemsKeyed more

/-- Every key of the entries and in their values is a word. -/
def EntriesKeyed : List (String × Content) → Prop
  | [] => True
  | (k, v) :: more => IsKeyWord k.toList ∧ Keyed v ∧ EntriesKeyed more

end

theorem itemsKeyed_map {α : Type} {f : α → Content} (h : ∀ a, (f a).Keyed) (l : List α) :
    ItemsKeyed (l.map f) := by
  induction l with
  | nil => exact trivial
  | cons a l ih => exact ⟨h a, ih⟩

theorem itemsKeyed_strings (l : List String) : ItemsKeyed (l.map .string) :=
  itemsKeyed_map (f := string) (fun _ => trivial) l

end Content

end UniformIter.Document
