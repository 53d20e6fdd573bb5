import UniformIter.Proofs.Naming.Snake

/-!
# Brackets that nest

A reader of brackets keeps in mind which closing ones it waits for, the innermost first. It goes
wrong at a bracket that closes where another one was awaited, or none; and brackets nest if it
goes wrong nowhere and waits for nothing in the end (`Nests`).

What it reads besides brackets does not count, so a text is as good as the brackets in it
(`nests_iff`). Brackets that nest may stand anywhere: the reader behind them waits for what it
waited for before. Both together say how to treat a text that is put together from pieces, some
of them known and some of them names: write down the brackets of each piece, and read these.
-/

namespace UniformIter.Brackets

/-- The bracket that closes an opening one. -/
def partner? : Char → Option Char
  | '(' => some ')'
  | '[' => some ']'
  | '\x7b' => some '\x7d'
  | _ => none

/-- The brackets that close. -/
def isClosing (c : Char) : Bool := c == ')' || c == ']' || c == '\x7d'

/-- The brackets. -/
def isBracket (c : Char) : Bool := (partner? c).isSome || isClosing c

/-- What is awaited behind a character, if a bracket that closes is the one that was awaited. -/
def read (awaited : List Char) (c : Char) : Option (List Char) :=
  match partner? c with
  | some d => some (d :: awaited)
  | none =>
    if isClosing c then
      match awaited with
      | [] => none
      | d :: more => if c = d then some more else none
    else some awaited

/-- What is awaited behind a text. -/
def readAll (awaited s : List Char) : Option (List Char) := s.foldlM read awaited

/-- Brackets nest: none closes what was not opened, each is closed by its own kind, and none is
left open. -/
def Nests (text : String) : Prop := readAll [] text.toList = some []

instance (text : String) : Decidable (Nests text) :=
  inferInstanceAs (Decidable (readAll [] text.toList = some []))

/-- The brackets in a text. -/
def bracketsIn (text : String) : List Char := text.toList.filter isBracket

variable {awaited after more s : List Char} {c : Char}

theorem readAll_append (awaited s t : List Char) :
    readAll awaited (s ++ t) = (readAll awaited s).bind (readAll · t) := by
  rw [readAll, List.foldlM_append]
  rfl

/-! ## Only brackets count -/

theorem read_of_not_isBracket (h : isBracket c = false) : read awaited c = some awaited := by
  rw [isBracket, Bool.or_eq_false_iff] at h
  obtain ⟨hopen, hclose⟩ := h
  unfold read
  rw [Option.isSome_eq_false_iff, Option.isNone_iff_eq_none] at hopen
  rw [hopen, hclose]
  rfl

theorem readAll_filter (awaited s : List Char) :
    readAll awaited (s.filter isBracket) = readAll awaited s := by
  induction s generalizing awaited with
  | nil => rfl
  | cons c s ih =>
    by_cases hc : isBracket c = true
    · rw [List.filter_cons_of_pos hc]
      show (read awaited c).bind (readAll · (s.filter isBracket)) =
        (read awaited c).bind (readAll · s)
      exact congrArg _ (funext ih)
    · rw [List.filter_cons_of_neg hc, ih]
      show readAll awaited s = (read awaited c).bind (readAll · s)
      rw [read_of_not_isBracket (Bool.eq_false_iff.2 hc)]
      rfl

/-! ## What is awaited further out -/

/-- What is awaited further out plays no part in reading a bracket. -/
theorem read_append (h : read awaited c = some after) :
    read (awaited ++ more) c = some (after ++ more) := by
  unfold read at h ⊢
  cases hp : partner? c with
  | some d =>
    rw [hp] at h
    cases h
    rfl
  | none =>
    rw [hp] at h
    dsimp only at h ⊢
    by_cases hc : isClosing c = true
    · rw [if_pos hc] at h ⊢
      cases awaited with
      | nil => cases h
      | cons d rest =>
        dsimp only [List.cons_append] at h ⊢
        by_cases hd : c = d
        · rw [if_pos hd] at h ⊢
          cases h
          rfl
        · rw [if_neg hd] at h
          cases h
    · rw [if_neg hc] at h ⊢
      cases h
      rfl

theorem readAll_append_awaited (h : readAll awaited s = some after) :
    readAll (awaited ++ more) s = some (after ++ more) := by
  induction s generalizing awaited with
  | nil =>
    cases h
    rfl
  | cons c s ih =>
    have hstep : (read awaited c).bind (readAll · s) = some after := h
    obtain ⟨next, hread, hrest⟩ := Option.bind_eq_some_iff.1 hstep
    show (read (awaited ++ more) c).bind (readAll · s) = some (after ++ more)
    rw [read_append hread]
    exact ih hrest

/-- Brackets that can be passed over wherever they stand. -/
def Passes (s : List Char) : Prop := ∀ awaited, readAll awaited s = some awaited

/-- Brackets nest exactly if they can be passed over. -/
theorem nests_iff {text : String} : Nests text ↔ Passes (bracketsIn text) := by
  unfold Nests bracketsIn
  constructor
  · intro h awaited
    rw [readAll_filter]
    have hout : readAll ([] ++ awaited) text.toList = some ([] ++ awaited) :=
      readAll_append_awaited h
    exact hout
  · intro h
    rw [← readAll_filter]
    exact h []

theorem passes_nil : Passes [] := fun _ => rfl

theorem Passes.readAll_append (h : Passes s) (awaited t : List Char) :
    readAll awaited (s ++ t) = readAll awaited t := by
  rw [Brackets.readAll_append, h awaited]
  rfl

/-- They may stand between others, too. -/
theorem Passes.readAll_between (h : Passes s) (awaited before t : List Char) :
    readAll awaited (before ++ (s ++ t)) = readAll awaited (before ++ t) := by
  rw [Brackets.readAll_append, Brackets.readAll_append]
  exact congrArg _ (funext fun a => h.readAll_append a t)

theorem Passes.append {t : List Char} (hs : Passes s) (ht : Passes t) : Passes (s ++ t) := by
  intro awaited
  rw [hs.readAll_append]
  exact ht awaited

/-! ## The brackets of pieces -/

theorem bracketsIn_append (a b : String) : bracketsIn (a ++ b) = bracketsIn a ++ bracketsIn b := by
  unfold bracketsIn
  rw [String.toList_append, List.filter_append]

theorem bracketsIn_text {cs : List Char} : bracketsIn (String.ofList cs) = cs.filter isBracket := by
  rw [bracketsIn, String.toList_ofList]

/-- No bracket stands in a name. -/
theorem isBracket_of_continues {c : Char} (h : continuesIdentifier c = true) :
    isBracket c = false :=
  of_continues (p := fun c => isBracket c = false) (by decide) h

theorem bracketsIn_of_isIdentifier {name : String} (h : isIdentifier name = true) :
    bracketsIn name = [] := by
  refine List.filter_eq_nil_iff.2 fun c hc => ?_
  rw [isBracket_of_continues (List.all_eq_true.1 (all_continues_of_formIdentifier h) c hc)]
  exact Bool.false_ne_true

end UniformIter.Brackets
