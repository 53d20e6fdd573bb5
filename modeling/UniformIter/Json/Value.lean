import UniformIter.Decimal.Shortest
import UniformIter.Keyed

/-!
# JSON values

The values of a data format with null, truth values, whole numbers, fractions, strings, arrays
and objects. An object that was read lists its entries in ascending order of their names, each
name once; one that is to be written may have any order.
-/

namespace UniformIter

/-- A JSON value. -/
inductive Json where
  | null
  | boolean (value : Bool)
  | integer (value : Int)
  | fraction (value : Binary64)
  | string (value : String)
  | array (items : List Json)
  | object (entries : List (String × Json))
  deriving Inhabited

namespace Json

/-- The object with the given entries, in whatever order. The last value of a name counts. -/
def ofEntries (entries : List (String × Json)) : Json :=
  .object (entries.foldl (fun sorted e => Keyed.insert Prod.fst e sorted) [])

/-- The value of a name in an object. -/
def get? (name : String) : Json → Option Json
  | .object entries => (Keyed.find? Prod.fst name entries).map (·.2)
  | _ => none

mutual

/-- Whether two values are the same. -/
def same : Json → Json → Bool
  | null, null => true
  | boolean a, boolean b => a == b
  | integer a, integer b => a == b
  | fraction a, fraction b => a == b
  | string a, string b => a == b
  | array a, array b => sameItems a b
  | object a, object b => sameEntries a b
  | _, _ => false

/-- Whether two lists hold the same values. -/
def sameItems : List Json → List Json → Bool
  | [], [] => true
  | a :: as, b :: bs => same a b && sameItems as bs
  | _, _ => false

/-- Whether two lists hold the same entries. -/
def sameEntries : List (String × Json) → List (String × Json) → Bool
  | [], [] => true
  | (j, a) :: as, (k, b) :: bs => j == k && (same a b && sameEntries as bs)
  | _, _ => false

end

mutual

theorem same_iff : ∀ a b : Json, same a b = true ↔ a = b
  | null, b => by cases b <;> simp [same]
  | boolean a, b => by cases b <;> simp [same]
  | integer a, b => by cases b <;> simp [same]
  | fraction a, b => by cases b <;> simp [same]
  | string a, b => by cases b <;> simp [same]
  | array a, b => by
    cases b with
    | array b => simp only [same, sameItems_iff a b, array.injEq]
    | _ => simp [same]
  | object a, b => by
    cases b with
    | object b => simp only [same, sameEntries_iff a b, object.injEq]
    | _ => simp [same]

theorem sameItems_iff : ∀ a b : List Json, sameItems a b = true ↔ a = b
  | [], b => by cases b <;> simp [sameItems]
  | x :: xs, b => by
    cases b with
    | nil => simp [sameItems]
    | cons y ys =>
      simp only [sameItems, Bool.and_eq_true, same_iff x y, sameItems_iff xs ys, List.cons.injEq]

theorem sameEntries_iff : ∀ a b : List (String × Json), sameEntries a b = true ↔ a = b
  | [], b => by cases b <;> simp [sameEntries]
  | (j, x) :: xs, b => by
    cases b with
    | nil => simp [sameEntries]
    | cons y ys =>
      obtain ⟨k, y⟩ := y
      simp only [sameEntries, Bool.and_eq_true, beq_iff_eq, same_iff x y, sameEntries_iff xs ys,
        List.cons.injEq, Prod.mk.injEq, and_assoc]

end

instance : DecidableEq Json := fun a b => decidable_of_iff _ (same_iff a b)

/-- How fractions are written: without an exponent from a hundred thousandth on and below ten
to the sixteenth, a tie going to the even digit. -/
def fractionForm : Binary64.NumberForm := ⟨.even, some (-5, 15)⟩

/-- The string that a value is. -/
def string? : Json → Option String
  | .string s => some s
  | _ => none

/-- The items of an array. -/
def array? : Json → Option (List Json)
  | .array items => some items
  | _ => none

end Json

end UniformIter
