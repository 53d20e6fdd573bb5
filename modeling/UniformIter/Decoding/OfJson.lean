import UniformIter.Decoding.Fault
import UniformIter.Decoding.Record
import UniformIter.Json.Value

/-!
# Values in JSON

How JSON values are taken apart. A record is an object, or an array that lists its fields in
order and may leave out the last ones.
-/

namespace UniformIter.Decoding

/-- What a JSON value is called. -/
def foundJson : Json → Found
  | .null => .null
  | .boolean b => .boolean b
  | .integer n => .integer n
  | .fraction x => .fraction (x.text Json.fractionForm)
  | .string s => .string s
  | .array _ => .sequence
  | .object _ => .mapping

/-- The fault of a JSON value that is not what was expected. -/
def jsonMismatch {α : Type} (v : Json) (expected : String) : Except Fault α :=
  .error (.invalidType (foundJson v) expected)

/-- The items of an array by the names of the fields they stand for. More items than fields
are a fault behind the last field. -/
def positional (names : List String) (items : List Json) :
    List (Except Fault (String × Json)) :=
  (names.zip items).map .ok ++
    if names.length < items.length then [.error (.invalidLength items.length)] else []

/-- How JSON values are taken apart. -/
def jsonFormat : Format Json Fault where
  string v := match v with
    | .string s => .ok s
    | _ => jsonMismatch v "a string"
  boolean v := match v with
    | .boolean b => .ok b
    | _ => jsonMismatch v "a boolean"
  items v := match v with
    | .array items => .ok items
    | _ => jsonMismatch v "a sequence"
  entries title names v := match v with
    | .object es => .ok (es.map .ok)
    | .array items => .ok (positional names items)
    | _ => jsonMismatch v title
  duplicate _ name := .duplicateField name

end UniformIter.Decoding
