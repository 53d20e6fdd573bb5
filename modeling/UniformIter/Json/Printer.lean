import UniformIter.Json.Value

/-!
# Writing JSON

The indented form: each item and each entry on a line of its own, two spaces deeper than what
holds it, and empty collections on one line.
-/

namespace UniformIter.Json.Printer

/-- A number in four lower-case hexadecimal digits. -/
def hexUnit (n : Nat) : List Char :=
  let digits := Nat.toDigits 16 n
  List.replicate (4 - digits.length) '0' ++ digits

/-- How a string shows one character. -/
def escaped (c : Char) : List Char :=
  if c == '\x22' || c == '\\' then ['\\', c]
  else if c == '\x08' then ['\\', 'b']
  else if c == '\x0c' then ['\\', 'f']
  else if c == '\n' then ['\\', 'n']
  else if c == '\x0d' then ['\\', 'r']
  else if c == '\t' then ['\\', 't']
  else if c.toNat < 0x20 then '\\' :: 'u' :: hexUnit c.toNat
  else [c]

/-- A string in quotes. -/
def text (s : String) : List Char := '\x22' :: s.toList.flatMap escaped ++ ['\x22']

/-- A new line at a depth. -/
def newLine (depth : Nat) : List Char := '\n' :: List.replicate (2 * depth) ' '

mutual

/-- A value inside `depth` collections. -/
def value (depth : Nat) : Json → List Char
  | .null => "null".toList
  | .boolean b => (if b then "true" else "false").toList
  | .integer n => (toString n).toList
  | .fraction x => (x.text fractionForm).toList
  | .string s => text s
  | .array [] => ['[', ']']
  | .array items => '[' :: newLine (depth + 1) ++ itemLines (depth + 1) items
  | .object [] => ['\x7b', '\x7d']
  | .object entries => '\x7b' :: newLine (depth + 1) ++ entryLines (depth + 1) entries

/-- Items at a depth, and the bracket that closes them. -/
def itemLines (depth : Nat) : List Json → List Char
  | [] => []
  | [x] => value depth x ++ newLine (depth - 1) ++ [']']
  | x :: more => value depth x ++ ',' :: newLine depth ++ itemLines depth more

/-- Entries at a depth, and the brace that closes them. -/
def entryLines (depth : Nat) : List (String × Json) → List Char
  | [] => []
  | [(k, x)] => text k ++ ':' :: ' ' :: value depth x ++ newLine (depth - 1) ++ ['\x7d']
  | (k, x) :: more =>
    text k ++ ':' :: ' ' :: value depth x ++ ',' :: newLine depth ++ entryLines depth more

end

end UniformIter.Json.Printer

namespace UniformIter.Json

/-- The indented text of a value. -/
def indentedText (v : Json) : String := String.ofList (Printer.value 0 v)

end UniformIter.Json
