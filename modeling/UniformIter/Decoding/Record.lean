/-!
# Reading records

A record is read from entries in the order in which they stand. It begins with its defaults,
each entry with a known name sets one field, an unknown name is passed over, and a name that
comes again is a fault. The formats that records are written in differ only in how they take
a value apart.
-/

namespace UniformIter.Decoding

/-- How a format takes its values apart. -/
structure Format (ν ε : Type) where
  string : ν → Except ε String
  boolean : ν → Except ε Bool
  items : ν → Except ε (List ν)
  /-- The entries of a record with the given title and field names. An entry that cannot be
  told is a fault in its place. -/
  entries : String → List String → ν → Except ε (List (Except ε (String × ν)))
  /-- The fault of a record whose field comes twice. -/
  duplicate : ν → String → ε

/-- A field of a record: its name, and how its value changes the record. -/
structure Field (ν ε ρ : Type) where
  name : String
  read : ν → Except ε (ρ → ρ)

/-- Sets fields from entries, the names in `seen` having come before. -/
def assign {ν ε ρ : Type} (fields : List (Field ν ε ρ)) (duplicate : String → ε)
    (seen : List String) (record : ρ) : List (Except ε (String × ν)) → Except ε ρ
  | [] => .ok record
  | .error e :: _ => .error e
  | .ok (name, value) :: more =>
    match fields.find? (·.name == name) with
    | none => assign fields duplicate seen record more
    | some field =>
      if seen.contains name then .error (duplicate name)
      else
        match field.read value with
        | .error e => .error e
        | .ok update => assign fields duplicate (name :: seen) (update record) more

namespace Format

variable {ν ε ρ : Type}

/-- Reads a record that begins with its defaults. -/
def record (F : Format ν ε) (title : String) (fields : List (Field ν ε ρ)) (defaults : ρ)
    (v : ν) : Except ε ρ :=
  match F.entries title (fields.map (·.name)) v with
  | .error e => .error e
  | .ok entries => assign fields (F.duplicate v) [] defaults entries

/-- Reads a list of strings, item after item. -/
def strings (F : Format ν ε) (v : ν) : Except ε (List String) :=
  match F.items v with
  | .error e => .error e
  | .ok items => items.mapM F.string

/-- A field that holds a string. -/
def stringField (F : Format ν ε) (name : String) (set : String → ρ → ρ) : Field ν ε ρ :=
  ⟨name, fun v => (F.string v).map set⟩

/-- A field that holds a truth value. -/
def booleanField (F : Format ν ε) (name : String) (set : Bool → ρ → ρ) : Field ν ε ρ :=
  ⟨name, fun v => (F.boolean v).map set⟩

/-- A field that holds a list of strings. -/
def stringsField (F : Format ν ε) (name : String) (set : List String → ρ → ρ) : Field ν ε ρ :=
  ⟨name, fun v => (F.strings v).map set⟩

end Format

end UniformIter.Decoding
