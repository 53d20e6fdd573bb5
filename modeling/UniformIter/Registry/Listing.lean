import UniformIter.Document.Content
import UniformIter.Json.Printer
import UniformIter.Registry.Basic
import UniformIter.Text.Padding

/-!
# Listings

Three views of a registry with the same information in the same order: a table for readers,
and a JSON array and a YAML sequence for programs.
-/

namespace UniformIter

/-- The views of a registry. -/
inductive ListingFormat where
  | table
  | json
  | yaml
  deriving Repr, DecidableEq

namespace Registry

/-- A row of a table: three columns, the last one as long as it is. -/
def tableRow (width : Nat) (supported container iterator : String) : String :=
  (Text.Field.column 9).show supported ++ "  " ++ (Text.Field.column width).show container ++
    s!"  {iterator}\n"

/-- The width of the containers' column: that of its longest field, heading included. -/
def containerWidth (r : Registry) : Nat :=
  r.entries.foldl (fun w e => max w e.container.text.utf8ByteSize) 9

/-- A registry as a table, with a line at its end that counts the entries. -/
def table (r : Registry) : String :=
  let row (e : Entry) :=
    tableRow r.containerWidth (if e.supported then "yes" else "no") e.container.text e.iterator.text
  tableRow r.containerWidth "SUPPORTED" "CONTAINER" "ITERATOR" ++
    String.join (r.entries.map row) ++
    s!"\n{r.entries.length} registered, {r.supported.length} supported\n"

/-- An entry as a JSON object. -/
def entryJson (e : Entry) : Json :=
  .object [("iterator", .string e.iterator.text), ("container", .string e.container.text),
    ("supported", .boolean e.supported)]

/-- An entry as a mapping. -/
def entryContent (e : Entry) : Document.Content :=
  .mapping [("iterator", .string e.iterator.text), ("container", .string e.container.text),
    ("supported", .boolean e.supported)]

/-- A view of a registry. -/
def listing (r : Registry) : ListingFormat → String
  | .table => r.table
  | .json => (Json.array (r.entries.map entryJson)).indentedText ++ "\n"
  | .yaml => (Document.Content.sequence (r.entries.map entryContent)).text

end Registry

end UniformIter
