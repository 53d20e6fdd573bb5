import UniformIter.Decoding.OfDocument
import UniformIter.Proofs.Document.Tree
import UniformIter.Proofs.Json.RoundTrip
import UniformIter.Proofs.Naming.Containers
import UniformIter.Proofs.Text.Words
import UniformIter.Proofs.Unit.Scan
import UniformIter.Registry.Listing

/-!
# What the listings tell

The three views of a registry say the same: each of them, read by a reader that knows only its
format, gives back the entries in order (`Registry.listings_told`). In a document a node counts as
what it stands for by itself, whatever its key, so a container called `Null` or `True` is read as
a string only if it was written with quotes.

In a table the fields are found by splitting lines at blanks. They stand in columns because the
containers' field is as wide as the heading and any container
(`Registry.length_le_containerWidth`): its width counts octets while it is filled up to a number of
characters, but there are never more characters than octets.
-/

namespace UniformIter

open Document (Content Node)

/-- The entry with an iterator of this name, if the container is this iterator's. -/
def Entry.ofFields? (iterator container : String) (supported : Bool) : Option Entry :=
  match IteratorName.ofText iterator with
  | .ok n => if n.container.text = container then some ⟨n, supported⟩ else none
  | .error _ => none

/-- The entry that a record tells of, given how to look up its fields. -/
def Entry.ofRecord? (string? : String → Option String) (boolean? : String → Option Bool) :
    Option Entry := do
  let iterator ← string? "iterator"
  let container ← string? "container"
  let supported ← boolean? "supported"
  ofFields? iterator container supported

theorem Entry.ofFields?_self (e : Entry) :
    ofFields? e.iterator.text e.container.text e.supported = some e := by
  rw [ofFields?, IteratorName.ofText_eq_ok_iff.mpr rfl]
  exact if_pos rfl

theorem Entry.ofRecord?_self {e : Entry} {string? : String → Option String}
    {boolean? : String → Option Bool} (hiterator : string? "iterator" = some e.iterator.text)
    (hcontainer : string? "container" = some e.container.text)
    (hsupported : boolean? "supported" = some e.supported) :
    ofRecord? string? boolean? = some e := by
  rw [ofRecord?, hiterator, hcontainer, hsupported]
  exact e.ofFields?_self

/-- A reader that gives back each thing that was written gives back the list of them. -/
theorem mapM_written {α β : Type} {write : α → β} {read : β → Option α}
    (h : ∀ a, read (write a) = some a) (l : List α) : (l.map write).mapM read = some l := by
  induction l with
  | nil => rfl
  | cons a l ih => rw [List.map_cons, List.mapM_cons, h, ih]; rfl

/-! ## JSON -/

/-- The truth value that a value is. -/
def Json.boolean? : Json → Option Bool
  | .boolean b => some b
  | _ => none

/-- The entry that a JSON object tells of. -/
def Entry.ofJson? (v : Json) : Option Entry :=
  ofRecord? (fun k => (v.get? k).bind Json.string?) (fun k => (v.get? k).bind Json.boolean?)

/-- The entries that an array of JSON objects tells of. -/
def Registry.entriesOfJson? (text : String) : Option (List Entry) := do
  let v ← Json.read text
  let items ← v.array?
  items.mapM Entry.ofJson?

/-- An entry's object as it is read. -/
theorem Registry.entryJson_inOrder (e : Entry) :
    (entryJson e).inOrder = .object [("container", .string e.container.text),
      ("iterator", .string e.iterator.text), ("supported", .boolean e.supported)] := by
  have hcontainer : "container" < "iterator" := by decide
  have hiterator : ¬"supported" < "iterator" := by decide
  have hsupported : ¬"supported" < "container" := by decide
  show Json.ofEntries [("iterator", .string e.iterator.text),
    ("container", .string e.container.text), ("supported", .boolean e.supported)] = _
  simp [Json.ofEntries, Keyed.insert, hcontainer, hiterator, hsupported]

theorem Entry.ofJson?_inOrder (e : Entry) :
    ofJson? (Registry.entryJson e).inOrder = some e := by
  rw [Registry.entryJson_inOrder]
  exact ofRecord?_self rfl rfl rfl

theorem Registry.entriesOfJson?_listing (r : Registry) :
    entriesOfJson? (r.listing .json) = some r.entries := by
  -- The array takes up one of the levels that the reader has room for.
  have hentry : ∀ e, (entryJson e).Fits 126 := fun _ => ⟨trivial, trivial, trivial, trivial⟩
  have hfits : (Json.array (r.entries.map entryJson)).Fits Json.Reader.greatestDepth :=
    Json.itemsFit_map hentry r.entries
  have hread := Json.read_indentedText hfits
  rw [Json.inOrder, Json.itemsInOrder_map] at hread
  rw [entriesOfJson?, listing, hread]
  exact mapM_written Entry.ofJson?_inOrder r.entries

/-! ## Documents -/

namespace Document.Node

/-- The string that a node stands for. A word for something else is none without quotes. -/
def string? (n : Node) : Option String :=
  match Decoding.foundNode n with
  | .ok (.string s) => some s
  | _ => none

/-- The truth value that a node stands for. -/
def boolean? (n : Node) : Option Bool :=
  match Decoding.foundNode n with
  | .ok (.boolean b) => some b
  | _ => none

/-- The items of a sequence. -/
def items? : Node → Option (List Node)
  | .sequence items _ => some items
  | _ => none

/-- The value of a key in a mapping. -/
def get? (key : String) : Node → Option Node
  | .mapping entries _ => (entries.find? fun (k, _) => k.string? == some key).map (·.2)
  | _ => none

/-- A string that was written stands for itself: one that its plain form would not stand for
has quotes or a block. -/
theorem string?_of_heldBy {s : String} {n : Node} (h : (Content.string s).HeldBy n) :
    n.string? = some s := by
  obtain ⟨p, rfl⟩ := h
  show (match Decoding.foundScalar (ScalarText.styleOf s) none s with
    | .ok (.string t) => some t
    | _ => none) = some s
  -- Only a plain scalar may stand for something else, and such a text is never written plain.
  rcases styleOf_cases s with ⟨hstyle, -⟩ | ⟨hstyle, hclear, -⟩ | ⟨hstyle, -⟩ | hstyle
  · rw [hstyle]
    rfl
  · rw [isAmbiguous, Bool.or_eq_false_iff, bne_eq_false_iff_eq] at hclear
    rw [hstyle, Decoding.foundScalar, hclear.1]
    rfl
  · rw [hstyle]
    rfl
  · rw [hstyle]
    rfl

theorem boolean?_of_heldBy {b : Bool} {n : Node} (h : (Content.boolean b).HeldBy n) :
    n.boolean? = some b := by
  obtain ⟨p, rfl⟩ := h
  cases b <;> rfl

end Document.Node

/-- The entry that a mapping in a document tells of. -/
def Entry.ofNode? (n : Node) : Option Entry :=
  ofRecord? (fun k => (n.get? k).bind Node.string?) (fun k => (n.get? k).bind Node.boolean?)

/-- The entries that a document with a sequence of mappings tells of. -/
def Registry.entriesOfDocument? (text : String) : Option (List Entry) := do
  let root ← Document.read text
  let n ← root
  let items ← n.items?
  items.mapM Entry.ofNode?

theorem Entry.ofNode?_of_heldBy {e : Entry} {n : Node} (h : (Registry.entryContent e).HeldBy n) :
    ofNode? n = some e := by
  obtain ⟨_, _, rfl, _, _, _, rfl, hiterator, _, _, _, rfl, hcontainer, _, _, _, rfl, hsupported,
    rfl⟩ := h
  refine ofRecord?_self ?_ ?_ ?_
  · exact Node.string?_of_heldBy hiterator
  · exact Node.string?_of_heldBy hcontainer
  · exact Node.boolean?_of_heldBy hsupported

theorem Registry.entries_held {l : List Entry} {nodes : List Node}
    (h : Content.ItemsHeldBy (l.map entryContent) nodes) : nodes.mapM Entry.ofNode? = some l := by
  induction l generalizing nodes with
  | nil =>
    obtain rfl : nodes = [] := h
    rfl
  | cons e l ih =>
    obtain ⟨n, rest, rfl, hn, hrest⟩ := h
    rw [List.mapM_cons, Entry.ofNode?_of_heldBy hn, ih hrest]
    rfl

theorem Registry.entriesOfDocument?_listing (r : Registry) :
    entriesOfDocument? (r.listing .yaml) = some r.entries := by
  have hentry : ∀ e, (entryContent e).Keyed := fun _ =>
    ⟨by decide, trivial, by decide, trivial, by decide, trivial, trivial⟩
  have hkeyed : (Content.sequence (r.entries.map entryContent)).Keyed :=
    Content.itemsKeyed_map hentry r.entries
  obtain ⟨n, hread, nodes, p, rfl, hnodes⟩ := Content.read_text _ hkeyed
  rw [entriesOfDocument?, listing, hread]
  exact entries_held hnodes

/-! ## Tables -/

/-- The words of a table's lines, each with its column. -/
structure TableWords where
  heading : List (Nat × List Char)
  rows : List (List (Nat × List Char))
  counts : List (Nat × List Char)

/-- The words of lines: a heading, rows up to an empty line, and the counts behind it. What comes
behind the last line's end is empty. -/
def TableWords.ofLines? : List (List Char) → Option TableWords
  | [] => none
  | heading :: more =>
    match more.dropWhile (!·.isEmpty) with
    | [[], counts, []] =>
      some ⟨Text.words 0 heading, (more.takeWhile (!·.isEmpty)).map (Text.words 0),
        Text.words 0 counts⟩
    | _ => none

/-- The words of a table. -/
def TableWords.ofText? (text : String) : Option TableWords :=
  ofLines? (Scan.textLines text.toList)

/-- Words without their columns. -/
def TableWords.texts (line : List (Nat × List Char)) : List String :=
  line.map fun (_, w) => String.ofList w

/-- The entry that the words of a row tell of. -/
def Entry.ofRow? : List String → Option Entry
  | [supported, container, iterator] =>
    if supported = "yes" then ofFields? iterator container true
    else if supported = "no" then ofFields? iterator container false
    else none
  | _ => none

theorem Entry.ofRow?_words (e : Entry) :
    ofRow? [if e.supported then "yes" else "no", e.container.text, e.iterator.text] = some e := by
  have hself := e.ofFields?_self
  cases hsupported : e.supported with
  | false => rw [hsupported] at hself; exact hself
  | true => rw [hsupported] at hself; exact hself

/-- A table shows a registry: its rows tell of the entries in order, each word of a row begins at
the column of its heading, and the last line counts the entries. -/
structure Registry.ShownBy (r : Registry) (t : TableWords) : Prop where
  heading : TableWords.texts t.heading = ["SUPPORTED", "CONTAINER", "ITERATOR"]
  aligned : ∀ row ∈ t.rows, row.map (·.1) = t.heading.map (·.1)
  entries : t.rows.mapM (fun row => Entry.ofRow? (TableWords.texts row)) = some r.entries
  counts : TableWords.texts t.counts =
    [toString r.entries.length, "registered,", toString r.supported.length, "supported"]

/-- A text takes at least one octet for each character. -/
theorem length_le_utf8ByteSize (cs : List Char) : cs.length ≤ (String.ofList cs).utf8ByteSize := by
  induction cs with
  | nil => exact Nat.zero_le _
  | cons c cs ih =>
    have hc := c.utf8Size_pos
    rw [String.ofList_cons, String.utf8ByteSize_append, String.utf8ByteSize_singleton,
      List.length_cons]
    omega

namespace Registry

/-! ### The lines of a table -/

/-- The line of a row. -/
def rowLine (width : Nat) (supported container iterator : String) : String :=
  (Text.Field.column 9).show supported ++ "  " ++ (Text.Field.column width).show container ++
    "  " ++ iterator

theorem tableRow_eq (width : Nat) (supported container iterator : String) :
    tableRow width supported container iterator =
      rowLine width supported container iterator ++ "\n" := by
  show _ ++ (("  " ++ iterator) ++ "\n") = _
  rw [rowLine, ← String.append_assoc, ← String.append_assoc]

/-- The word for whether an entry gets an adapter. -/
def supportWord (e : Entry) : String := if e.supported then "yes" else "no"

/-- The line of an entry. -/
def entryLine (r : Registry) (e : Entry) : String :=
  rowLine r.containerWidth (supportWord e) e.container.text e.iterator.text

/-- The line that heads the columns. -/
def headingLine (r : Registry) : String :=
  rowLine r.containerWidth "SUPPORTED" "CONTAINER" "ITERATOR"

/-- The line that counts the entries. -/
def countsLine (r : Registry) : String :=
  s!"{r.entries.length} registered, {r.supported.length} supported"

/-- The lines of a table. -/
def tableLines (r : Registry) : List String :=
  r.headingLine :: (r.entries.map r.entryLine ++ ["", r.countsLine])

theorem table_eq (r : Registry) : r.table = unlines r.tableLines := by
  have hrow : (fun e : Entry => tableRow r.containerWidth (supportWord e) e.container.text
      e.iterator.text) = fun e => r.entryLine e ++ "\n" :=
    funext fun e => tableRow_eq _ _ _ _
  -- The empty line is not written as a line, but as a line's end before the counts.
  have hcounts : s!"\n{r.entries.length} registered, {r.supported.length} supported\n" =
      "" ++ "\n" ++ (r.countsLine ++ "\n") := by
    simp only [countsLine, String.append_assoc, String.empty_append]
    rfl
  show tableRow _ _ _ _ ++ String.join (r.entries.map fun e => tableRow r.containerWidth
    (supportWord e) e.container.text e.iterator.text) ++ _ = _
  rw [hrow, hcounts, tableRow_eq, unlines, tableLines]
  simp only [List.map_cons, List.map_append, List.map_map, List.map_nil, String.join_cons,
    String.join_append, String.join_nil, String.append_assoc, String.append_empty]
  rfl

/-! ### Words of a row -/

theorem words_rowLine {width : Nat} {supported container iterator : String}
    (hs : Text.IsWord supported.toList) (hshort : supported.toList.length ≤ 9)
    (hc : Text.IsWord container.toList) (hwidth : container.toList.length ≤ width)
    (hi : Text.IsWord iterator.toList) :
    Text.words 0 (rowLine width supported container iterator).toList =
      [(0, supported.toList), (11, container.toList), (13 + width, iterator.toList)] := by
  have hline : (rowLine width supported container iterator).toList =
      (Text.Field.column 9).pad supported.toList ++ (List.replicate (1 + 1) ' ' ++
        ((Text.Field.column width).pad container.toList ++
          (List.replicate (1 + 1) ' ' ++ iterator.toList))) := by
    simp [rowLine, Text.Field.show]
  have hcolumn : 0 + 9 + (1 + 1) + width + (1 + 1) = 13 + width := by omega
  rw [hline, Text.words_field hs hshort, Text.words_field hc hwidth, Text.words_word hi, hcolumn]

theorem containerWidth_eq (r : Registry) :
    r.containerWidth =
      max 9 ((r.entries.map (·.container.text.utf8ByteSize)).max?.getD 9) := by
  rw [containerWidth, ← List.foldl_max, List.foldl_map]

/-- The containers' field is wide enough for its heading and for every container. -/
theorem nine_le_containerWidth (r : Registry) : 9 ≤ r.containerWidth := by
  rw [containerWidth_eq]
  exact Nat.le_max_left _ _

theorem length_le_containerWidth (r : Registry) {e : Entry} (he : e ∈ r.entries) :
    e.container.text.toList.length ≤ r.containerWidth := by
  have hsize : e.container.text.toList.length ≤ e.container.text.utf8ByteSize := by
    have h := length_le_utf8ByteSize e.container.text.toList
    rwa [String.ofList_toList] at h
  have hmax : e.container.text.utf8ByteSize ≤
      (r.entries.map (·.container.text.utf8ByteSize)).max?.getD 9 :=
    List.le_max?_getD_of_mem (List.mem_map_of_mem he)
  rw [containerWidth_eq]
  exact Nat.le_trans hsize (Nat.le_trans hmax (Nat.le_max_right _ _))

theorem isIdentifier_supportWord (e : Entry) : isIdentifier (supportWord e) = true := by
  unfold supportWord
  cases e.supported
  · rfl
  · rfl

theorem length_supportWord_le (e : Entry) : (supportWord e).toList.length ≤ 9 := by
  unfold supportWord
  cases e.supported
  · decide
  · decide

/-- The words of a row in the columns of a table. -/
def rowWords (r : Registry) (supported container iterator : String) : List (Nat × List Char) :=
  [(0, supported.toList), (11, container.toList), (13 + r.containerWidth, iterator.toList)]

theorem columns_rowWords (r : Registry) (supported container iterator : String) :
    (r.rowWords supported container iterator).map (·.1) = [0, 11, 13 + r.containerWidth] := rfl

theorem texts_rowWords (r : Registry) (supported container iterator : String) :
    TableWords.texts (r.rowWords supported container iterator) =
      [supported, container, iterator] := by
  simp only [rowWords, TableWords.texts, List.map_cons, List.map_nil, String.ofList_toList]

theorem words_headingLine (r : Registry) :
    Text.words 0 r.headingLine.toList = r.rowWords "SUPPORTED" "CONTAINER" "ITERATOR" :=
  words_rowLine (Text.isWord_of_isIdentifier rfl) (by decide) (Text.isWord_of_isIdentifier rfl)
    r.nine_le_containerWidth (Text.isWord_of_isIdentifier rfl)

theorem words_entryLine (r : Registry) {e : Entry} (he : e ∈ r.entries) :
    Text.words 0 (r.entryLine e).toList =
      r.rowWords (supportWord e) e.container.text e.iterator.text :=
  words_rowLine (Text.isWord_of_isIdentifier (isIdentifier_supportWord e)) (length_supportWord_le e)
    (Text.isWord_of_isIdentifier e.iterator.isIdentifier_container) (r.length_le_containerWidth he)
    (Text.isWord_of_isIdentifier e.iterator.isIdentifier_text)

theorem texts_countsLine (r : Registry) :
    TableWords.texts (Text.words 0 r.countsLine.toList) =
      [toString r.entries.length, "registered,", toString r.supported.length, "supported"] := by
  have hline : r.countsLine.toList = (toString r.entries.length).toList ++ ' ' ::
      ("registered,".toList ++ ' ' :: ((toString r.supported.length).toList ++ ' ' ::
        "supported".toList)) := by
    have hliteral : " registered, ".toList = ' ' :: ("registered,".toList ++ [' ']) := rfl
    have hend : " supported".toList = ' ' :: "supported".toList := rfl
    show (toString _ ++ " registered, " ++ toString _ ++ " supported").toList = _
    simp only [String.toList_append, hliteral, hend, List.append_assoc, List.cons_append,
      List.nil_append]
  rw [hline, Text.words_cons (Text.isWord_toString _), Text.words_cons ⟨by decide, by decide⟩,
    Text.words_cons (Text.isWord_toString _), Text.words_word (Text.isWord_of_isIdentifier rfl)]
  simp only [TableWords.texts, List.map_cons, List.map_nil, String.ofList_toList]

/-! ### The whole table -/

/-- Rows end at the first empty line, since none of them is empty. -/
theorem ofLines?_eq (heading counts : List Char) {rows : List (List Char)}
    (hrows : ∀ l ∈ rows, l ≠ []) :
    TableWords.ofLines? (heading :: (rows ++ [[], counts, []])) =
      some ⟨Text.words 0 heading, rows.map (Text.words 0), Text.words 0 counts⟩ := by
  have hfull : ∀ l ∈ rows, (!l.isEmpty) = true := by
    intro l hl
    rw [List.isEmpty_eq_false_iff.mpr (hrows l hl)]
    rfl
  rw [TableWords.ofLines?, List.dropWhile_append_of_pos hfull, List.takeWhile_append_of_pos hfull]
  show some (TableWords.mk _ ((rows ++ []).map _) _) = _
  rw [List.append_nil]

theorem isLine_rowLine {width : Nat} {supported container iterator : String}
    (hs : Scan.IsLine supported) (hc : Scan.IsLine container) (hi : Scan.IsLine iterator) :
    Scan.IsLine (rowLine width supported container iterator) := by
  have hfield : ∀ {s : String} (n : Nat), Scan.IsLine s →
      Scan.IsLine ((Text.Field.column n).show s) := by
    intro s n hs
    unfold Scan.IsLine
    rw [Text.Field.show, String.toList_ofList, Text.pad_column, List.mem_append, not_or]
    exact ⟨hs, fun hmem => absurd (List.eq_of_mem_replicate hmem) (by decide)⟩
  have hgap : Scan.IsLine "  " := Scan.isLine_text (by decide)
  unfold rowLine
  simp only [Scan.isLine_append]
  exact ⟨⟨⟨⟨hfield 9 hs, hgap⟩, hfield width hc⟩, hgap⟩, hi⟩

theorem isLine_countsLine (r : Registry) : Scan.IsLine r.countsLine := by
  have hmiddle : Scan.IsLine " registered, " := Scan.isLine_text (by decide)
  have hend : Scan.IsLine " supported" := Scan.isLine_text (by decide)
  show Scan.IsLine (toString _ ++ " registered, " ++ toString _ ++ " supported")
  simp only [Scan.isLine_append]
  exact ⟨⟨⟨Text.not_mem_toString _ (by decide), hmiddle⟩, Text.not_mem_toString _ (by decide)⟩,
    hend⟩

theorem isLine_tableLines (r : Registry) : ∀ l ∈ r.tableLines, Scan.IsLine l := by
  rw [tableLines, List.forall_mem_cons, List.forall_mem_append]
  refine ⟨?_, ?_, ?_⟩
  · exact isLine_rowLine (Scan.isLine_of_isIdentifier rfl) (Scan.isLine_of_isIdentifier rfl)
      (Scan.isLine_of_isIdentifier rfl)
  · intro l hl
    obtain ⟨e, -, rfl⟩ := List.mem_map.mp hl
    exact isLine_rowLine (Scan.isLine_of_isIdentifier (isIdentifier_supportWord e))
      (Scan.isLine_of_isIdentifier e.iterator.isIdentifier_container)
      (Scan.isLine_of_isIdentifier e.iterator.isIdentifier_text)
  · rw [List.forall_mem_cons, List.forall_mem_singleton]
    exact ⟨List.not_mem_nil, r.isLine_countsLine⟩

/-- The words of a table. -/
def tableWords (r : Registry) : TableWords where
  heading := r.rowWords "SUPPORTED" "CONTAINER" "ITERATOR"
  rows := r.entries.map fun e => r.rowWords (supportWord e) e.container.text e.iterator.text
  counts := Text.words 0 r.countsLine.toList

theorem ofText?_listing (r : Registry) :
    TableWords.ofText? (r.listing .table) = some r.tableWords := by
  have hlines : Scan.textLines r.table.toList =
      r.headingLine.toList ::
        (r.entries.map (fun e => (r.entryLine e).toList) ++ [[], r.countsLine.toList, []]) := by
    rw [table_eq, Scan.textLines_of_isLine r.isLine_tableLines, tableLines, List.map_cons,
      List.map_append, List.map_map, List.cons_append, List.append_assoc]
    rfl
  -- An empty line would have no words, so no row is taken for the line behind the rows.
  have hrows : ∀ l ∈ r.entries.map (fun e => (r.entryLine e).toList), l ≠ [] := by
    intro l hl hempty
    obtain ⟨e, he, hline⟩ := List.mem_map.mp hl
    have hwords := r.words_entryLine he
    rw [hline, hempty] at hwords
    cases hwords
  have hwords : (r.entries.map fun e => (r.entryLine e).toList).map (Text.words 0) =
      r.tableWords.rows := by
    rw [List.map_map, tableWords]
    refine List.map_congr_left ?_
    intro e he
    rw [Function.comp_apply, r.words_entryLine he]
  show TableWords.ofLines? (Scan.textLines r.table.toList) = _
  rw [hlines, ofLines?_eq _ _ hrows, hwords, words_headingLine]
  rfl

theorem shownBy_tableWords (r : Registry) : r.ShownBy r.tableWords where
  heading := r.texts_rowWords _ _ _
  aligned := by
    intro row hrow
    obtain ⟨e, -, rfl⟩ := List.mem_map.mp hrow
    rw [tableWords, columns_rowWords, columns_rowWords]
  entries := by
    refine mapM_written ?_ r.entries
    intro e
    rw [texts_rowWords]
    exact e.ofRow?_words
  counts := by
    rw [tableWords]
    dsimp only
    exact r.texts_countsLine

/-- The three views of a registry, each read in its own format, give back the entries in order. -/
theorem listings_told (r : Registry) :
    entriesOfJson? (r.listing .json) = some r.entries ∧
      entriesOfDocument? (r.listing .yaml) = some r.entries ∧
      ∃ t, TableWords.ofText? (r.listing .table) = some t ∧ r.ShownBy t :=
  ⟨r.entriesOfJson?_listing, r.entriesOfDocument?_listing, r.tableWords, r.ofText?_listing,
    r.shownBy_tableWords⟩

end Registry

end UniformIter
