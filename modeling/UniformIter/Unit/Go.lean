import UniformIter.Unit.Renderer

/-!
# Units in Go

Each adapter is a struct `iter_<Iterator>` of the owner `p` and the cursor `it`. The dispatch
function is a type switch with one case for each supported container, in registry order, and
the default branch last.
-/

namespace UniformIter.Go

/-- The type name of an adapter. -/
def adapterName (e : Entry) : String := s!"iter_{e.iterator.text}"

/-- The last element of an import path, by which a package goes unless it is renamed. -/
def lastElement (path : String) : String :=
  String.ofList (path.toList.reverse.takeWhile (· != '/')).reverse

/-- Whether a unit has adapters. -/
def hasAdapters (s : Settings) : Bool := !s.registry.supported.isEmpty

/-- Whether a unit refers to the vocabulary. -/
def usesVocabulary (s : Settings) : Bool :=
  hasAdapters s ||
    (s.vocabulary.qualifier ++ ".").toList.isPrefixOf s.dispatch.argumentType.toList

/-- The packages of the standard library that a unit imports. -/
def standardImports (s : Settings) : List String :=
  (if s.dispatch.checkNil then ["errors"] else []) ++ ["fmt"] ++
    if hasAdapters s then ["net/url"] else []

/-- The import of the vocabulary, renamed unless its path ends with the qualifier. -/
def vocabularyImport (v : Vocabulary) : String :=
  if lastElement v.importPath = v.qualifier then s!"\"{v.importPath}\""
  else s!"{v.qualifier} \"{v.importPath}\""

/-- The package clause and the imports. -/
def preamble (s : Settings) : List String :=
  [banner, "", s!"package {s.package}", "", "import ("] ++
    (standardImports s).map (fun path => s!"\t\"{path}\"") ++
    (if usesVocabulary s then ["", s!"\t{vocabularyImport s.vocabulary}"] else []) ++
    [")", ""]

/-- A case of the type switch. -/
def dispatchCase (s : Settings) (e : Entry) : List String :=
  [s!"\tcase {s.vocabulary.qualifier}.{e.container.text}:",
    s!"\t\treturn {adapterName e}\x7b",
    "\t\t\tp:  v,",
    "\t\t\tit: v.Begin(),",
    "\t\t\x7d, nil",
    ""]

/-- The check for a missing argument. -/
def nilCheck : List String :=
  ["\tif iterable == nil \x7b",
    "\t\treturn nil, errors.New(\"nil argument\")",
    "\t\x7d",
    ""]

/-- The first line of the type switch. It names the value only where a case uses it. -/
def switchLine (s : Settings) : String :=
  if hasAdapters s then "\tswitch v := iterable.(type) \x7b" else "\tswitch iterable.(type) \x7b"

/-- The dispatch function. -/
def dispatch (s : Settings) : List String :=
  let arguments := s!"(iterable {s.dispatch.argumentType})"
  [s!"func {s.dispatch.function}{arguments} ({s.interface}, error) \x7b"] ++
    (if s.dispatch.checkNil then nilCheck else []) ++
    switchLine s :: s.registry.supported.flatMap (dispatchCase s) ++
    ["\tdefault:",
      "\t\treturn nil, fmt.Errorf(\"type=%T not supported\", iterable)",
      "\t\x7d",
      "\x7d"]

/-- A method that asks the cursor. -/
def forward (name method result : String) : List String :=
  [s!"func (i {name}) {method}() {result} \x7b",
    s!"\treturn i.it.{method}()",
    "\x7d",
    ""]

/-- A method that gives an adapter of the same owner at another cursor. -/
def rewrap (name method interface cursor : String) : List String :=
  [s!"func (i {name}) {method}() {interface} \x7b",
    s!"\treturn {name}\x7b",
    "\t\tp:  i.p,",
    s!"\t\tit: {cursor},",
    "\t\x7d",
    "\x7d"]

/-- An adapter: its struct and its methods. -/
def adapter (s : Settings) (e : Entry) : List String :=
  let q := s.vocabulary.qualifier
  let name := adapterName e
  ["",
    s!"type {name} struct \x7b",
    s!"\tp  {q}.{e.container.text}",
    s!"\tit {q}.{e.iterator.text}",
    "\x7d",
    ""] ++
    forward name "HasAny" "bool" ++ forward name "IsIRI" "bool" ++
    forward name "GetIRI" "*url.URL" ++ forward name "GetType" s!"{q}.Type" ++
    rewrap name "Next" s.interface "i.it.Next()" ++ "" ::
    rewrap name "End" s.interface "i.p.End()"

/-- The renderer for Go. -/
def renderer : Renderer where
  name := "go"
  description := "Go adapters over go-fed style property iterators"
  extension := "go"
  preamble s := .ok (unlines (preamble s))
  dispatch s := .ok (unlines (dispatch s))
  adapter s e := .ok (unlines (adapter s e))

end UniformIter.Go
