import UniformIter.Naming.SnakeCase
import UniformIter.Unit.Renderer

/-!
# Units in Rust

There is no open type switch in Rust, so a unit declares a closed `Iterable` with one variant
for each supported container and a last one for everything else. Adapters share their owner,
so that another adapter of the same owner can be made from each.
-/

namespace UniformIter.Rust

/-- The type name of an adapter. -/
def adapterName (s : Settings) (e : Entry) : String := s!"{s.interface}{e.iterator.text}"

/-- The name of the error type that stands next to the interface. -/
def errorName (s : Settings) : String := s!"{s.interface}Error"

/-- The name of the dispatch function. -/
def functionName (s : Settings) : String := snakeCase s.dispatch.function

/-- The segments of a module path, between double colons. -/
def splitPath : List Char → List (List Char)
  | [] => [[]]
  | ':' :: ':' :: r => [] :: splitPath r
  | c :: r =>
    match splitPath r with
    | [] => [[c]]
    | first :: more => (c :: first) :: more

/-- The segments of a module path. -/
def segments (path : String) : List String := (splitPath path.toList).map String.ofList

/-- Whether a path leads to a module: every segment is an identifier. -/
def isModulePath (path : String) : Bool := (segments path).all isIdentifier

/-- The import of the vocabulary, renamed unless its path ends with the qualifier. -/
def useVocabulary (v : Vocabulary) : Except Failure String :=
  if !isModulePath v.importPath then
    .error (.render "rust" s!"vocab.import_path '{v.importPath}' is not a Rust module path")
  else if (segments v.importPath).getLast? = some v.qualifier then .ok s!"use {v.importPath};"
  else .ok s!"use {v.importPath} as {v.qualifier};"

/-- Whether a unit has adapters. -/
def hasAdapters (s : Settings) : Bool := !s.registry.supported.isEmpty

/-- The module label and the imports. -/
def preamble (s : Settings) (useLine : String) : List String :=
  [banner, s!"// Module: {s.package}", "", "use std::any::Any;", "use std::fmt;"] ++
    (if hasAdapters s then ["use std::rc::Rc;"] else []) ++
    ["", "use url::Url;", "", useLine, ""]

/-- The error type of the dispatch function. -/
def errorType (s : Settings) : List String :=
  let error := errorName s
  [s!"/// Failure modes of [`{functionName s}`].",
    "#[derive(Debug, Clone, PartialEq, Eq)]",
    s!"pub enum {error} \x7b",
    "    /// No value was supplied.",
    "    InvalidArgument,",
    "    /// The value's type has no adapter.",
    "    UnsupportedType(&'static str),",
    "\x7d",
    "",
    s!"impl fmt::Display for {error} \x7b",
    "    fn fmt(&self, f: &mut fmt::Formatter<'_>) -> fmt::Result \x7b",
    "        match self \x7b",
    s!"            {error}::InvalidArgument => f.write_str(\"nil argument\"),",
    s!"            {error}::UnsupportedType(type_name) => " ++
      "write!(f, \"type=\x7b\x7d not supported\", type_name),",
    "        \x7d",
    "    \x7d",
    "\x7d",
    "",
    s!"impl std::error::Error for {error} \x7b\x7d",
    ""]

/-- The interface of the adapters. -/
def interfaceTrait (s : Settings) : List String :=
  ["/// Uniform view over every supported property iterator.",
    s!"pub trait {s.interface} \x7b",
    "    fn has_any(&self) -> bool;",
    "    fn is_iri(&self) -> bool;",
    "    fn get_iri(&self) -> Option<Url>;",
    s!"    fn get_type(&self) -> Option<{s.vocabulary.qualifier}::Type>;",
    s!"    fn next(&self) -> Box<dyn {s.interface}>;",
    s!"    fn end(&self) -> Box<dyn {s.interface}>;",
    "\x7d",
    ""]

/-- The closed type of everything that can be dispatched. -/
def iterableEnum (s : Settings) : List String :=
  [s!"/// Every value [`{functionName s}`] can be asked to iterate.",
    "pub enum Iterable \x7b"] ++
    s.registry.supported.map (fun e =>
      s!"    {e.container.text}({s.vocabulary.qualifier}::{e.container.text}),") ++
    ["    Unrecognized \x7b",
      "        type_name: &'static str,",
      "        value: Box<dyn Any>,",
      "    \x7d,",
      "\x7d",
      ""]

/-- The signature of the dispatch function, and the check for a missing argument. -/
def signature (s : Settings) : List String :=
  let function := functionName s
  let result := s!"Result<Box<dyn {s.interface}>, {errorName s}>"
  if s.dispatch.checkNil then
    [s!"pub fn {function}(iterable: Option<Iterable>) -> {result} \x7b",
      "    let Some(iterable) = iterable else \x7b",
      s!"        return Err({errorName s}::InvalidArgument);",
      "    \x7d;",
      ""]
  else
    [s!"pub fn {function}(iterable: Iterable) -> {result} \x7b"]

/-- An arm of the dispatch function. -/
def dispatchArm (s : Settings) (e : Entry) : List String :=
  [s!"        Iterable::{e.container.text}(v) => \x7b",
    "            let v = Rc::new(v);",
    "            let it = v.begin();",
    s!"            Ok(Box::new({adapterName s e} \x7b p: v, it \x7d))",
    "        \x7d"]

/-- Everything between the preamble and the adapters. -/
def dispatch (s : Settings) : List String :=
  errorType s ++ interfaceTrait s ++ iterableEnum s ++ signature s ++
    "    match iterable \x7b" :: s.registry.supported.flatMap (dispatchArm s) ++
    ["        Iterable::Unrecognized \x7b type_name, .. \x7d => " ++
        s!"Err({errorName s}::UnsupportedType(type_name)),",
      "    \x7d",
      "\x7d"]

/-- A method that asks the cursor. -/
def forward (method result : String) : List String :=
  [s!"    fn {method}(&self) -> {result} \x7b",
    s!"        self.it.{method}()",
    "    \x7d",
    ""]

/-- A method that gives an adapter of the same owner at another cursor. -/
def rewrap (name method interface cursor : String) : List String :=
  [s!"    fn {method}(&self) -> Box<dyn {interface}> \x7b",
    s!"        Box::new({name} \x7b",
    "            p: Rc::clone(&self.p),",
    s!"            it: {cursor},",
    "        \x7d)",
    "    \x7d"]

/-- An adapter: its struct and its methods. -/
def adapter (s : Settings) (e : Entry) : List String :=
  let q := s.vocabulary.qualifier
  let name := adapterName s e
  ["",
    s!"/// Adapter over `{q}::{e.iterator.text}`.",
    s!"pub struct {name} \x7b",
    s!"    p: Rc<{q}::{e.container.text}>,",
    s!"    it: {q}::{e.iterator.text},",
    "\x7d",
    "",
    s!"impl {s.interface} for {name} \x7b"] ++
    forward "has_any" "bool" ++ forward "is_iri" "bool" ++
    forward "get_iri" "Option<Url>" ++ forward "get_type" s!"Option<{q}::Type>" ++
    rewrap name "next" s.interface "self.it.next()" ++ "" ::
    rewrap name "end" s.interface "self.p.end()" ++ ["\x7d"]

/-- The renderer for Rust. -/
def renderer : Renderer where
  name := "rust"
  description := "Rust adapters with a closed Iterable enum"
  extension := "rs"
  preamble s := (useVocabulary s.vocabulary).map fun useLine => unlines (preamble s useLine)
  dispatch s := .ok (unlines (dispatch s))
  adapter s e := .ok (unlines (adapter s e))

end UniformIter.Rust
