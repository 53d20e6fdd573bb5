import UniformIter.Registry.Listing
import UniformIter.Settings.BuiltIn

/-!
# Arguments

The command line: options before and behind a command. An option has its value behind an
equals sign, in the next argument, or, in its short form, right behind its letter; it may come
once at each place. A value in an argument of its own does not begin with a hyphen. Two options
have a fixed set of values: the built-in variants, and the formats of a listing.
-/

namespace UniformIter

/-! ## Choices -/

/-- Whether two texts differ at most in the case of ASCII letters. -/
def equalUpToCase (a b : String) : Bool := a.toList.map Char.toLower == b.toList.map Char.toLower

/-- The choice that a text names. -/
def choice? {α : Type} (name : α → String) (choices : List α) (ignoreCase : Bool) (s : String) :
    Option α :=
  choices.find? fun a => if ignoreCase then equalUpToCase (name a) s else name a == s

/-- The name of a listing's format. -/
def ListingFormat.name : ListingFormat → String
  | .table => "table"
  | .json => "json"
  | .yaml => "yaml"

/-- The formats of a listing. -/
def ListingFormat.all : List ListingFormat := [.table, .json, .yaml]

namespace CommandLine

/-! ## Command lines -/

/-- An option with a value. -/
structure Opt where
  long : String
  short : Option Char
  /-- Whether the option takes this value. -/
  takes : String → Bool

/-- Where settings come from. -/
structure Source where
  variant : Variant := .fetch
  /-- The path of a settings file, which counts before the variant. -/
  path : Option String := none
  deriving Repr, DecidableEq

/-- What the program is asked to do. -/
inductive Command where
  | generate (source : Source) (target vocabularyPath : Option String)
  | registry (source : Source) (format : ListingFormat)
  | validate (path : String)
  | init
  deriving Repr, DecidableEq

/-- What a command line asks for. -/
inductive Request where
  | command (c : Command)
  | version
  | help
  /-- The command line cannot be understood. -/
  | misused
  deriving Repr, DecidableEq

/-- The option that every command has. -/
def logLevel : Opt := ⟨"log-level", some 'l', fun _ => true⟩

/-- The built-in variant. -/
def variantOption : Opt :=
  ⟨"variant", none, fun v => (choice? Variant.name Variant.all false v).isSome⟩

/-- The path of a settings file. -/
def configOption : Opt := ⟨"config", some 'c', fun v => !v.isEmpty⟩

/-- The target that counts instead of the settings' own. -/
def targetOption : Opt := ⟨"target", some 't', fun _ => true⟩

/-- The vocabulary path that counts instead of the settings' own. -/
def vocabularyOption : Opt := ⟨"vocab-path", none, fun _ => true⟩

/-- The format of a listing. -/
def formatOption : Opt :=
  ⟨"format", some 'f', fun v => (choice? ListingFormat.name ListingFormat.all false v).isSome⟩

/-- Values of options, by the options' long names. -/
abbrev Values := List (String × String)

/-- What reading options comes to: the values and the arguments left over from the first that
is no option, or a request that ends it. -/
inductive Reading where
  | values (v : Values) (rest : List String)
  | stop (r : Request)
  deriving Repr, DecidableEq

/-- Whether an argument is an option and no value. -/
def isOption (arg : String) : Bool := arg.startsWith "-" && arg != "-"

/-- An argument that is an option, taken apart. -/
inductive Argument where
  | long (name : String) (value : Option String)
  | short (letter : Char) (value : Option String)
  /-- The two hyphens behind which there are no options. -/
  | separator
  | word
  deriving Repr, DecidableEq

/-- Takes an argument apart. -/
def Argument.ofText (arg : String) : Argument :=
  match arg.toList with
  | ['-', '-'] => .separator
  | '-' :: '-' :: r =>
    let name := String.ofList (r.takeWhile (· != '='))
    match r.dropWhile (· != '=') with
    | '=' :: value => .long name (some (String.ofList value))
    | _ => .long name none
  | ['-', c] => .short c none
  | '-' :: c :: '=' :: value => .short c (some (String.ofList value))
  | '-' :: c :: value => .short c (some (String.ofList value))
  | _ => .word

/-- Adds a value, unless the option does not take it or has one. -/
def record (o : Opt) (value : String) (v : Values) : Option Values :=
  if o.takes value && (v.lookup o.long).isNone then some (v ++ [(o.long, value)]) else none

/-- The request of an option without value. -/
def request? (atTop : Bool) : Argument → Option Request
  | .long "help" none | .short 'h' _ => some .help
  | .long "version" none | .short 'V' _ => if atTop then some .version else none
  | _ => none

/-- The option that an argument names, and the value in the same argument. -/
def option? (options : List Opt) : Argument → Option (Opt × Option String)
  | .long name value => (options.find? (·.long == name)).map (·, value)
  | .short letter value => (options.find? (·.short == some letter)).map (·, value)
  | _ => none

/-- Reads options up to the first argument that is none. -/
def readOptions (options : List Opt) (atTop : Bool) (v : Values) : List String → Reading
  | [] => .values v []
  | arg :: rest =>
    let a := Argument.ofText arg
    match a with
    | .word => .values v (arg :: rest)
    | .separator => if rest.isEmpty then .values v [] else .stop .misused
    | _ =>
      match request? atTop a, option? options a with
      | some r, _ => .stop r
      | none, none => .stop .misused
      | none, some (o, some value) =>
        match record o value v with
        | some v' => readOptions options atTop v' rest
        | none => .stop .misused
      | none, some (o, none) =>
        match rest with
        | [] => .stop .misused
        | value :: rest' =>
          -- What looks like an option is never the value of the one before it.
          if isOption value then .stop .misused
          else
            match record o value v with
            | some v' => readOptions options atTop v' rest'
            | none => .stop .misused

/-- The source that option values name. -/
def Source.ofValues (v : Values) : Source where
  variant := ((v.lookup "variant").bind (choice? Variant.name Variant.all false)).getD .fetch
  path := v.lookup "config"

/-- Reads the options of a command, behind which nothing else may stand. -/
def readCommand (options : List Opt) (make : Values → Option Command) (args : List String) :
    Request :=
  match readOptions (options ++ [logLevel]) false [] args with
  | .stop r => r
  | .values v [] =>
    match make v with
    | some c => .command c
    | none => .misused
  | .values _ _ => .misused

/-- The names of the commands. -/
def commandNames : List String := ["generate", "registry", "validate", "init", "help"]

/-- What a command line asks for. -/
def Request.ofArguments (args : List String) : Request :=
  match readOptions [logLevel] true [] args with
  | .stop r => r
  | .values _ [] => .misused
  | .values _ (word :: rest) =>
    match word with
    | "generate" =>
      readCommand [variantOption, configOption, targetOption, vocabularyOption]
        (fun v => some (.generate (.ofValues v) (v.lookup "target") (v.lookup "vocab-path"))) rest
    | "registry" =>
      readCommand [variantOption, configOption, formatOption]
        (fun v => some (.registry (.ofValues v)
          (((v.lookup "format").bind (choice? ListingFormat.name ListingFormat.all false)).getD
            .table))) rest
    | "validate" => readCommand [configOption] (fun v => (v.lookup "config").map .validate) rest
    | "init" => readCommand [] (fun _ => some .init) rest
    | "help" => if rest.length < 2 && rest.all commandNames.contains then .help else .misused
    | _ => .misused

end CommandLine

end UniformIter
