import UniformIter.CommandLine.Arguments
import UniformIter.Journal.Event
import UniformIter.Output.Run
import UniformIter.Settings.Decode

/-!
# Programs

The three programs: one with commands, and one for each built-in variant that takes no
arguments. A program computes its text first and then writes it; it ends with status 0, with
1 and a message if something fails, and with 2 if its arguments make no sense.
-/

namespace UniformIter.CommandLine

/-- What files hold, by their paths. -/
abbrev Files := String → Except FileFault String

/-- The settings in the file at a path. -/
def settingsAt (files : Files) (path : String) : Except Failure Settings :=
  match files path with
  | .error fault => .error (.settings (.unreadable path fault))
  | .ok text => (SettingsFile.ofText text).bind SettingsFile.toSettings

/-- The settings of a source. -/
def Source.settings (files : Files) (s : Source) : Except Failure Settings :=
  match s.path with
  | some path => settingsAt files path
  | none => s.variant.settings

/-- Settings with what the command line says instead. -/
def overridden (s : Settings) (target vocabularyPath : Option String) : Settings :=
  let s := match target with
    | some t => s.withTarget t
    | none => s
  match vocabularyPath with
  | some p => s.withVocabularyPath p
  | none => s

/-- The line about valid settings. -/
def validLine (path : String) (s : Settings) : String :=
  s!"{path}: valid ({s.target} renderer, {s.registry.supported.length} supported, " ++
    s!"{s.registry.unsupported.length} unsupported; renderers: " ++
    ", ".intercalate Catalogue.standard.names ++ ")\n"

/-- The text that a command gives. -/
def Command.text (files : Files) : Command → Except Failure String
  | generate source target vocabularyPath =>
    (source.settings files).bind fun s => (overridden s target vocabularyPath).unit
  | registry source format => (source.settings files).map fun s => s.registry.listing format
  | validate path =>
    (settingsAt files path).bind fun s => s.unit.map fun _ => validLine path s
  | init => .ok exampleText

/-- How a program ends. -/
structure Exit where
  status : Nat
  /-- Its last words, if it fails. -/
  report : Option String
  deriving Repr, DecidableEq

/-- How a program ends, by how its run does. -/
def Exit.ofRun : Except Failure RunOutcome → Exit
  | .ok _ => ⟨0, none⟩
  | .error f => ⟨1, some f.report⟩

/-- The line that tells the version. -/
def versionLine : String := s!"iterbridge {version}\n"

/-- The programs. -/
inductive Program where
  | commands
  /-- Writes the unit of a variant. -/
  | unit (variant : Variant)
  deriving Repr, DecidableEq

/-- The program that goes by a name. -/
def Program.ofName? (name : String) : Option Program :=
  if name == "iterbridge" then some .commands
  else if name == "fetch-iterator-impl" then some (.unit .fetch)
  else if name == "fedutil-iterator-impl" then some (.unit .fedutil)
  else none

/-- Writes a text to the output, and ends as the writing does. -/
def writeText (job : Except Failure String) (output : Sink) : Exit × Delivery :=
  let (outcome, d) := writeOutput job output
  (.ofRun outcome, d)

/-- Does what a command line asks for. The version is told without regard to what becomes of
it. -/
def Request.run (files : Files) (output : Sink) : Request → Exit × Delivery
  | .command c => writeText (c.text files) output
  | .version => (⟨0, none⟩, output.deliver (utf8 versionLine))
  | .help => (⟨0, none⟩, .none)
  | .misused => (⟨2, none⟩, .none)

/-- Runs a program. -/
def Program.run (p : Program) (args : List String) (files : Files) (output : Sink) :
    Exit × Delivery :=
  match p with
  | commands => (Request.ofArguments args).run files output
  | unit v => writeText (v.settings.bind Settings.unit) output

/-- The path of the file that a command line needs. -/
def Request.path? : Request → Option String
  | .command (.generate s _ _) | .command (.registry s _) => s.path
  | .command (.validate path) => some path
  | _ => none

end UniformIter.CommandLine
