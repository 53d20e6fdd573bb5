import UniformIter.Decoding.Fault
import UniformIter.Registry.Basic

/-!
# Failures

Why a run does not give what it was asked for: each failure is a cause of its own, belongs to
a category and has a message.
-/

namespace UniformIter

/-- Why bytes could not be read or written. -/
inductive IoFault where
  | brokenPipe
  | notFound
  | permissionDenied
  | interrupted
  | wouldBlock
  | connectionReset
  | unexpectedEnd
  /-- A sink took nothing of what it was offered. -/
  | nothingTaken
  /-- The device that the output goes to is full. -/
  | noSpace
  | other (message : String)
  deriving Repr, DecidableEq

/-- The message about a fault of reading or writing. -/
def IoFault.message : IoFault → String
  | .brokenPipe => "broken pipe"
  | .notFound => "entity not found"
  | .permissionDenied => "permission denied"
  | .interrupted => "operation interrupted"
  | .wouldBlock => "operation would block"
  | .connectionReset => "connection reset"
  | .unexpectedEnd => "unexpected end of file"
  | .nothingTaken => "failed to write whole buffer"
  | .noSpace => "No space left on device (os error 28)"
  | .other m => m

/-- Why a settings file could not be opened. -/
inductive FileFault where
  | missing
  | directory
  | notText
  | other (message : String)
  deriving Repr, DecidableEq

/-- The message about a file. -/
def FileFault.message : FileFault → String
  | .missing => "No such file or directory (os error 2)"
  | .directory => "Is a directory (os error 21)"
  | .notText => "stream did not contain valid UTF-8"
  | .other m => m

/-- What is wrong with settings. -/
inductive SettingsFault where
  | unreadable (path : String) (fault : FileFault)
  /-- The text of the settings is no document. -/
  | malformed
  | undecodable (fault : Decoding.PlacedFault)
  | invalidTarget (target : String)
  | notIdentifier (field value : String)
  | blank (field : String)
  /-- No renderer has the name of the target. -/
  | unknownTarget (target : String) (available : List String)
  | other (message : String)
  deriving Repr, DecidableEq

/-- The message about settings. -/
def SettingsFault.message : SettingsFault → String
  | .unreadable path f => s!"Failed to read config file '{path}': {f.message}"
  | .malformed => "Failed to parse YAML config"
  | .undecodable f => s!"Failed to parse YAML config: {f.message}"
  | .invalidTarget t => s!"Invalid target: {t}. Use 'go' or 'rust'"
  | .notIdentifier field value => s!"{field} must be an identifier, got '{value}'"
  | .blank field => s!"{field} cannot be empty"
  | .unknownTarget t names => s!"Unknown target '{t}'. Available: " ++ ", ".intercalate names
  | .other m => m

/-- Why a run does not give what it was asked for. -/
inductive Failure where
  | settings (fault : SettingsFault)
  | registry (fault : RegistryFault)
  /-- A renderer could not write its part of a unit. -/
  | render (renderer message : String)
  | io (fault : IoFault)
  /-- A JSON text that ends too early, at this line and column. -/
  | json (line column : Nat)
  | yaml (fault : Decoding.Fault)
  | formatting
  | internal (message : String)
  deriving Repr, DecidableEq

namespace Failure

/-- The kind of failure. -/
def category : Failure → String
  | settings _ => "config"
  | registry _ => "registry"
  | render _ _ => "render"
  | io _ => "io"
  | json _ _ => "serialization"
  | yaml _ => "yaml"
  | formatting => "fmt"
  | internal _ => "internal"

/-- The message of a failure. -/
def message : Failure → String
  | settings f => s!"Configuration error: {f.message}"
  | registry f => s!"Registry error: {f.message}"
  | render r m => s!"Render error: {r}: {m}"
  | io f => s!"IO error: {f.message}"
  | json line column =>
    s!"Serialization error: EOF while parsing a value at line {line} column {column}"
  | yaml f => s!"YAML parsing error: {f.message}"
  | formatting => "Formatting error: an error occurred when formatting an argument"
  | internal m => s!"Internal error: {m}"

/-- Whether the reader of the output went away. -/
def isBrokenPipe (f : Failure) : Bool := f == io .brokenPipe

/-- The last words of a program that fails: the message, and below it the fault of reading or
writing that caused it. -/
def report (f : Failure) : String :=
  match f with
  | io fault => s!"Error: {f.message}\n\nCaused by:\n    {fault.message}"
  | _ => s!"Error: {f.message}"

end Failure

end UniformIter
