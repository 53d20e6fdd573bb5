import UniformIter.Iteration.Dispatcher
import UniformIter.Settings.Basic

/-!
# Events

What a run reports about its work while it goes on. Each event has a level and a message; some
have fields with numbers or names besides.
-/

namespace UniformIter

/-- The version of the program. -/
def version : String := "0.1.0"

/-- How important an event is. -/
inductive Level where
  | trace
  | debug
  | info
  | warn
  | error
  deriving Repr, DecidableEq

/-- The name of a level. -/
def Level.name : Level → String
  | .trace => "TRACE"
  | .debug => "DEBUG"
  | .info => "INFO"
  | .warn => "WARN"
  | .error => "ERROR"

/-- What a run reports. -/
inductive Event where
  /-- A name was registered that gets no adapter. -/
  | registered (iterator : String)
  /-- No entry of a registry gets an adapter. -/
  | nothingSupported
  | loaded (path : String)
  | rendering (renderer package : String) (adapters skipped : Nat)
  | rendered (bytes : Nat)
  | outputClosed
  | dispatched (typeName iterator : String)
  /-- A kind was bound for which there is no case. -/
  | unusedBinding (iterator : String)
  | generating (source : String)
  | aims (target package function : String)
  | nilCheck (enabled : Bool)
  | registryCounts (supported unsupported : Nat)
  | excluded (iterator : String)
  deriving Repr, DecidableEq

namespace Event

/-- The level of an event. -/
def level : Event → Level
  | registered _ | dispatched _ _ => .trace
  | loaded _ | rendering _ _ _ _ | rendered _ => .debug
  | outputClosed | unusedBinding _ | excluded _ => .debug
  | generating _ | aims _ _ _ | nilCheck _ | registryCounts _ _ => .info
  | nothingSupported => .warn

/-- The message of an event. -/
def message : Event → String
  | registered i => s!"Registering '{i}' as unsupported"
  | nothingSupported => "Registry has no supported entries; dispatch will reject every value"
  | loaded p => s!"Loaded generator config from {p}"
  | rendering _ _ _ _ => "Rendering iterator adapters"
  | rendered _ => "Rendered unit"
  | outputClosed => "Output consumer closed the pipe early"
  | dispatched t i => s!"Dispatched {t} to {i}"
  | unusedBinding i => s!"Binding for '{i}' has no supported registry entry; ignoring"
  | generating source => s!"iterbridge v{version} generating from {source}"
  | aims t p f => s!"   Target: {t} | package: {p} | dispatch: {f}"
  | nilCheck enabled => "   Nil argument check: " ++ if enabled then "enabled" else "disabled"
  | registryCounts s u => s!"   Registry: {s} supported, {u} unsupported"
  | excluded i => s!"   Excluded: {i}"

/-- The fields of an event besides its message. -/
def fields : Event → List (String × Json)
  | rendering r p adapters skipped =>
    [("adapters", .integer adapters), ("package", .string p), ("renderer", .string r),
      ("skipped", .integer skipped)]
  | rendered bytes => [("bytes", .integer bytes)]
  | _ => []

end Event

end UniformIter
