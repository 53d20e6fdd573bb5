import UniformIter.Journal.Event
import UniformIter.Output.Run
import UniformIter.Settings.BuiltIn
import UniformIter.Settings.Decode

/-!
# Work with its events

Each piece of work that reports something, as the work itself together with its events. The
outcome is that of the work alone: `Logged.value` forgets the events.
-/

namespace UniformIter

/-- An outcome and the events on the way to it. -/
structure Logged (α : Type) where
  value : α
  events : List Event

namespace Logged

instance : Monad Logged where
  pure a := ⟨a, []⟩
  bind x f :=
    let y := f x.value
    ⟨y.value, x.events ++ y.events⟩

/-- Reports events. -/
def tell (events : List Event) : Logged Unit := ⟨(), events⟩

@[simp] theorem value_pure {α : Type} (a : α) : (pure a : Logged α).value = a := rfl

@[simp] theorem value_bind {α β : Type} (x : Logged α) (f : α → Logged β) :
    (x >>= f).value = (f x.value).value := rfl

/-- Builds a registry. -/
def registry (supported unsupported : List String) : Logged (Except RegistryFault Registry) :=
  ⟨Registry.ofNames supported unsupported,
    (Registry.acceptedUnsupported supported unsupported).map fun e =>
      .registered e.iterator.text⟩

/-- Makes a settings file into settings. -/
def settings (f : SettingsFile) : Logged (Except Failure Settings) :=
  let outcome := f.toSettings
  let names :=
    if f.fault?.isSome then []
    else (registry f.registry.supported f.registry.unsupported).events
  let warning := match outcome with
    | .ok s => if s.registry.supported.isEmpty then [.nothingSupported] else []
    | .error _ => []
  ⟨outcome, names ++ warning⟩

/-- Renders a unit. -/
def rendered (r : Renderer) (s : Settings) : Logged (Except Failure String) :=
  let adapters := s.registry.supported.length
  let outcome := r.unit s
  let begun := Event.rendering r.name s.package adapters (s.registry.entries.length - adapters)
  let ended := match outcome with
    | .ok text => [.rendered text.utf8ByteSize]
    | .error _ => []
  ⟨outcome, begun :: ended⟩

/-- Renders the unit that settings stand for. -/
def unit (s : Settings) : Logged (Except Failure String) :=
  match s.renderer with
  | .ok r => rendered r s
  | .error f => pure (.error f)

/-- Writes the unit of a renderer to a sink. -/
def emit (r : Renderer) (s : Settings) (sink : Sink) :
    Logged (Except Failure Unit × Delivery) :=
  ⟨r.emit s sink, (rendered r s).events⟩

/-- Writes what a job gives to a sink. -/
def output (job : Except Failure String) (sink : Sink) :
    Logged (Except Failure RunOutcome × Delivery) :=
  let outcome := writeOutput job sink
  ⟨outcome, match outcome.1 with
    | .ok .outputClosed => [.outputClosed]
    | _ => []⟩

/-- Reads the settings file at a path, which holds a text or cannot be opened. -/
def file (path : String) (content : Except FileFault String) :
    Logged (Except Failure SettingsFile) :=
  match content with
  | .ok text => ⟨SettingsFile.ofText text, [.loaded path]⟩
  | .error fault => pure (.error (.settings (.unreadable path fault)))

/-- Tells what is about to be generated. -/
def summary (s : Settings) (source : String) : Logged Unit :=
  tell <|
    [.generating source,
      .aims s.target s.package s.dispatch.function,
      .nilCheck s.dispatch.checkNil,
      .registryCounts s.registry.supported.length s.registry.unsupported.length] ++
    s.registry.unsupported.map fun e => .excluded e.iterator.text

variable {κ : Type} [DecidableEq κ] {kinds : κ → PropertyKind}

/-- Builds a dispatcher. -/
def dispatcher (kinds : κ → PropertyKind) (s : Settings) (bindings : List κ) :
    Logged (Dispatcher kinds) :=
  ⟨Dispatcher.ofBindings kinds s bindings,
    (Dispatcher.unusedNames kinds s bindings).map .unusedBinding⟩

/-- Dispatches a value. -/
def begin (d : Dispatcher kinds) (v : Option (Dynamic kinds)) :
    Logged (Except DispatchFault (Adapter kinds)) :=
  ⟨d.begin v, match v.bind fun v => (d.meet? v).map (v, ·) with
    | some (v, e, _) => [.dispatched v.typeName e.iterator.text]
    | none => []⟩

end Logged

end UniformIter
