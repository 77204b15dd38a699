import TypedSettings.Fault
import TypedSettings.Value.Equality
import TypedSettings.Value.Text

/-!
# Events

What a registry and its sources report while they work. Each event has a level and a text.
-/

namespace TypedSettings
set_option autoImplicit false

/-- How much an event matters. -/
inductive Level where
  | debug
  | info
  | warn
  deriving DecidableEq, Repr

/-- The name of a level in a log. -/
def Level.name : Level → String
  | debug => "DEBUG"
  | info => "INFO"
  | warn => "WARN"

/-- Something worth reporting. -/
inductive Event where
  /-- A document with so many settings was loaded from a source. -/
  | loaded (count : Nat) (source : String)
  /-- A source gave no document. -/
  | loadFailed (source : String) (fault : Fault)
  /-- There is no file at a path. -/
  | openFailed (path : String) (fault : Fault)
  /-- So many bytes were read from a file. -/
  | fileRead (size : Nat) (path : String)
  /-- A setting was declared. -/
  | registered (key : Key) (kind : Kind)
  /-- A setting was declared before. -/
  | alreadyRegistered (key : Key) (kind : Kind)
  /-- A setting without a value was given its default. -/
  | defaultUsed (value : Value) (key : Key)
  /-- A fault made the configuration invalid. -/
  | invalidated (fault : Fault)
  deriving DecidableEq

namespace Event

/-- How much an event matters. -/
def level : Event → Level
  | loaded .. => .info
  | loadFailed .. | openFailed .. | alreadyRegistered .. | invalidated _ => .warn
  | fileRead .. | registered .. | defaultUsed .. => .debug

/-- What is said about an event. -/
def text : Event → String
  | loaded count source => s!"Loaded {count} configuration items from '{source}'"
  | loadFailed source fault => s!"Failed to load configuration from '{source}': {fault}"
  | openFailed path fault => s!"Cannot open configuration file '{path}': {fault}"
  | fileRead size path => s!"Read {size} bytes from '{path}'"
  | registered key kind => s!"Registered '{key}' as {kind}"
  | alreadyRegistered key kind => s!"'{key}' is already registered as {kind}"
  | defaultUsed value key => s!"Using default value '{value}' for '{key}'"
  | invalidated fault => s!"Invalid configuration: {fault}"

end Event

end TypedSettings
