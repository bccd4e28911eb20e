import EnvInject.Environment
import EnvInject.Log.Event

/-!
# Log libraries

Which events are logged is up to a filter, and what their lines look like is up to a library, which
reads the filter as well. `Library` is all that a program sees of one.
-/

namespace EnvInject.Log

/-- A log library. -/
structure Library where
  /-- The events that a filter lets pass; none if the text is no filter. -/
  filter? : String → Option (Event → Bool)
  /-- The events that a text lets pass as a filter, as far as it is one. -/
  filter : String → Event → Bool
  /-- The line for an event at some time, in a process with these variables. -/
  line : Variables → (timestamp : String) → Event → String

/-- The level that repeated requests for more detail stand for. -/
def levelOfVerbosity : Nat → Level
  | 0 => .warn
  | 1 => .debug
  | _ => .trace

/-- The filter that repeated requests for more detail stand for. -/
def directiveOfVerbosity (verbosity : Nat) : String :=
  (levelOfVerbosity verbosity).word

end EnvInject.Log
