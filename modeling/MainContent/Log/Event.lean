/-!
# Log events

What the service reports about itself while it works, as data: an event has a level, the part of
the service that it comes from, a message, and named values.
-/

namespace MainContent.Log

/-- How important an event is, the most important first. -/
inductive Level where
  | error
  | warn
  | info
  | debug
  | trace
  deriving DecidableEq, Repr

/-- The name of a level. -/
def Level.name : Level → String
  | .error => "ERROR"
  | .warn => "WARN"
  | .info => "INFO"
  | .debug => "DEBUG"
  | .trace => "TRACE"

/-- The rank of a level: a level is at least as important as those of a higher rank. -/
def Level.rank : Level → Nat
  | .error => 1
  | .warn => 2
  | .info => 3
  | .debug => 4
  | .trace => 5

/-- One thing that the service reports. -/
structure Event where
  /-- How important it is. -/
  level : Level
  /-- The part of the service that reports it. -/
  target : String
  /-- What it says. -/
  message : String
  /-- The values that belong to it, by name. -/
  fields : List (String × String) := []
  deriving DecidableEq, Repr

end MainContent.Log
