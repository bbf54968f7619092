import Replica.Dict
import Replica.Json

/-!
# Lines of a log

What a component has to tell is an event of its own type; a line is the common form of such events:
a level, a fixed message, and named values.
-/

namespace Replica

/-- How much a line matters. -/
inductive LogLevel where
  | debug
  | info
  | warning
  | error
  deriving DecidableEq, Repr

/-- The name of a level in a log. -/
def LogLevel.name : LogLevel → String
  | debug => "DEBUG"
  | info => "INFO"
  | warning => "WARN"
  | error => "ERROR"

/-- A line of a log. -/
structure LogLine where
  level : LogLevel
  message : String
  fields : Dict Json

/-- The line with these fields. -/
def logLine (level : LogLevel) (message : String) (fields : List (String × Json)) : LogLine :=
  ⟨level, message, Dict.ofList fields⟩

end Replica
