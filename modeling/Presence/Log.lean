/-!
# The log

The records that a session writes while it works, each with the spans that enclose it.
-/

namespace Presence

/-- How much a log record matters. -/
inductive LogLevel where
  | trace
  | debug
  | warn
deriving DecidableEq, Inhabited

namespace LogLevel

/-- The levels by rising importance. -/
def rank : LogLevel → Nat
  | .trace => 0
  | .debug => 1
  | .warn => 2

/-- The printed name of a level. -/
def label : LogLevel → String
  | .trace => "TRACE"
  | .debug => "DEBUG"
  | .warn => "WARN"

end LogLevel

/-- The named values that a record or a span carries, as text. -/
abbrev LogFields := List (String × String)

/-- A piece of work that log records can belong to. -/
structure LogSpan where
  name : String
  fields : LogFields
deriving DecidableEq, Inhabited

/-- A log record. -/
structure LogRecord where
  level : LogLevel
  message : String
  fields : LogFields := []
  /-- The work during which it happened, the outermost piece first. -/
  spans : List LogSpan := []
deriving DecidableEq, Inhabited

end Presence
