/-!
What the program reports about its own work.  An operation that reports anything returns its events
in order beside its result.
-/

namespace BuildScan

inductive LogLevel where
  | error
  | warn
  | info
  | debug
  deriving Repr, DecidableEq

structure LogEvent where
  level : LogLevel
  message : String
  deriving Repr, DecidableEq

abbrev Log := List LogEvent

def LogLevel.name : LogLevel → String
  | error => "ERROR"
  | warn => "WARN"
  | info => "INFO"
  | debug => "DEBUG"

/-- The event on one line: its level and its message. -/
def LogEvent.line (e : LogEvent) : String := e.level.name ++ " " ++ e.message

end BuildScan
