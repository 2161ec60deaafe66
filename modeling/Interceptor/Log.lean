/-
# Interceptor.Log — what is logged

A record is a message about one exchange with its named values. A line is a
message of the program itself, with the name of the part that it comes from.
-/

namespace Interceptor

set_option autoImplicit false

/-- How much a log line matters. -/
inductive LogLevel
  | error
  | warn
  | info
  | debug
  | trace
  deriving DecidableEq, Repr

namespace LogLevel

def text : LogLevel → String
  | .error => "ERROR"
  | .warn => "WARN"
  | .info => "INFO"
  | .debug => "DEBUG"
  | .trace => "TRACE"

/-- How talkative a log has to be to show lines of a level. -/
def verbosity : LogLevel → Nat
  | .error => 1
  | .warn => 2
  | .info => 3
  | .debug => 4
  | .trace => 5

end LogLevel

/-- A log line with its named values. -/
structure LogRecord where
  level : LogLevel
  message : String
  fields : List (String × String) := []
  deriving DecidableEq, Repr

/-- A log line of the program. -/
structure LogLine where
  level : LogLevel
  /-- The part of the program that it comes from. -/
  target : String
  message : String
  deriving DecidableEq, Repr

/-- How log lines are written. -/
inductive LogFormat
  | text
  | json
  deriving DecidableEq, Repr

end Interceptor
