/-!
Log records. What a run logs is part of its result.
-/

set_option autoImplicit false

namespace WorkerAdvisor

/-- How important a log record is. -/
inductive LogLevel
  | debug
  | info
  deriving DecidableEq, Repr

def LogLevel.name : LogLevel → String
  | debug => "DEBUG"
  | info => "INFO"

structure LogRecord where
  level : LogLevel
  text : String
  deriving DecidableEq, Repr

end WorkerAdvisor
