/-!
# Log records

What a run reports besides its answer, in the order in which it happens. Records
are values: the functions that compute them decide nothing else.
-/

namespace Requirements

/-- How much a record matters. -/
inductive Level where
  | debug
  | info
  | warn
  deriving DecidableEq, Repr

/-- The word for a level. -/
def Level.name : Level → String
  | .debug => "debug"
  | .info => "info"
  | .warn => "warn"

/-- One line of the log. -/
structure LogRecord where
  level : Level
  message : String
  deriving DecidableEq, Repr

namespace LogRecord

/-- A record for following a run step by step. -/
def debug (message : String) : LogRecord := ⟨.debug, message⟩

/-- A record of something done in an unusual way. -/
def info (message : String) : LogRecord := ⟨.info, message⟩

/-- A record of something that was probably not meant. -/
def warn (message : String) : LogRecord := ⟨.warn, message⟩

end LogRecord

end Requirements
