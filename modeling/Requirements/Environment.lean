/-!
# Environment variables

The variables that are set, with their values. A variable that is not set differs
from one that is empty.
-/

namespace Requirements

/-- The variables that are set. -/
structure Environment where
  entries : List (String × String) := []
  deriving DecidableEq, Repr

/-- The value of a variable, if it is set. -/
def Environment.value? (env : Environment) (name : String) : Option String :=
  env.entries.lookup name

end Requirements
