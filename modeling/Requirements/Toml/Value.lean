/-!
# TOML values

A document is read for its strings, whole numbers, arrays and tables. The other
scalars, which are booleans, floats and dates, are checked and kept as they are
written.
-/

namespace Requirements.Toml

/-- A value. The fields of a table have different keys. -/
inductive Value where
  | text (value : String)
  | integer (value : Int)
  | scalar (written : String)
  | array (items : List Value)
  | table (fields : List (String × Value))

namespace Value

/-- The string that a value is. -/
def text? : Value → Option String
  | .text value => some value
  | _ => none

/-- The whole number, not below zero, that a value is. -/
def count? : Value → Option Nat
  | .integer (.ofNat value) => some value
  | _ => none

/-- The items of an array. -/
def items? : Value → Option (List Value)
  | .array items => some items
  | _ => none

/-- The fields of a table. -/
def fields? : Value → Option (List (String × Value))
  | .table fields => some fields
  | _ => none

/-- The strings of an array that holds nothing else. -/
def texts? (value : Value) : Option (List String) := do (← value.items?).mapM text?

end Value

end Requirements.Toml
