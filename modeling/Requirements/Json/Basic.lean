/-!
# JSON values and their layout

Objects keep the order of their fields. In the laid-out form each item of an array
and each field of an object has its own line, two spaces further in than the
bracket that holds it; an empty array or object stays on one line. In a string
only the double quote, the backslash and the characters below U+0020 are escaped.
-/

namespace Requirements

/-- A JSON value. Numbers are natural numbers, which are all that is ever written. -/
inductive Json where
  | null
  | bool (value : Bool)
  | number (value : Nat)
  | text (value : String)
  | array (items : List Json)
  | object (fields : List (String × Json))

namespace Json

/-- An array of strings. -/
def texts (items : List String) : Json := .array (items.map .text)

/-- A string, or null where there is none. -/
def text? : Option String → Json
  | none => .null
  | some value => .text value

/-- A character as it stands in a JSON string. -/
def escapeChar (c : Char) : List Char :=
  if c = '"' then ['\\', '"']
  else if c = '\\' then ['\\', '\\']
  else if c = '\x08' then ['\\', 'b']
  else if c = '\t' then ['\\', 't']
  else if c = '\n' then ['\\', 'n']
  else if c = '\x0c' then ['\\', 'f']
  else if c = '\r' then ['\\', 'r']
  else if c.toNat < 0x20 then
    ['\\', 'u', '0', '0', Nat.digitChar (c.toNat / 16), Nat.digitChar (c.toNat % 16)]
  else [c]

/-- A string between double quotes. -/
def escape (value : String) : String :=
  .ofList ('"' :: value.toList.flatMap escapeChar ++ ['"'])

/-- The start of a line at a depth. -/
def indent (depth : Nat) : String := "\n" ++ .ofList (List.replicate (2 * depth) ' ')

mutual

/-- A value laid out over lines, at the depth of the bracket that holds it. -/
def layout (depth : Nat) : Json → String
  | .null => "null"
  | .bool true => "true"
  | .bool false => "false"
  | .number value => Nat.repr value
  | .text value => escape value
  | .array [] => "[]"
  | .array (item :: items) =>
    "[" ++ indent (depth + 1) ++ layout (depth + 1) item ++ layoutItems (depth + 1) items
      ++ indent depth ++ "]"
  | .object [] => "\x7b\x7d"
  | .object ((key, value) :: fields) =>
    "\x7b" ++ indent (depth + 1) ++ escape key ++ ": " ++ layout (depth + 1) value
      ++ layoutFields (depth + 1) fields ++ indent depth ++ "\x7d"

/-- The items of an array after the first. -/
def layoutItems (depth : Nat) : List Json → String
  | [] => ""
  | item :: items => "," ++ indent depth ++ layout depth item ++ layoutItems depth items

/-- The fields of an object after the first. -/
def layoutFields (depth : Nat) : List (String × Json) → String
  | [] => ""
  | (key, value) :: fields =>
    "," ++ indent depth ++ escape key ++ ": " ++ layout depth value ++ layoutFields depth fields

end

/-- A value laid out over lines. -/
def pretty (value : Json) : String := layout 0 value

end Json

end Requirements
