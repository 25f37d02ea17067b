import Requirements.Toml.Value

/-!
# Tables in the making

A table grows entry by entry, and how it came to be decides what may still be added.
A table with a header of its own, or in braces, is declared. One that only stands
above a header is implied, and a header may declare it later. One that a dotted key
passes through is dotted, and only dotted keys add entries to it. No key is given
twice, and an array of tables grows at its end.
-/

namespace Requirements.Toml

/-- How a table came to be. -/
inductive Origin where
  | declared
  | implied
  | dotted
  deriving DecidableEq, Repr

/-- What a key of a growing table leads to: a finished value, a table, or an array of
tables, of which the last one may still grow and is listed first. -/
inductive Node where
  | value (value : Value)
  | table (origin : Origin) (fields : List (String × Node))
  | rows (last : List (String × Node)) (earlier : List (List (String × Node)))

/-- The entries of a growing table. -/
abbrev Fields := List (String × Node)

/-- A key with dots: the keys of the tables that it passes through, and the key in
the last of them. -/
structure KeyPath where
  above : List String
  last : String
  deriving DecidableEq, Repr

namespace Fields

/-- Replace what a key leads to, or add the key at the end. -/
def put (key : String) (node : Node) : Fields → Fields
  | [] => [(key, node)]
  | (k, n) :: fields => if k = key then (key, node) :: fields else (k, n) :: put key node fields

/-- Change the table at the end of a path, and build the tables that are missing on
the way. A dotted key passes no declared table. -/
def alter (dotted : Bool) (change : Origin → Fields → Option Fields) :
    List String → Origin → Fields → Option Fields
  | [], origin, fields => change origin fields
  | key :: path, _, fields =>
    match fields.lookup key with
    | none => do
      let origin := if dotted then Origin.dotted else .implied
      return fields.put key (.table origin (← alter dotted change path origin []))
    | some (.value _) => none
    | some (.table origin inner) =>
      if dotted ∧ origin = .declared then none
      else do return fields.put key (.table origin (← alter dotted change path origin inner))
    | some (.rows last earlier) => do
      return fields.put key (.rows (← alter dotted change path .declared last) earlier)

/-- Add a key that must be new. -/
def add (key : String) (value : Value) (fields : Fields) : Option Fields :=
  match fields.lookup key with
  | none => some (fields.put key (.value value))
  | some _ => none

/-- Give a key of a declared table its value. -/
def assign (path : KeyPath) (value : Value) : Fields → Option Fields :=
  alter true
    (fun origin fields =>
      if path.above = [] ∨ origin = .dotted then add path.last value fields else none)
    path.above .declared

/-- Fill the table of a key by entries. -/
def fill (entries : List (KeyPath × Value)) (fields : Fields) : Option Fields :=
  entries.foldlM (fun fields (path, value) => assign path value fields) fields

/-- Declare a table and fill it. -/
def declare (path : KeyPath) (entries : List (KeyPath × Value)) : Fields → Option Fields :=
  alter false
    (fun _ fields =>
      match fields.lookup path.last with
      | none => (fill entries []).map fun inner => fields.put path.last (.table .declared inner)
      | some (.table .implied inner) =>
        (fill entries inner).map fun inner => fields.put path.last (.table .declared inner)
      | some _ => none)
    path.above .declared

/-- Append a table to an array of tables and fill it. -/
def append (path : KeyPath) (entries : List (KeyPath × Value)) : Fields → Option Fields :=
  alter false
    (fun _ fields =>
      match fields.lookup path.last with
      | none => (fill entries []).map fun inner => fields.put path.last (.rows inner [])
      | some (.rows last earlier) =>
        (fill entries []).map fun inner => fields.put path.last (.rows inner (last :: earlier))
      | some _ => none)
    path.above .declared

mutual

/-- The value of a node that grows no more. -/
def freezeNode : Node → Value
  | .value value => value
  | .table _ fields => .table (freeze fields)
  | .rows last earlier => .array (.table (freeze last) :: freezeRows earlier).reverse

/-- The fields of a table that grows no more. -/
def freeze : Fields → List (String × Value)
  | [] => []
  | (key, node) :: fields => (key, freezeNode node) :: freeze fields

/-- The earlier tables of an array, from its end. -/
def freezeRows : List Fields → List Value
  | [] => []
  | fields :: earlier => .table (freeze fields) :: freezeRows earlier

end

end Fields

end Requirements.Toml
