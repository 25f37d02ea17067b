import Requirements.Text.Piece
import Requirements.Toml.Scalar
import Requirements.Toml.Table

/-!
# TOML documents

A document is a sequence of entries and headers, each on its own lines. The entries
before the first header belong to the document itself, and the others to the table
of the header above them. Readers take the rest of the text and give what they read
together with the text after it, or nothing if the text is not as it should be.
-/

namespace Requirements.Toml

/-- The text after spaces and tabulations. -/
def dropGap (text : List Char) : List Char := text.dropWhile isGap

/-- The text after spaces, tabulations, line ends and comments. A comment goes on to
the end of its line. -/
def dropSpace : (inComment : Bool) → List Char → List Char
  | _, [] => []
  | true, c :: rest =>
    if c = '\n' then dropSpace false rest
    else if lineChars.contains c then dropSpace true rest
    else c :: rest
  | false, c :: rest =>
    if c = '#' then dropSpace true rest
    else if isGap c || c = '\n' then dropSpace false rest
    else c :: rest

/-- The text after what may stand at the end of a line: spaces, tabulations, a comment
and the line end. -/
def endLine? (text : List Char) : Option (List Char) :=
  let text := dropGap text
  let text := if text.head? = some '#' then text.dropWhile lineChars.contains else text
  match text with
  | [] => some []
  | c :: rest => if c = '\n' then some rest else none

/-- Read one or more items with a separator between them. -/
def series {α : Type} (item : List Char → Option (α × List Char)) (separator : Char)
    (text : List Char) : Option (List α × List Char) :=
  match item text with
  | none => none
  | some (first, []) => some ([first], [])
  | some (first, c :: rest) =>
    if c = separator then
      if rest.length < text.length then
        (series item separator rest).map fun (items, after) => (first :: items, after)
      else none
    else some ([first], c :: rest)
termination_by text.length

/-- Whether a character may stand in an unquoted key. -/
def isKeyChar (c : Char) : Bool := c.isAlphanum || c = '_' || c = '-'

/-- Read one part of a key and the blanks around it. -/
def keyPart? (text : List Char) : Option (String × List Char) :=
  let text := dropGap text
  match Quoted.readLine? text with
  | some (part, rest) => some (part, dropGap rest)
  | none =>
    let part := text.takeWhile isKeyChar
    if part.isEmpty then none else some (.ofList part, dropGap (text.dropWhile isKeyChar))

/-- How deep one place may lie: the number of brackets open around it, and the number
of parts of a key. -/
def depthLimit : Nat := 79

/-- Read a key, whose parts are separated by dots. -/
def key? (text : List Char) : Option (KeyPath × List Char) := do
  let (parts, rest) ← series keyPart? '.' text
  if parts.length ≤ depthLimit then return (⟨parts.dropLast, ← parts.getLast?⟩, rest)
  else none

/-- Read a key, an equals sign and a value, with the blanks after it. -/
def assignment? (value : List Char → Option (Value × List Char)) (text : List Char) :
    Option ((KeyPath × Value) × List Char) := do
  let (key, rest) ← key? text
  let rest ← Scalar.mark? ['='] rest
  let (value, rest) ← value (dropGap rest)
  return ((key, value), dropGap rest)

/-- Read the items of an array and the closing bracket. A comma may follow the last. -/
def items? (value : List Char → Option (Value × List Char)) (text : List Char) :
    Option (List Value × List Char) :=
  match dropSpace false text with
  | ']' :: rest => some ([], rest)
  | start =>
    match value start with
    | none => none
    | some (item, rest) =>
      match dropSpace false rest with
      | ']' :: rest => some ([item], rest)
      | ',' :: rest =>
        if rest.length < text.length then
          (items? value rest).map fun (items, after) => (item :: items, after)
        else none
      | _ => none
termination_by text.length

/-- Read the fields of a table in braces and the closing brace. They stand on one line
and no comma follows the last. -/
def braced? (value : List Char → Option (Value × List Char)) (text : List Char) :
    Option (Value × List Char) :=
  match dropGap text with
  | '\x7d' :: rest => some (.table [], rest)
  | start => do
    let (entries, rest) ← series (assignment? value) ',' start
    let rest ← Scalar.mark? ['\x7d'] rest
    return (.table (Fields.freeze (← Fields.fill entries [])), rest)

/-- Read a value with at most `depth` brackets open around one place. -/
def value? : (depth : Nat) → List Char → Option (Value × List Char)
  | 0, text => plain text
  | depth + 1, text =>
    match text with
    | '[' :: rest => (items? (value? depth) rest).map fun (items, after) => (.array items, after)
    | '\x7b' :: rest => braced? (value? depth) rest
    | text => plain text
where
  /-- Read a string or another scalar. -/
  plain (text : List Char) : Option (Value × List Char) :=
    match Quoted.read? text with
    | some (string, rest) => some (.text string, rest)
    | none => Scalar.read? text

/-- A header, or an entry of the table that the last header names. -/
inductive Clause where
  | table (path : KeyPath)
  | row (path : KeyPath)
  | entry (path : KeyPath) (value : Value)

/-- Read a header or an entry up to the end of its line. -/
def clause? (text : List Char) : Option (Clause × List Char) :=
  match text with
  | '[' :: '[' :: rest => do
    let (path, rest) ← key? rest
    let rest ← endLine? (← Scalar.mark? [']'] (← Scalar.mark? [']'] rest))
    return (.row path, rest)
  | '[' :: rest => do
    let (path, rest) ← key? rest
    let rest ← endLine? (← Scalar.mark? [']'] rest)
    return (.table path, rest)
  | text => do
    let ((path, value), rest) ← assignment? (value? depthLimit) text
    return (.entry path value, ← endLine? rest)

/-- Read the headers and entries of a text. -/
def clauses? (text : List Char) : Option (List Clause) :=
  match dropSpace false text with
  | [] => some []
  | start =>
    match clause? start with
    | none => none
    | some (clause, rest) =>
      if rest.length < text.length then (clauses? rest).map (clause :: ·) else none
termination_by text.length

/-- The entries up to the next header. -/
def entriesOf : List Clause → List (KeyPath × Value)
  | .entry path value :: clauses => (path, value) :: entriesOf clauses
  | _ => []

/-- Add what the headers of a list and the entries below each of them say. -/
def build : List Clause → Fields → Option Fields
  | [], fields => some fields
  | .entry _ _ :: clauses, fields => build clauses fields
  | .table path :: clauses, fields => do
    build clauses (← fields.declare path (entriesOf clauses))
  | .row path :: clauses, fields => do
    build clauses (← fields.append path (entriesOf clauses))

/-- Read a document: the fields of its outermost table. A byte order mark may stand
in front, and a carriage return counts as part of the line end that follows it. -/
def read? (source : String) : Option (List (String × Value)) := do
  let text := Text.replaceAll ['\r', '\n'] ['\n'] (Text.dropLead ['\uFEFF'] source.toList)
  let clauses ← clauses? text
  let root ← Fields.fill (entriesOf clauses) []
  return Fields.freeze (← build clauses root)

end Requirements.Toml
