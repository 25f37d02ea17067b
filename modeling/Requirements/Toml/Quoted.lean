import Requirements.Text.Class

/-!
# Quoted TOML strings

A string stands between double quotes, which admit escapes, or between single
quotes, which admit none. One quote on each side encloses a string on one line;
three enclose a block that may hold line feeds, and a line feed right after the
opening quotes does not belong to it. Up to two quotes may stand directly before
those that close a block. A string is read in two steps: first it is cut out, then
its escapes are replaced. Line breaks are single line feeds here.
-/

namespace Requirements.Toml

/-- The characters that may stand in a comment or unescaped on a line of a string:
tabulation and everything that is not a control character. -/
def lineChars : Text.CharClass := [(0x09, 0x09), (0x20, 0x7E), (0x80, 0x10FFFF)]

/-- Whether a character is a space or a tabulation. -/
def isGap (c : Char) : Bool := c = ' ' || c = '\t'

namespace Quoted

/-- The two ways to enclose a string. -/
inductive Extent where
  | line
  | block
  deriving DecidableEq, Repr

/-- Whether a character may stand in a string. -/
def Extent.admits : Extent → Char → Bool
  | .line, c => lineChars.contains c
  | .block, c => lineChars.contains c || c = '\n'

/-- Whether the characters between these quotes are read for escapes. -/
def hasEscapes (quote : Char) : Bool := quote = '"'

/-- If a text starts with the quotes that close a string: the quotes that still
belong to the string, and the text after it. -/
def closing? (quote : Char) : Extent → List Char → Option (List Char × List Char)
  | .line, text => if text.head? = some quote then some ([], text.tail) else none
  | .block, text =>
    let run := (text.takeWhile (· = quote)).length
    if 3 ≤ run then some (List.replicate (min (run - 3) 2) quote, text.drop (min run 5))
    else none

/-- Cut out a string after its opening quotes: what it holds, and the text after the
closing ones. A character that an escape takes with it, which `escaped` tells, closes
nothing. -/
def cut (quote : Char) (extent : Extent) : Bool → List Char → Option (List Char × List Char)
  | _, [] => none
  | escaped, c :: rest =>
    match if escaped then none else closing? quote extent (c :: rest) with
    | some closed => some closed
    | none =>
      if extent.admits c then
        (cut quote extent (!escaped && hasEscapes quote && c = '\\') rest).map
          fun (held, after) => (c :: held, after)
      else none

/-- The character that a letter after a backslash stands for. -/
def escapes : List (Char × Char) :=
  [('b', '\x08'), ('t', '\t'), ('n', '\n'), ('f', '\x0c'), ('r', '\r'), ('"', '"'), ('\\', '\\')]

/-- The number of hexadecimal digits of a code point after a letter. -/
def codeDigits : List (Char × Nat) := [('u', 4), ('U', 8)]

/-- The value of a digit in one of the bases up to sixteen. -/
def digit? (base : Nat) (c : Char) : Option Nat :=
  let value? :=
    if '0' ≤ c ∧ c ≤ '9' then some (c.toNat - '0'.toNat)
    else if 'a' ≤ c ∧ c ≤ 'f' then some (c.toNat - 'a'.toNat + 10)
    else if 'A' ≤ c ∧ c ≤ 'F' then some (c.toNat - 'A'.toNat + 10)
    else none
  value?.filter (· < base)

/-- The character of a code point, unless it is none. -/
def char? (code : Nat) : Option Char := if code.isValidChar then some (Char.ofNat code) else none

/-- Where a reader of escapes stands: outside all of them, after a backslash, inside
a code point with digits still owed, or among the blanks that an escaped line end
takes with it, of which the line end itself may still be to come. -/
inductive State where
  | plain
  | escaped
  | code (owed bits : Nat)
  | joining (seenLineEnd : Bool)
  deriving DecidableEq, Repr

/-- Replace the escapes of a string. A backslash at the end of a line removes the
line end and all blanks and line ends after it. -/
def unescape : State → List Char → Option (List Char)
  | .plain, [] => some []
  | .joining true, [] => some []
  | _, [] => none
  | .plain, c :: rest =>
    if c = '\\' then unescape .escaped rest else (unescape .plain rest).map (c :: ·)
  | .escaped, c :: rest =>
    match escapes.lookup c, codeDigits.lookup c with
    | some d, _ => (unescape .plain rest).map (d :: ·)
    | none, some owed => unescape (.code owed 0) rest
    | none, none =>
      if c = '\n' then unescape (.joining true) rest
      else if isGap c then unescape (.joining false) rest
      else none
  | .code owed bits, c :: rest =>
    match digit? 16 c with
    | none => none
    | some d =>
      if owed ≤ 1 then
        match char? (bits * 16 + d) with
        | none => none
        | some char => (unescape .plain rest).map (char :: ·)
      else unescape (.code (owed - 1) (bits * 16 + d)) rest
  | .joining seen, c :: rest =>
    if c = '\n' then unescape (.joining true) rest
    else if isGap c then unescape (.joining seen) rest
    else if !seen then none
    else if c = '\\' then unescape .escaped rest
    else (unescape .plain rest).map (c :: ·)

/-- A backslash at the end of a line joins what follows the blanks behind it. -/
example : unescape .plain ['a', '\\', ' ', '\n', '\n', ' ', 'b'] = some ['a', 'b'] := by
  decide

/-- Read a string after its opening quotes, and give the text after it. -/
def readAfter (quote : Char) (extent : Extent) (text : List Char) :
    Option (String × List Char) := do
  let (held, after) ← cut quote extent false text
  let chars ← if hasEscapes quote then unescape .plain held else some held
  return (.ofList chars, after)

/-- Read a string on one line, if the text starts with a quote. -/
def readLine? : List Char → Option (String × List Char)
  | c :: rest => if c = '"' ∨ c = '\'' then readAfter c .line rest else none
  | [] => none

/-- Read a string of either extent, if the text starts with a quote. -/
def read? : List Char → Option (String × List Char)
  | c :: d :: e :: rest =>
    if (c = '"' ∨ c = '\'') ∧ d = c ∧ e = c then
      readAfter c .block (if rest.head? = some '\n' then rest.tail else rest)
    else readLine? (c :: d :: e :: rest)
  | text => readLine? text

end Quoted

end Requirements.Toml
