import Requirements.Toml.Quoted
import Requirements.Toml.Value

/-!
# Unquoted TOML scalars

Outside quotes a scalar is one word. It is a boolean, a whole number, a float, or a
date, a time of day or both; a date and a time may also be two words with a single
space between them. In numbers an underscore may stand between two digits.
-/

namespace Requirements.Toml

namespace Scalar

/-- The digits of a number without the underscores between them. -/
def digits? (base : Nat) (text : List Char) : Option (List Nat) := do
  let groups ← (text.splitOn '_').mapM fun group => group.mapM (Quoted.digit? base)
  if groups.any List.isEmpty then none else some groups.flatten

/-- The number that digits spell. -/
def ofDigits (base : Nat) (digits : List Nat) : Nat :=
  digits.foldl (fun number digit => number * base + digit) 0

/-- The digits of a decimal number, which has no needless zero in front. -/
def decimal? (text : List Char) : Option (List Nat) := do
  let digits ← digits? 10 text
  if digits.head? = some 0 ∧ text ≠ ['0'] then none else some digits

/-- The largest whole number. The smallest is one more below zero. -/
def integerLimit : Nat := 0x7FFFFFFFFFFFFFFF

/-- Whether a character is a sign. -/
def isSign (c : Char) : Bool := c = '+' || c = '-'

/-- A text without one sign in front. -/
def unsigned (text : List Char) : List Char :=
  match text with
  | c :: rest => if isSign c then rest else text
  | [] => []

/-- The whole number that a word is: decimal with an optional sign, or without one in
base sixteen, eight or two. -/
def integer? (word : List Char) : Option Int :=
  match word with
  | '0' :: 'x' :: rest => inBase 16 rest
  | '0' :: 'o' :: rest => inBase 8 rest
  | '0' :: 'b' :: rest => inBase 2 rest
  | _ => do
    let number := ofDigits 10 (← decimal? (unsigned word))
    if word.head? = some '-' then
      if number ≤ integerLimit + 1 then some (-(number : Int)) else none
    else if number ≤ integerLimit then some number
    else none
where
  /-- The number that digits of another base are. -/
  inBase (base : Nat) (text : List Char) : Option Int := do
    let number := ofDigits base (← digits? base text)
    if number ≤ integerLimit then some number else none

/-- A number without sign in decimal notation: the digits before and after the point,
and the power of ten that they are multiplied by. -/
structure Decimal where
  whole : List Nat
  fraction : List Nat := []
  exponent : Int := 0
  deriving DecidableEq

namespace Decimal

/-- The decimal number that a word with a fraction, an exponent or both is. -/
def ofWord? (word : List Char) : Option Decimal :=
  match word.splitOnP fun c => c = 'e' || c = 'E' with
  | [mantissa] =>
    match mantissa.splitOn '.' with
    | [whole, fraction] => do
      return { whole := ← decimal? whole, fraction := ← digits? 10 fraction }
    | _ => none
  | [mantissa, power] => do
    let size := ofDigits 10 (← digits? 10 (unsigned power))
    let exponent : Int := if power.head? = some '-' then -size else size
    match mantissa.splitOn '.' with
    | [whole] => return { whole := ← decimal? whole, exponent }
    | [whole, fraction] =>
      return { whole := ← decimal? whole, fraction := ← digits? 10 fraction, exponent }
    | _ => none
  | _ => none

/-- The least number that rounds to infinity: half a unit above the largest float,
which is one of 53 binary digits. -/
def infinityFrom : Nat := 0x3FFFFFFFFFFFFF <<< 970

/-- The number of decimal digits of `infinityFrom`. -/
def infinityDigits : Nat := 309

/-- Whether a number rounds to infinity. What stands behind the point cannot matter, as
the limit is a whole number, and no number of more digits before it lies below. -/
def isInfinite (number : Decimal) : Bool :=
  let digits := (number.whole ++ number.fraction).dropWhile (· = 0)
  let places := (digits.length - number.fraction.length + number.exponent : Int).toNat
  !digits.isEmpty &&
    (infinityDigits < places ||
      infinityFrom ≤ ofDigits 10 ((digits.rightpad places 0).take places))

end Decimal

/-- Whether a word is a float: infinity, no number, or a decimal number with a
fraction, an exponent or both. One above zero must not round to infinity. -/
def isFloat (word : List Char) : Bool :=
  let body := unsigned word
  body = ['i', 'n', 'f'] || body = ['n', 'a', 'n'] ||
    (Decimal.ofWord? body).any fun number => word.head? = some '-' || !number.isInfinite

/-- A number that is too large is refused above zero only. -/
example : isFloat ['1', 'e', '3', '0', '9'] = false ∧
    isFloat ['-', '1', 'e', '3', '0', '9'] = true := by
  decide

/-- Read a number of exactly `count` decimal digits within bounds. -/
def field? (count low high : Nat) (text : List Char) : Option (Nat × List Char) := do
  let digits ← (text.take count).mapM (Quoted.digit? 10)
  let number := ofDigits 10 digits
  if digits.length = count ∧ low ≤ number ∧ number ≤ high then
    some (number, text.drop count)
  else none

/-- Read one of some characters. -/
def mark? (marks : List Char) : List Char → Option (List Char)
  | c :: rest => if c ∈ marks then some rest else none
  | [] => none

/-- The number of days of a month. -/
def daysOf (year month : Nat) : Nat :=
  if month = 2 then
    if year % 4 = 0 ∧ (year % 100 ≠ 0 ∨ year % 400 = 0) then 29 else 28
  else if month ∈ [4, 6, 9, 11] then 30
  else 31

/-- Read a date. -/
def date? (text : List Char) : Option (List Char) := do
  let (year, rest) ← field? 4 0 9999 text
  let (month, rest) ← field? 2 1 12 (← mark? ['-'] rest)
  let (_, rest) ← field? 2 1 (daysOf year month) (← mark? ['-'] rest)
  return rest

/-- Read hours and minutes. -/
def clock? (text : List Char) : Option (List Char) := do
  let (_, rest) ← field? 2 0 23 text
  let (_, rest) ← field? 2 0 59 (← mark? [':'] rest)
  return rest

/-- Read a time of day. A minute may have a leap second. -/
def time? (text : List Char) : Option (List Char) := do
  let (_, rest) ← field? 2 0 60 (← mark? [':'] (← clock? text))
  match mark? ['.'] rest with
  | none => return rest
  | some fraction =>
    if (fraction.head?.bind (Quoted.digit? 10)).isSome then
      return fraction.dropWhile fun c => (Quoted.digit? 10 c).isSome
    else none

/-- Whether a text is an offset from universal time. -/
def isOffset (text : List Char) : Bool :=
  match text with
  | [c] => c = 'Z' || c = 'z'
  | c :: rest => isSign c && clock? rest = some []
  | [] => false

/-- Whether a word is a time of day that may follow a date. -/
def isTimeOfDate (word : List Char) : Bool :=
  match time? word with
  | none => false
  | some rest => rest.isEmpty || isOffset rest

/-- Whether a word is a date, a time of day, or a date and a time with a `T` between. -/
def isMoment (word : List Char) : Bool :=
  match date? word with
  | some [] => true
  | some rest => (mark? ['T', 't'] rest).any isTimeOfDate
  | none => time? word = some []

/-- The scalar that a word is. -/
def ofWord? (word : List Char) : Option Value :=
  match integer? word with
  | some number => some (.integer number)
  | none =>
    if word = "true".toList || word = "false".toList || isFloat word || isMoment word then
      some (.scalar (.ofList word))
    else none

/-- Whether a character may stand in a word. -/
def isWordChar (c : Char) : Bool := c.isAlphanum || c ∈ ['_', '+', '-', '.', ':']

/-- Read an unquoted scalar, and give the text after it. -/
def read? (text : List Char) : Option (Value × List Char) := do
  let word := text.takeWhile isWordChar
  let rest := text.dropWhile isWordChar
  let value ← ofWord? word
  match rest with
  | ' ' :: more =>
    let second := more.takeWhile isWordChar
    if date? word = some [] ∧ isTimeOfDate second then
      return (.scalar (.ofList (word ++ ' ' :: second)), more.dropWhile isWordChar)
    else return (value, rest)
  | _ => return (value, rest)

end Scalar

end Requirements.Toml
