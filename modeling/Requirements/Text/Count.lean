/-!
# Counts

A count is written in decimal digits, with at most a plus sign in front. It is read
digit by digit, and the first character at which reading cannot go on decides what is
wrong.
-/

namespace Requirements.Text

/-- Why a text is no count. -/
inductive CountFault where
  | empty
  | notDigit
  | tooLarge
  deriving DecidableEq, Repr

/-- The words for a fault. -/
def CountFault.message : CountFault → String
  | .empty => "cannot parse integer from empty string"
  | .notDigit => "invalid digit found in string"
  | .tooLarge => "number too large to fit in target type"

/-- The largest count. -/
def countLimit : Nat := 0xFFFFFFFFFFFFFFFF

/-- Read digits on after the number that those before them spell. -/
def readDigits (number : Nat) : List Char → Except CountFault Nat
  | [] => .ok number
  | c :: rest =>
    if c.isDigit then
      let number := number * 10 + (c.toNat - '0'.toNat)
      if countLimit < number then .error .tooLarge else readDigits number rest
    else .error .notDigit

/-- The count that a text spells. -/
def readCount : List Char → Except CountFault Nat
  | [] => .error .empty
  | ['+'] => .error .notDigit
  | '+' :: digits => readDigits 0 digits
  | digits => readDigits 0 digits

end Requirements.Text
