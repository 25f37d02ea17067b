import Requirements.Environment
import Requirements.Text.Piece

/-!
# Styled text for terminals

A style is put around a text by escape sequences, and only if colours are wanted.
After a sequence inside the text that ends all styles, the style begins again.
-/

namespace Requirements.Command

/-- The colours that are used. -/
inductive Colour where
  | red
  | green
  | yellow
  deriving DecidableEq, Repr

/-- The number of a colour in an escape sequence. -/
def Colour.code : Colour → String
  | .red => "31"
  | .green => "32"
  | .yellow => "33"

/-- How a text looks. -/
inductive Style where
  | plain
  | bold
  | dim
  | colour (c : Colour)
  | boldColour (c : Colour)
  deriving DecidableEq, Repr

namespace Style

/-- The numbers of a style in an escape sequence. -/
def code? : Style → Option String
  | .plain => none
  | .bold => some "1"
  | .dim => some "2"
  | .colour c => some c.code
  | .boldColour c => some ("1;" ++ c.code)

/-- The escape sequence with given numbers. -/
def sequence (code : String) : String := "\x1b[" ++ code ++ "m"

/-- The escape sequence that ends all styles. -/
def reset : String := sequence "0"

/-- A text in a style, if colours are wanted. -/
def apply (style : Style) (colours : Bool) (text : String) : String :=
  match style.code?, colours with
  | some code, true =>
    let start := sequence code
    let again := (reset ++ start).toList
    start ++ .ofList (Text.replaceAll reset.toList again text.toList) ++ reset
  | _, _ => text

end Style

/-- The values of a switch variable that mean no. -/
def denials : List String := ["", "n", "no", "f", "false", "off", "0"]

/-- Whether a variable is set to a value that does not mean no, in any case of letters. -/
def isAffirmed (env : Environment) (name : String) : Bool :=
  (env.value? name).any fun value => value.toLower ∉ denials

/-- Whether colours are wanted on a standard output that is or is not a terminal. They
are if they are forced; otherwise they need a terminal and must not be turned off. -/
def wantsColours (env : Environment) (terminal : Bool) : Bool :=
  if (env.value? "CLICOLOR_FORCE").any (· ≠ "0") then true
  else if (env.value? "NO_COLOR").isSome then false
  else terminal && env.value? "CLICOLOR" ≠ some "0"

end Requirements.Command
