import Requirements.KeyMap
import Requirements.Statement.Basic
import Requirements.Text.Quoted

/-!
# Pattern arguments

An argument of a pattern is a key and a value around the first `=`. A value may
stand between double quotes, of which the closing one may be missing, and may begin
with a step to the parent directory; neither is part of it. A later argument of a
key counts.
-/

namespace Requirements

/-- What is wrong with an argument. -/
inductive ArgFault where
  | noEquals
  | emptyKey
  | emptyValue
  deriving DecidableEq, Repr

/-- The words for a fault. -/
def ArgFault.message : ArgFault → String
  | .noEquals => "missing '='"
  | .emptyKey => "empty key"
  | .emptyValue => "empty value"

/-- Why a pattern makes no target. The package is named by its last name. -/
inductive PatternError where
  | emptyTarget (pattern package : String) (args : List String)
  | malformed (pattern package arg : String) (fault : ArgFault)
  deriving DecidableEq, Repr

/-- The error in words. -/
def PatternError.message : PatternError → String
  | .emptyTarget pattern package args =>
    "Empty " ++ pattern ++ " target name (package=" ++ package ++ ", args="
      ++ Text.quotedList args ++ ")"
  | .malformed pattern package arg fault =>
    "Malformed argument [" ++ arg ++ "] to " ++ pattern ++ " in package " ++ package ++ ": "
      ++ fault.message

/-- The arguments of a pattern by their keys. -/
abbrev PatternArgs := KeyMap String

namespace PatternArgs

/-- A value without its quotes. -/
def unquote : List Char → List Char
  | '"' :: inner => (Text.dropTail? ['"'] inner).getD inner
  | value => value

/-- A value without its quotes and then without one step to the parent directory. -/
def cleanValue (value : List Char) : List Char := Text.dropLead ['.', '.', '/'] (unquote value)

/-- The key and the value of an argument. -/
def split (arg : String) : Except ArgFault (String × String) :=
  let text := arg.toList
  let key := text.takeWhile (· != '=')
  match text.dropWhile (· != '=') with
  | [] => .error .noEquals
  | _ :: value =>
    if key.isEmpty then .error .emptyKey
    else if value.isEmpty then .error .emptyValue
    else .ok (.ofList key, .ofList (cleanValue value))

/-- Read arguments in order on top of those already read. -/
def readFrom (pattern package : String) (read : PatternArgs) :
    List String → Except PatternError PatternArgs
  | [] => .ok read
  | arg :: args =>
    match split arg with
    | .error fault => .error (.malformed pattern package arg fault)
    | .ok (key, value) => readFrom pattern package (read.insert key value) args

/-- The arguments of a pattern application in a package. -/
def read (package : String) (application : Application) : Except PatternError PatternArgs :=
  readFrom application.name package .empty application.args

/-- The value of a key, or the empty string. -/
def value (args : PatternArgs) (key : String) : String := (args.find? key).getD ""

end PatternArgs

end Requirements
