import Requirements.FileTree.Basic
import Requirements.Statement.Reader

/-!
# Faults in requirements files

A file cannot be read at all, or one of its lines has a fault. The fault of a line
is reported with the number of the physical line on which it starts.
-/

namespace Requirements

/-- What is wrong with a logical line. -/
inductive LineFault where
  | unknownDirective (word : String)
  | missing (directive : Directive) (what : Missing)
  | unbalanced (directive : Directive)
  | mismatched (directive : Directive) (opened : Visibility)
  deriving DecidableEq, Repr

/-- The words for a fault. -/
def LineFault.message : LineFault → String
  | .unknownDirective word => "unknown directive '" ++ word ++ "'"
  | .missing directive what => "'" ++ directive.word ++ "' is missing its " ++ what.text
  | .unbalanced directive => "'" ++ directive.word ++ "' without a matching open section"
  | .mismatched directive opened =>
    "'" ++ directive.word ++ "' while a " ++ opened.name ++ " section is open"

/-- Why a requirements file has no meaning. -/
inductive ReadError where
  | unreadable (path : Path) (fault : FileFault)
  | line (path : Path) (number : Nat) (fault : LineFault)
  deriving DecidableEq, Repr

namespace ReadError

/-- The file at fault. -/
def path : ReadError → Path
  | .unreadable path _ => path
  | .line path _ _ => path

/-- The line at fault. -/
def line? : ReadError → Option Nat
  | .unreadable _ _ => none
  | .line _ number _ => some number

/-- The error in words. -/
def message : ReadError → String
  | .unreadable path fault =>
    "Failed to read requirements file " ++ path.text ++ ": " ++ fault.message
  | .line path number fault => path.text ++ ":" ++ Nat.repr number ++ ": " ++ fault.message

end ReadError

end Requirements
