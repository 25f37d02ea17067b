import Requirements.FileTree.Discovery
import Requirements.Graph.Analysis
import Requirements.OutputFiles

/-!
# Converting a tree of packages

Each requirements file is converted by itself, so one that fails does not keep the
others from being converted. A package that has an output file written by hand is
skipped, and its requirements file is not even read.
-/

namespace Requirements

/-- What became of a requirements file. -/
inductive Outcome where
  | converted (graph : Graph)
  | skipped (existing : Path)
  | failed (error : TranslateError)
  deriving DecidableEq

namespace Outcome

/-- The graph of a converted file. -/
def graph? : Outcome → Option Graph
  | .converted graph => some graph
  | _ => none

/-- The output file that a skipped package keeps. -/
def existing? : Outcome → Option Path
  | .skipped existing => some existing
  | _ => none

/-- Why a file failed. -/
def error? : Outcome → Option TranslateError
  | .failed error => some error
  | _ => none

end Outcome

/-- What a conversion works with: the files, the profile, and the output files that are
looked at. -/
structure Conversion where
  tree : FileTree
  profile : Profile
  outputs : OutputFiles

namespace Conversion

/-- The output file of the package of a requirements file that was written by hand. -/
def handWritten? (conversion : Conversion) (file : Path) : Option Path :=
  (FileTree.packageDir? file).bind (conversion.outputs.handWritten? conversion.tree)

/-- Convert a requirements file. -/
def convert (conversion : Conversion) (file : Path) : Outcome :=
  match conversion.handWritten? file with
  | some existing => .skipped existing
  | none =>
    match Graph.load conversion.profile conversion.tree file with
    | .ok graph => .converted graph
    | .error error => .failed error

/-- Convert requirements files and list each with its outcome. -/
def convertAll (conversion : Conversion) (files : List Path) : List (Path × Outcome) :=
  files.map fun file => (file, conversion.convert file)

end Conversion

end Requirements
