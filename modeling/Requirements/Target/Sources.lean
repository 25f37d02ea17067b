import Requirements.Text.Piece

/-!
# Source words

The words after a target name are sources and switches. A leading `../` is dropped
from each, since sources are named from the package directory. The switch `-s=`
gives the directory of the bare file names after it.
-/

namespace Requirements

/-- Source words sorted into sources and switches. -/
structure SourceList where
  sources : List String := []
  switches : List String := []
  deriving DecidableEq, Repr

namespace SourceList

/-- The directory of bare file names at the start of a declaration. -/
def defaultDir : String := "src"

/-- A word without one leading step to the parent directory. -/
def withoutParent (word : String) : String := Text.withoutLead word "../"

/-- The directory that a switch `-s=` names. -/
def dirOfSwitch (value : String) : String :=
  .ofList (Text.dropTrailing '/' (withoutParent value).toList)

/-- The path of a source, given the current directory. -/
def sourcePath (dir : Option String) (word : String) : String :=
  match dir with
  | none => word
  | some dir => if dir.isEmpty || word.toList.contains '/' then word else dir ++ "/" ++ word

/-- Sort source words, starting from the directory of bare names, if there is one. -/
def ofWords (dir : Option String) : List String → SourceList
  | [] => {}
  | word :: words =>
    let word := withoutParent word
    match Text.afterLead? word "-s=" with
    | some value => ofWords (some (dirOfSwitch value)) words
    | none =>
      let rest := ofWords dir words
      if Text.startsWith word "-" then { rest with switches := word :: rest.switches }
      else { rest with sources := sourcePath dir word :: rest.sources }

end SourceList

end Requirements
