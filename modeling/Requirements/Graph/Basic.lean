import Requirements.Statement.Basic
import Requirements.Target.Set

/-!
# Package graphs

The graph of a package is what is known of it after its requirements file has been
translated: who wrote it, what it depends on, its targets, the statements that have
no meaning for a single target, and the patterns that nobody could expand.
-/

namespace Requirements

/-- What kind of build file a package needs. -/
inductive Dialect where
  | declarative
  | imperative
  deriving DecidableEq, Repr

namespace Dialect

/-- The word for a dialect. -/
def name : Dialect → String
  | .declarative => "declarative"
  | .imperative => "imperative"

/-- The name of the build file. -/
def outputFile : Dialect → String
  | .declarative => "hscript.yml"
  | .imperative => "wscript"

end Dialect

/-- What a package says of itself. -/
structure PackageInfo where
  name : String
  path : String
  authors : List String := []
  managers : List String := []
  version : Option String := none
  deriving DecidableEq, Repr

/-- A package that another one depends on. -/
structure Dependency where
  name : String
  version : Option String
  visibility : Visibility
  runtime : Bool
  switches : List String
  deriving DecidableEq, Repr

/-- The dependency that a file declares. -/
def Dependency.ofUse (use : Use) : Dependency where
  name := use.qualifiedName
  version := use.version
  visibility := use.visibility
  runtime := use.isRuntime
  switches := use.switches

/-- What is known of a package. -/
structure Graph where
  package : PackageInfo
  deps : List Dependency := []
  targets : TargetSet := .empty
  configuration : List Statement := []
  pendingPatterns : List Application := []
  dialect : Dialect := .declarative
  deriving DecidableEq

end Requirements
