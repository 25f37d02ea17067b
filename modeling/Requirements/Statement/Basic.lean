import Requirements.Conditional
import Requirements.Text.Piece

/-!
# Statements

A statement is the meaning of one logical line of a requirements file. Settings
carry a value that may depend on build tags; pattern applications keep their
arguments as they were written; the remaining statements carry words.
-/

namespace Requirements

/-- Who sees a dependency: every package above, or this package only. Sections of
a file give it to the dependencies that they hold. -/
inductive Visibility where
  | exported
  | internal
  deriving DecidableEq, Repr

/-- The word for a visibility. -/
def Visibility.name : Visibility → String
  | .exported => "public"
  | .internal => "private"

/-- What kind of file a declared target is built into. -/
inductive TargetKind where
  | library
  | application
  deriving DecidableEq, Repr

/-- What a conditional value is set on, and how. -/
inductive Setting where
  | defineMacro
  | appendMacro
  | prependMacro
  | removeMacro
  | setPath
  | appendPath
  | prependPath
  | removePath
  | setVariable
  | appendVariable
  | removeVariable
  | defineAlias
  | defineAction
  deriving DecidableEq, Repr

/-- A dependency on another package. -/
structure Use where
  package : String
  version : Option String
  path : Option String
  switches : List String
  visibility : Visibility
  deriving DecidableEq, Repr

/-- The definition of a pattern. -/
structure PatternDefinition where
  name : String
  switches : List String
  definition : String
  deriving DecidableEq, Repr

/-- The application of a pattern, or of a tag, to arguments. -/
structure Application where
  name : String
  switches : List String
  args : List String
  deriving DecidableEq, Repr

/-- A declared library or application, with its source words as written. -/
structure TargetDecl where
  name : String
  sources : List String
  deriving DecidableEq, Repr

/-- A generated document. -/
structure Document where
  generator : String
  name : String
  group : Option String := none
  sourceDir : Option String := none
  switches : List String := []
  sources : List String := []
  deriving DecidableEq, Repr

/-- The meaning of a logical line. -/
inductive Statement where
  | package (name : String)
  | author (name : String)
  | manager (name : String)
  | version (text : String)
  | use (dependency : Use)
  | setting (setting : Setting) (value : Conditional)
  | pattern (pattern : PatternDefinition)
  | applyPattern (application : Application)
  | ignorePattern (name : String)
  | tag (name : String) (content : List String)
  | applyTag (application : Application)
  | excludeTag (name : String) (excluded : List String)
  | target (kind : TargetKind) (decl : TargetDecl)
  | document (document : Document)
  | includeDirs (dirs : List String)
  | includePaths (paths : List String)
  | pathPattern (reverse : Bool) (command : List String)
  | makeFragment (name : String) (switches : List String)
  | openSection (visibility : Visibility)
  | closeSection (visibility : Visibility)
  deriving DecidableEq, Repr

namespace Use

/-- The switch of a dependency that is needed at run time only. -/
def runtimeSwitch : String := "-no_auto_imports"

/-- Whether the dependency is needed at run time only. -/
def isRuntime (dependency : Use) : Bool := dependency.switches.contains runtimeSwitch

/-- The package name behind the path that the dependency gives. -/
def qualifiedName (dependency : Use) : String :=
  match dependency.path with
  | none => dependency.package
  | some path =>
    if path.isEmpty then dependency.package
    else .ofList (Text.dropTrailing '/' path.toList) ++ "/" ++ dependency.package

end Use

namespace Statement

/-- The dependency that a statement declares. -/
def use? : Statement → Option Use
  | .use dependency => some dependency
  | _ => none

/-- The value that a setting carries. -/
def value? : Statement → Option Conditional
  | .setting _ value => some value
  | _ => none

/-- The target that a statement declares. -/
def target? : Statement → Option (TargetKind × TargetDecl)
  | .target kind decl => some (kind, decl)
  | _ => none

end Statement

end Requirements
