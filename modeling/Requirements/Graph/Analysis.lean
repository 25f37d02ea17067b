import Requirements.File.Reader
import Requirements.Graph.Basic
import Requirements.Pattern.Step
import Requirements.Profile
import Requirements.Target.Flags

/-!
# From files to graphs

The declared targets come first, each with the flags of its macros. Then the other
statements are taken in order, so that a pattern sees the libraries of the
dependencies above it and no others. At the end irregular library names are written
regularly and the kind of build file is chosen. A file with a pattern that makes no
target has no graph.
-/

namespace Requirements

namespace Graph

/-- The targets that statements declare, in order. -/
def declarations (statements : List Statement) : List (TargetKind × TargetDecl) :=
  statements.filterMap Statement.target?

/-- The names of declared targets, each at its first place. -/
def declaredNames (statements : List Statement) : List String :=
  ((declarations statements).map fun (_, decl) => decl.name).eraseDups

/-- The targets that have been declared, and the places of the macros that have been
folded into them. -/
structure Declared where
  targets : TargetSet := .empty
  folded : List Nat := []

/-- Take in a declaration. The first one of a name makes the target and folds its
macros; every further one adds sources and switches. -/
def Declared.add (profile : Profile) (buckets : MacroBuckets) (declared : Declared) :
    TargetKind × TargetDecl → Declared
  | (kind, decl) =>
    let list := SourceList.ofWords (some SourceList.defaultDir) decl.sources
    match declared.targets.get? decl.name with
    | some _ =>
      { declared with
        targets := declared.targets.modify decl.name fun target =>
          { target with sources := target.sources ++ list.sources }.extendKwarg
            Target.switchesKey list.switches }
    | none =>
      let target : Target :=
        { name := decl.name, feature := profile.defaultFeature kind, sources := list.sources }
      let (target, folded) :=
        (target.extendKwarg Target.switchesKey list.switches).fold (buckets.get decl.name)
      { targets := declared.targets.insert target, folded := declared.folded ++ folded }

/-- The declared targets with the flags of their macros. -/
def declare (profile : Profile) (statements : List Statement) : Declared :=
  let buckets := MacroBuckets.ofStatements statements (declaredNames statements)
  (declarations statements).foldl (Declared.add profile buckets) {}

/-- A graph that is being built, and the libraries of the dependencies so far. -/
structure Builder where
  graph : Graph
  uses : List String := []

/-- Take in the statement at a place. The package is called by its last name; the
statements at the given places are already part of a target. -/
def Builder.add (profile : Profile) (package : String) (folded : List Nat) (state : Builder)
    (statement : Statement) (index : Nat) : Except PatternError Builder :=
  let { graph, uses } := state
  match statement with
  | .package _ | .target _ _ | .openSection _ | .closeSection _ => .ok state
  | .author name =>
    .ok ⟨{ graph with package.authors := graph.package.authors ++ [name] }, uses⟩
  | .manager name =>
    .ok ⟨{ graph with package.managers := graph.package.managers ++ [name] }, uses⟩
  | .version v => .ok ⟨{ graph with package.version := some v }, uses⟩
  | .use dependency =>
    .ok ⟨{ graph with deps := graph.deps ++ [.ofUse dependency] },
      uses ++ profile.librariesOf dependency.qualifiedName⟩
  | .applyPattern application =>
    match profile.converter? application.name with
    | none =>
      .ok ⟨{ graph with pendingPatterns := graph.pendingPatterns ++ [application] }, uses⟩
    | some converter =>
      match converter.apply package uses application graph.targets with
      | .error error => .error error
      | .ok targets => .ok ⟨{ graph with targets }, uses⟩
  | other =>
    if folded.contains index then .ok state
    else .ok ⟨{ graph with configuration := graph.configuration ++ [other] }, uses⟩

/-- Take in statements from a place on. -/
def Builder.addAll (profile : Profile) (package : String) (folded : List Nat) (state : Builder) :
    List (Statement × Nat) → Except PatternError Builder
  | [] => .ok state
  | (statement, index) :: rest =>
    match state.add profile package folded statement index with
    | .error error => .error error
    | .ok next => next.addAll profile package folded rest

/-- Whether a statement needs a build script. -/
def needsScript : Statement → Bool
  | .setting .removePath _ | .setting .removeMacro _ | .makeFragment _ _ | .pattern _ => true
  | .setting .defineMacro value => value.isTagged
  | _ => false

/-- Whether some statement needs a build script. -/
def needsImperative (statements : List Statement) : Bool := statements.any needsScript

/-- The same graph with regular library names. -/
def regularize (graph : Graph) : Graph :=
  { graph with targets := graph.targets.map fun target =>
      { target with uses := target.uses.map Reference.regular } }

/-- The kind of build file that a package needs. -/
def dialectOf (profile : Profile) (package : PackageInfo) (statements : List Statement) :
    Dialect :=
  if profile.forcesImperative package.path package.name || needsImperative statements then
    .imperative
  else .declarative

/-- The graph of a file. -/
def ofFile (profile : Profile) (file : File) : Except PatternError Graph := do
  let declared := declare profile file.statements
  let info : PackageInfo := { name := file.package, path := file.packagePath }
  let start : Builder := { graph := { package := info, targets := declared.targets } }
  let built ← start.addAll profile (Reference.baseName file.package) declared.folded
    file.statements.zipIdx
  return { built.graph.regularize with dialect := dialectOf profile info file.statements }

end Graph

/-- Why there is no graph: a file cannot be read, or a pattern fails. Where the file of a
failure is known, it stands around the failure. -/
inductive TranslateError where
  | read (error : ReadError)
  | pattern (error : PatternError)
  | file (path : Path) (cause : TranslateError)
  deriving DecidableEq, Repr

namespace TranslateError

/-- Name the file of an error that does not name one. -/
def inFile (path : Path) : TranslateError → TranslateError
  | .pattern error => .file path (.pattern error)
  | error => error

/-- The file at fault, if it is known. -/
def path? : TranslateError → Option Path
  | .read error => some error.path
  | .pattern _ => none
  | .file path _ => some path

/-- The error in words. -/
def message : TranslateError → String
  | .read error => error.message
  | .pattern error => error.message
  | .file path cause => "Failed to translate " ++ path.text ++ ": " ++ cause.message

end TranslateError

namespace Graph

/-- The graph of the file at a path, if it has been read. -/
def translate (profile : Profile) (path : Path) (file : Except ReadError File) :
    Except TranslateError Graph :=
  match file with
  | .error error => .error (.read error)
  | .ok file =>
    match ofFile profile file with
    | .error error => .error (TranslateError.inFile path (.pattern error))
    | .ok graph => .ok graph

/-- The graph of a source text at a path. -/
def ofSource (profile : Profile) (path : Path) (source : String) : Except TranslateError Graph :=
  translate profile path (File.ofSource path source)

/-- The graph of the file at a path of a tree. -/
def load (profile : Profile) (tree : FileTree) (path : Path) : Except TranslateError Graph :=
  translate profile path (File.load tree path)

end Graph

end Requirements
