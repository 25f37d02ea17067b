import Requirements.Graph.Analysis
import Requirements.Log

/-!
# The journal of a graph

The records that making the graph of a file leaves in the log. Each step on the way
has its records here, so the journal of a file that fails ends where the way ends.
-/

namespace Requirements.Journal

/-- The record of a selected profile. -/
def selected (profile : Profile) : LogRecord := .debug ("selected profile " ++ profile.name)

/-- The records of the tokens of a line: a tag of a setting that has no value. -/
def ofTokens : List String → List LogRecord
  | word :: name :: _ :: pairs =>
    match Directive.ofWord? word, Conditional.unpaired? pairs with
    | some (.setting _), some tag =>
      [.warn ("'" ++ name ++ "': dropping tag '" ++ tag ++ "' without a value")]
    | _, _ => []
  | _ => []

/-- The records of reading lines up to the first fault. -/
def ofLines (reader : Reader) : List LogicalLine → List LogRecord
  | [] =>
    [.debug ("parsed " ++ Nat.repr reader.file.statements.length ++ " statements from "
      ++ reader.file.path.text)]
  | line :: lines =>
    ofTokens (tokenize line.text) ++
      match reader.readLine line with
      | .error _ => []
      | .ok next => ofLines next lines

/-- The records of reading a source. -/
def ofSource (path : Path) (source : String) : List LogRecord :=
  ofLines (.start path) (logicalLines source)

/-- The records of a declaration, after the targets that have been declared before. -/
def ofDeclaration (buckets : MacroBuckets) (targets : TargetSet) (decl : TargetDecl) :
    List LogRecord :=
  match targets.get? decl.name with
  | some _ => [.debug (decl.name ++ " declared again, extending its sources")]
  | none =>
    (TargetMacro.steps (buckets.get decl.name) decl.name).map fun (_, m) =>
      .debug ("folded " ++ m.value.name ++ " into target " ++ decl.name)

/-- The records of declarations. -/
def ofDeclarations (profile : Profile) (buckets : MacroBuckets) (declared : Graph.Declared) :
    List (TargetKind × TargetDecl) → List LogRecord
  | [] => []
  | (kind, decl) :: rest =>
    ofDeclaration buckets declared.targets decl ++
      ofDeclarations profile buckets (declared.add profile buckets (kind, decl)) rest

/-- The records of applying patterns up to the first that fails. The package is named
in full where a pattern is kept, and by its last name where one is converted. -/
def ofPatterns (profile : Profile) (package : String) : List Statement → List LogRecord
  | [] => []
  | .applyPattern application :: rest =>
    match profile.converter? application.name with
    | none =>
      .info (package ++ ": no converter for pattern '" ++ application.name
        ++ "', keeping it as is") :: ofPatterns profile package rest
    | some converter =>
      let short := Reference.baseName package
      .debug ("converting pattern " ++ application.name) ::
        match converter.edit short application with
        | .error _ => []
        | .ok _ => converter.warnings short application ++ ofPatterns profile package rest
  | _ :: rest => ofPatterns profile package rest

/-- The record of a finished graph. -/
def finished (path : Path) (graph : Graph) : LogRecord :=
  .debug (path.text ++ ": " ++ Nat.repr graph.targets.size ++ " targets, "
    ++ Nat.repr graph.configuration.length ++ " configuration entries, "
    ++ graph.dialect.name ++ " dialect")

/-- The records of making the graph of a file. -/
def ofFile (profile : Profile) (file : File) : List LogRecord :=
  let buckets := MacroBuckets.ofStatements file.statements (Graph.declaredNames file.statements)
  ofDeclarations profile buckets {} (Graph.declarations file.statements)
    ++ ofPatterns profile file.package file.statements
    ++ match Graph.ofFile profile file with
      | .error _ => []
      | .ok graph => [finished file.path graph]

/-- The records of making a graph from a source text at a path. -/
def ofGraphOfSource (profile : Profile) (path : Path) (source : String) : List LogRecord :=
  ofSource path source ++
    match File.ofSource path source with
    | .error _ => []
    | .ok file => ofFile profile file

end Requirements.Journal
