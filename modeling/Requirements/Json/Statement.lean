import Requirements.File.Basic
import Requirements.Json.Basic
import Requirements.Statement.Directive

/-!
# Statements as JSON

A section marker is a string. Every other statement is an object of one field,
which tells its kind and holds what it carries.
-/

namespace Requirements

/-- The word for the kind of a statement. -/
def Statement.kind : Statement → String
  | .setting .setVariable _ => "set_env"
  | .includePaths _ => "include_paths"
  | .pathPattern _ _ => "cmt_path_pattern"
  | .openSection .internal => "begin_private"
  | .openSection .exported => "begin_public"
  | statement => statement.directive.word

namespace Json

/-- A visibility. -/
def ofVisibility (visibility : Visibility) : Json := .text visibility.name

/-- The branches of a conditional value, the default first. -/
def ofConditional (value : Conditional) : Json :=
  .object
    [("name", .text value.name),
     ("branches", .array (value.branches.map fun branch =>
       .object [("tag", .text branch.tag), ("value", .text branch.value)]))]

/-- A dependency. -/
def ofUse (dependency : Use) : Json :=
  .object
    [("package", .text dependency.package),
     ("version", text? dependency.version),
     ("path", text? dependency.path),
     ("switches", texts dependency.switches),
     ("visibility", ofVisibility dependency.visibility)]

/-- The application of a pattern or a tag. -/
def ofApplication (application : Application) : Json :=
  .object
    [("name", .text application.name),
     ("switches", texts application.switches),
     ("args", texts application.args)]

/-- A declared target. -/
def ofTargetDecl (decl : TargetDecl) : Json :=
  .object [("name", .text decl.name), ("sources", texts decl.sources)]

/-- A document. -/
def ofDocument (document : Document) : Json :=
  .object
    [("generator", .text document.generator),
     ("name", .text document.name),
     ("group", text? document.group),
     ("source_dir", text? document.sourceDir),
     ("switches", texts document.switches),
     ("sources", texts document.sources)]

/-- What a statement carries. Section markers carry nothing. -/
def statementContent : Statement → Option Json
  | .package name => some (.text name)
  | .author name => some (.text name)
  | .manager name => some (.text name)
  | .version v => some (.text v)
  | .use dependency => some (ofUse dependency)
  | .setting _ value => some (ofConditional value)
  | .pattern pattern =>
    some (.object
      [("name", .text pattern.name),
       ("switches", texts pattern.switches),
       ("definition", .text pattern.definition)])
  | .applyPattern application => some (ofApplication application)
  | .ignorePattern name => some (.object [("name", .text name)])
  | .tag name content => some (.object [("name", .text name), ("content", texts content)])
  | .applyTag application => some (ofApplication application)
  | .excludeTag name excluded =>
    some (.object [("name", .text name), ("excluded", texts excluded)])
  | .target _ decl => some (ofTargetDecl decl)
  | .document document => some (ofDocument document)
  | .includeDirs dirs => some (texts dirs)
  | .includePaths paths => some (texts paths)
  | .pathPattern reverse command =>
    some (.object [("reverse", .bool reverse), ("command", texts command)])
  | .makeFragment name switches =>
    some (.object [("name", .text name), ("switches", texts switches)])
  | .openSection _ => none
  | .closeSection _ => none

/-- A statement. -/
def ofStatement (statement : Statement) : Json :=
  match statementContent statement with
  | none => .text statement.kind
  | some content => .object [(statement.kind, content)]

/-- A requirements file with its statements. -/
def ofFile (file : File) : Json :=
  .object
    [("path", .text file.path.text),
     ("package", .text file.package),
     ("statements", .array (file.statements.map ofStatement))]

end Json

end Requirements
