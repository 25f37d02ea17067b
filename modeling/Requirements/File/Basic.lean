import Requirements.Path
import Requirements.Statement.Basic

/-!
# Requirements files

A requirements file stands in the directory `cmt` of its package. The package is
called by the last name of the directory above that, until the file itself gives
a name.
-/

namespace Requirements

/-- A requirements file: where it is, which package it describes, and what it says. -/
structure File where
  path : Path
  package : String
  statements : List Statement
  deriving DecidableEq, Repr

namespace File

/-- The directory of the package, unless that is the empty path. -/
def packageDirOf? (path : Path) : Option Path := do
  let dir ← (← path.parent?).parent?
  if dir.text.isEmpty then none else some dir

/-- A file that says nothing yet. -/
def ofPath (path : Path) : File :=
  ⟨path, ((packageDirOf? path).bind Path.fileName?).getD "", []⟩

/-- The directory of the package. -/
def packageDir? (file : File) : Option Path := packageDirOf? file.path

/-- The names that lead to the package, joined by slashes. The root and the
component `..` have no name. -/
def packagePath (file : File) : String :=
  match file.packageDir? with
  | none => ""
  | some dir => String.intercalate "/" dir.names

/-- The dependencies that the file declares, in order. -/
def uses (file : File) : List Use := file.statements.filterMap Statement.use?

@[simp] theorem path_ofPath (path : Path) : (ofPath path).path = path := rfl

@[simp] theorem statements_ofPath (path : Path) : (ofPath path).statements = [] := rfl

end File

end Requirements
