import Requirements.FileTree.Basic

/-!
# Finding requirements files

Below a root, every file that is called `requirements` is found, at any depth and
each once, in the order of paths. A root that is itself such a file is found too.
Paths are written as the root followed by the names below it.
-/

namespace Requirements

namespace FileTree

/-- What a requirements file is called. -/
def requirementsName : String := "requirements"

/-- The names that lead from one place to another below it. -/
def namesBelow? (above place : List String) : Option (List String) :=
  if above.isPrefixOf place then some (place.drop above.length) else none

/-- The requirements files below a directory, as names from there. -/
def requirementsBelow (tree : FileTree) (dir : List String) : List (List String) :=
  tree.files.filterMap fun (file, _) =>
    if file.getLast? = some requirementsName then namesBelow? dir file else none

/-- The paths of the requirements files below a root, in order. -/
def discover (tree : FileTree) (root : Path) : List Path :=
  match tree.resolve root with
  | .error _ => []
  | .ok place =>
    match tree.entry? place with
    | none => []
    | some (.file _) => if root.fileName? = some requirementsName then [root] else []
    | some .dir =>
      Path.sort ((tree.requirementsBelow place).map fun names => names.foldl Path.join root)

/-- The directory of the package that a requirements file describes: the one that
holds the directory of the file. -/
def packageDir? (file : Path) : Option Path := file.parent?.bind Path.parent?

end FileTree

end Requirements
