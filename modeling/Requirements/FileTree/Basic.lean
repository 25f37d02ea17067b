import Requirements.Path
import Requirements.Text.Utf8

/-!
# File trees

A file tree is the list of its files, each under the names that lead to it from the
root, and no two under the same names. What lies above a file is a directory, and so
is every place that is listed as one. There are no links, so walking along a path is
walking along names; the component `..` goes back to the directory that really holds
the current one.
-/

namespace Requirements

/-- Why a file cannot be read. -/
inductive FileFault where
  | notFound
  | notDirectory
  | isDirectory
  | nameTooLong
  | zeroInName
  | invalidText
  deriving DecidableEq, Repr

/-- The words for a fault. -/
def FileFault.message : FileFault → String
  | .notFound => "No such file or directory (os error 2)"
  | .notDirectory => "Not a directory (os error 20)"
  | .isDirectory => "Is a directory (os error 21)"
  | .nameTooLong => "File name too long (os error 36)"
  | .zeroInName => "file name contained an unexpected NUL byte"
  | .invalidText => "stream did not contain valid UTF-8"

/-- Files and directories below one root, and the working directory, from which
relative paths start. -/
structure FileTree where
  files : List (List String × List UInt8)
  dirs : List (List String)
  cwd : List String
  distinct : (files.map Prod.fst).Nodup

namespace FileTree

/-- What stands at a place. -/
inductive Entry where
  | file (bytes : List UInt8)
  | dir

/-- The longest name of one entry, in bytes. -/
def nameLimit : Nat := 255

/-- The longest path that can be looked up, in bytes. -/
def pathLimit : Nat := 4095

/-- Whether a place is a directory: the working directory, a listed directory or
something above either, or a place above a file. -/
def isDir (tree : FileTree) (place : List String) : Bool :=
  place.isPrefixOf tree.cwd || tree.dirs.any place.isPrefixOf
    || tree.files.any fun (file, _) => place.isPrefixOf file.dropLast

/-- The entry at a place. -/
def entry? (tree : FileTree) (place : List String) : Option Entry :=
  match tree.files.lookup place with
  | some bytes => some (.file bytes)
  | none => if tree.isDir place then some .dir else none

/-- Walk from a place along the segments of a path. Every segment, even an empty
one, needs a directory to start from. -/
def walk (tree : FileTree) : List String → List (List Char) → Except FileFault (List String)
  | place, [] => .ok place
  | place, segment :: segments =>
    match tree.entry? place with
    | none => .error .notFound
    | some (.file _) => .error .notDirectory
    | some .dir =>
      if Path.isTrivial segment then tree.walk place segments
      else if segment = ['.', '.'] then tree.walk place.dropLast segments
      else
        let name := String.ofList segment
        if nameLimit < name.utf8ByteSize then .error .nameTooLong
        else
          match tree.entry? (place ++ [name]) with
          | none => .error .notFound
          | some _ => tree.walk (place ++ [name]) segments

/-- The place to which a path leads. -/
def resolve (tree : FileTree) (path : Path) : Except FileFault (List String) :=
  let text := path.text.toList
  if text.contains '\x00' then .error .zeroInName
  else if text.isEmpty then .error .notFound
  else if pathLimit < path.text.utf8ByteSize then .error .nameTooLong
  else tree.walk (if text.head? = some '/' then [] else tree.cwd) (text.splitOn '/')

/-- The bytes of the file at a path. -/
def bytes (tree : FileTree) (path : Path) : Except FileFault (List UInt8) := do
  match tree.entry? (← tree.resolve path) with
  | some (.file bytes) => .ok bytes
  | some .dir => .error .isDirectory
  | none => .error .notFound

/-- The text of the file at a path. -/
def read (tree : FileTree) (path : Path) : Except FileFault String := do
  match Text.Utf8.decode? (← tree.bytes path) with
  | some text => .ok (.ofList text)
  | none => .error .invalidText

/-- Whether a path leads to a file. -/
def isFile (tree : FileTree) (path : Path) : Bool := (tree.bytes path).toBool

/-- A tree with nothing but its working directory. -/
def empty (cwd : List String) : FileTree := ⟨[], [], cwd, List.nodup_nil⟩

/-- The tree with a directory at a place. -/
def addDir (tree : FileTree) (place : List String) : FileTree :=
  { tree with dirs := place :: tree.dirs }

/-- The tree with a file at a place, instead of any file that was there. -/
def addFile (tree : FileTree) (place : List String) (bytes : List UInt8) : FileTree where
  files := (place, bytes) :: tree.files.filter fun (other, _) => other ≠ place
  dirs := tree.dirs
  cwd := tree.cwd
  distinct := by
    rw [List.map_cons, List.nodup_cons]
    refine ⟨?_, tree.distinct.sublist (List.filter_sublist.map Prod.fst)⟩
    simp

/-- The tree with a file at a path or, without content, a directory. All that the path
goes through on its way is a directory then. -/
def add (tree : FileTree) (path : Path) (content : Option (List UInt8)) : FileTree :=
  let place := path.placeFrom tree.cwd
  let tree := (path.ancestors.drop 1).foldl
    (fun tree above => tree.addDir (above.placeFrom tree.cwd)) tree
  match content with
  | some bytes => tree.addFile place bytes
  | none => tree.addDir place

/-- A tree of entries given by paths. An entry without content is a directory, and of
two files at one place the later stays. -/
def ofEntries (cwd : List String) (entries : List (Path × Option (List UInt8))) : FileTree :=
  entries.foldl (fun tree (path, content) => tree.add path content) (empty cwd)

end FileTree

end Requirements
