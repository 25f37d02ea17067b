/-!
# Paths

A path is kept as it was written; every reading of it ignores repeated slashes, a
slash at the end and the component `.` anywhere but in front. Taking the parent
removes the last component as text, so `a/..` has the parent `a`, whatever the
directory tree looks like. Paths are ordered component by component.
-/

namespace Requirements

/-- A path in its written form. -/
structure Path where
  text : String
  deriving DecidableEq, Repr

namespace Path

/-- One component of a path. The order of the constructors is the order in which
different kinds of components are sorted. -/
inductive Component where
  | root
  | current
  | parent
  | name (text : String)
  deriving DecidableEq, Repr, Ord

/-- How a path begins: at the root, with the component `.`, or with a name. -/
inductive Anchor where
  | root
  | current
  | relative
  deriving DecidableEq, Repr

/-- The beginning of a path and the segments between its slashes after that. -/
def split (path : Path) : Anchor × List (List Char) :=
  match path.text.toList.splitOn '/' with
  | [['.']] => (.current, [])
  | [] :: segment :: segments => (.root, segment :: segments)
  | ['.'] :: segment :: segments => (.current, segment :: segments)
  | segments => (.relative, segments)

/-- Write a path from its beginning and its segments. -/
def unsplit : Anchor → List (List Char) → Path
  | .root, segments => ⟨.ofList ('/' :: List.intercalate ['/'] segments)⟩
  | .current, segments => ⟨.ofList (List.intercalate ['/'] (['.'] :: segments))⟩
  | .relative, segments => ⟨.ofList (List.intercalate ['/'] segments)⟩

/-- Segments that stand for no component. -/
def isTrivial (segment : List Char) : Bool := segment == [] || segment == ['.']

/-- Drop the trivial segments at the end. -/
def dropTrivialEnd (segments : List (List Char)) : List (List Char) :=
  (segments.reverse.dropWhile isTrivial).reverse

/-- The component that a segment stands for. -/
def Component.ofSegment (segment : List Char) : Component :=
  if segment = ['.', '.'] then .parent else .name (.ofList segment)

/-- The components of a path. -/
def components (path : Path) : List Component :=
  let (anchor, segments) := path.split
  let front := match anchor with
    | .root => [Component.root]
    | .current => [Component.current]
    | .relative => []
  front ++ (segments.filter fun s => !isTrivial s).map Component.ofSegment

/-- The path without its last component. The root and the empty path have none. -/
def parent? (path : Path) : Option Path :=
  let (anchor, segments) := path.split
  let kept := dropTrivialEnd segments
  if kept.isEmpty then
    if anchor = .current then some ⟨""⟩ else none
  else some (unsplit anchor (dropTrivialEnd kept.dropLast))

/-- What is taken off is the last component, whatever it leads to. -/
example : parent? ⟨"a/.."⟩ = some ⟨"a"⟩ ∧ parent? ⟨"./p//q/./"⟩ = some ⟨"./p"⟩ ∧
    parent? ⟨"."⟩ = some ⟨""⟩ := by
  decide

/-- The name at the end of a path, if it ends in a name. -/
def fileName? (path : Path) : Option String :=
  match path.components.getLast? with
  | some (.name text) => some text
  | _ => none

/-- The names among the components of a path. -/
def names (path : Path) : List String :=
  path.components.filterMap fun
    | .name text => some text
    | _ => none

/-- Append a path below a directory. An absolute one replaces the directory. -/
def join (path : Path) (below : String) : Path :=
  if below.toList.head? = some '/' then ⟨below⟩
  else
    match path.text.toList.getLast? with
    | none => ⟨below⟩
    | some c => if c = '/' then ⟨path.text ++ below⟩ else ⟨path.text ++ "/" ++ below⟩

/-- At most `fuel` paths: a path, its parent, the parent of that, and so on. -/
def ancestorsUpTo : Nat → Path → List Path
  | 0, _ => []
  | fuel + 1, path =>
    path :: match path.parent? with
      | none => []
      | some above => ancestorsUpTo fuel above

/-- A path and all that it lies below, as far as its text tells. Each parent has
fewer segments than its path, so one more step than there are characters, and one
for the empty path, reaches the last. -/
def ancestors (path : Path) : List Path := ancestorsUpTo (path.text.length + 2) path

/-- The names that lead from the root to a path, starting from a place for a relative
one, as long as no link stands on the way. -/
def placeFrom (cwd : List String) (path : Path) : List String :=
  path.components.foldl
    (fun place component => match component with
      | .root => []
      | .current => place
      | .parent => place.dropLast
      | .name text => place ++ [text])
    cwd

/-- Whether one path is sorted no later than another. -/
def le (a b : Path) : Bool := (compare a.components b.components).isLE

/-- Paths in ascending order. -/
def sort (paths : List Path) : List Path := paths.mergeSort le

end Path

end Requirements
