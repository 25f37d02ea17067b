import Mathlib.Data.List.Find
import Requirements.Config.Loading
import Requirements.Proofs.Ancestors

/-!
# The nearest configuration

A configuration is looked for in the directory that a path leads to, and then where each path
above it leads. `load_nearest` says that the first of these places with a file for it gives the
configuration, and that without `..` in the path it is the nearest directory that holds the one
looked for. Otherwise it need not hold it at all (`load_outside`).
-/

namespace Requirements

namespace FileTree

variable {tree : FileTree} {place mid : List String}

theorem walk_append (tree : FileTree) (place : List String) (before after : List (List Char)) :
    tree.walk place (before ++ after) = (tree.walk place before).bind (tree.walk · after) := by
  induction before generalizing place with
  | nil => rfl
  | cons segment before ih =>
    rw [List.cons_append, walk, walk]
    cases tree.entry? place with
    | none => rfl
    | some entry =>
      cases entry with
      | file => rfl
      | dir =>
        simp only
        split_ifs
        · exact ih _
        · exact ih _
        · rfl
        · cases tree.entry? (place ++ [String.ofList segment]) with
          | none => rfl
          | some _ => exact ih _

theorem walk_append_eq_ok {before after : List (List Char)}
    (h : tree.walk place (before ++ after) = .ok mid) :
    ∃ between, tree.walk place before = .ok between ∧ tree.walk between after = .ok mid := by
  rw [walk_append] at h
  cases walked : tree.walk place before with
  | error fault =>
    rw [walked] at h
    cases h
  | ok between =>
    rw [walked] at h
    exact ⟨between, rfl, h⟩

/-- Nothing but a directory is left on the way. -/
theorem entry?_of_walk {segment : List Char} {segments : List (List Char)}
    (h : tree.walk place (segment :: segments) = .ok mid) : tree.entry? place = some .dir := by
  rw [walk] at h
  cases stands : tree.entry? place with
  | none => simp [stands] at h
  | some entry =>
    cases entry with
    | file => simp [stands] at h
    | dir => rfl

theorem entry?_of_walk_path {path : Path} (h : tree.walk place path.segments = .ok mid) :
    tree.entry? place = some .dir := by
  obtain ⟨first, more, split⟩ :=
    List.exists_cons_of_ne_nil (List.splitOn_ne_nil '/' path.text.toList)
  rw [Path.segments, split] at h
  exact entry?_of_walk h

/-- Walking leads where the components say. -/
theorem walk_eq_ok {segments : List (List Char)} (h : tree.walk place segments = .ok mid) :
    mid = ((Path.substantial segments).map Path.Component.ofSegment).foldl
      Path.Component.follow place := by
  induction segments generalizing place with
  | nil => exact (Except.ok.inj h).symm
  | cons segment segments ih =>
    have dir := entry?_of_walk h
    simp only [walk, dir] at h
    rw [Path.substantial, List.filter_cons]
    split_ifs at h with trivial up long
    · rw [trivial]
      exact ih h
    · rw [Bool.not_eq_true] at trivial
      rw [trivial, up]
      exact ih h
    · rw [Bool.not_eq_true] at trivial
      cases stands : tree.entry? (place ++ [String.ofList segment]) with
      | none => simp [stands] at h
      | some _ =>
        rw [stands] at h
        rw [trivial]
        have named : Path.Component.ofSegment segment = .name (.ofList segment) := if_neg up
        simp only [Bool.not_false, if_true, List.map_cons, named, List.foldl_cons]
        exact ih h

/-- Where it leads somewhere, a path can be looked up. -/
theorem lookable_of_resolve {path : Path} (h : tree.resolve path = .ok place) :
    '\x00' ∉ path.text.toList ∧ path.text ≠ "" ∧ path.text.utf8ByteSize ≤ pathLimit := by
  simp only [resolve, List.contains_iff_mem, List.isEmpty_iff, String.toList_eq_nil_iff] at h
  split_ifs at h with zero empty long
  all_goals exact ⟨zero, empty, Nat.not_lt.1 long⟩

theorem resolve_eq_walk {path : Path} (relative : path.IsRelative)
    (text : '\x00' ∉ path.text.toList) (some : path.text ≠ "")
    (fits : path.text.utf8ByteSize ≤ pathLimit) :
    tree.resolve path = tree.walk tree.cwd path.segments := by
  have zero : ¬path.text.toList.contains '\x00' = true := by simpa using text
  have empty : ¬path.text.toList.isEmpty = true := by simpa using some
  rw [resolve, if_neg zero, if_neg empty, if_neg (Nat.not_lt.2 fits), if_neg relative]
  rfl

/-- What is joined below a path is looked for where the path leads. -/
theorem walk_join {path : Path} {name : String} (plain : '/' ∉ name.toList)
    (h : tree.walk tree.cwd path.segments = .ok place) :
    tree.walk tree.cwd (path.join name).segments = tree.walk place [name.toList] := by
  obtain joined | ⟨front, split, joined⟩ := path.segments_join plain
  · rw [joined, walk_append, h]
    rfl
  · -- An empty segment at the end leads nowhere else.
    rw [split] at h
    obtain ⟨between, walked, ends⟩ := walk_append_eq_ok h
    have same : between = place := (walk_eq_ok ends).symm
    rw [joined, walk_append, walked, same]
    rfl

theorem placeFrom_of_walk {path : Path} (relative : path.IsRelative)
    (h : tree.walk tree.cwd path.segments = .ok place) : path.placeFrom tree.cwd = place := by
  rw [Path.placeFrom_eq, relative.components_eq, Path.componentsOf, List.foldl_append,
    walk_eq_ok h]
  split_ifs <;> rfl

/-- Each path above one that leads to a directory does, and where its components say. The empty
one counts as the working directory. -/
theorem walk_of_mem_ancestors {path above : Path} (relative : path.IsRelative)
    (lands : tree.resolve path = .ok place) (dir : tree.entry? place = some .dir)
    (member : above ∈ path.ancestors) :
    tree.walk tree.cwd above.segments = .ok (above.placeFrom tree.cwd) ∧
      tree.entry? (above.placeFrom tree.cwd) = some .dir := by
  obtain ⟨text, filled, fits⟩ := lookable_of_resolve lands
  rw [resolve_eq_walk relative text filled fits] at lands
  -- Where a walk ends follows from the components, so it is enough that it ends in a directory.
  suffices reached : ∃ mid, tree.walk tree.cwd above.segments = .ok mid ∧
      tree.entry? mid = some .dir by
    obtain ⟨mid, walked, stands⟩ := reached
    have aboveRelative : above.IsRelative := by
      obtain rfl | isAbove := relative.eq_or_isAbove_of_mem_ancestors member
      · exact relative
      · exact isAbove.isRelative relative
    rw [placeFrom_of_walk aboveRelative walked]
    exact ⟨walked, stands⟩
  obtain rfl | ⟨empty, -⟩ | ⟨rest, split⟩ := relative.eq_or_isAbove_of_mem_ancestors member
  · exact ⟨place, lands, dir⟩
  · obtain rfl : above = ⟨""⟩ := congrArg Path.mk empty
    have cwd := entry?_of_walk_path lands
    refine ⟨tree.cwd, ?_, cwd⟩
    rw [show Path.segments ⟨""⟩ = [[]] from rfl, walk, cwd]
    rfl
  · -- The walk along the path passes where the one above it leads and goes on from there.
    have split : path.segments = above.segments ++ Path.segments ⟨rest⟩ := by
      rw [← Path.segments_append_slash, ← split]
    rw [split] at lands
    obtain ⟨mid, walked, further⟩ := walk_append_eq_ok lands
    exact ⟨mid, walked, entry?_of_walk_path further⟩

end FileTree

namespace Config

variable {tree : FileTree} {env : Environment} {dir above : Path} {place : List String}

/-- Whether a configuration file stands in a directory. -/
def standsIn (tree : FileTree) (place : List String) : Bool :=
  (tree.files.lookup (place ++ [fileName])).isSome

/-- What is loaded is the configuration of the first of some directories that has a file for it.
If none has, every setting that the environment leaves has its default. -/
def LoadsFrom (tree : FileTree) (env : Environment) (dir : Path) (places : List (List String)) :
    Prop :=
  match places.find? (standsIn tree) with
  | some place => ∃ file, tree.resolve file = .ok (place ++ [fileName]) ∧
      load tree env dir = loadFile tree env file
  | none => load tree env dir = do return { config := ← applyEnvironment env {} }

theorem resolve_join_fileName (relative : above.IsRelative) (text : '\x00' ∉ above.text.toList)
    (fits : (above.join fileName).text.utf8ByteSize ≤ FileTree.pathLimit)
    (walked : tree.walk tree.cwd above.segments = .ok place) :
    tree.resolve (above.join fileName) = tree.walk place [fileName.toList] := by
  have plainName : Path.IsRelative ⟨fileName⟩ := by decide
  obtain ⟨slash, joined, short⟩ := above.join_eq plainName
  rw [← FileTree.walk_join (by decide) walked]
  refine FileTree.resolve_eq_walk (relative.join plainName) ?_ ?_ fits
  · intro zero
    rw [joined, String.toList_append, String.toList_append, List.mem_append, List.mem_append,
      or_iff_right text] at zero
    have plain : '\x00' ∉ fileName.toList := by decide
    obtain rfl | ⟨rfl, -⟩ := short <;> simp [plain] at zero
  · intro empty
    rw [joined, String.append_eq_empty_iff] at empty
    exact absurd empty.2 (by decide)

theorem walk_fileName (dir : tree.entry? place = some .dir) :
    tree.walk place [fileName.toList] =
      match tree.entry? (place ++ [fileName]) with
      | none => .error .notFound
      | some _ => .ok (place ++ [fileName]) := by
  rw [FileTree.walk, dir]
  rfl

/-- Below a directory a configuration file is found where it stands. -/
theorem isFile_join_fileName (dir : tree.entry? place = some .dir)
    (resolved : tree.resolve (above.join fileName) = tree.walk place [fileName.toList]) :
    tree.isFile (above.join fileName) = standsIn tree place ∧
      (standsIn tree place = true →
        tree.resolve (above.join fileName) = .ok (place ++ [fileName])) := by
  rw [walk_fileName dir] at resolved
  rw [FileTree.isFile, FileTree.bytes, resolved, standsIn, FileTree.entry?]
  cases stands : tree.files.lookup (place ++ [fileName]) with
  | none =>
    refine ⟨?_, fun held => absurd held Bool.false_ne_true⟩
    -- A directory of that name can be looked up, but it has no bytes.
    by_cases isDir : tree.isDir (place ++ [fileName]) = true
    · simp [isDir, bind, Except.bind, FileTree.entry?, stands, Except.toBool]
    · simp [isDir, bind, Except.bind, Except.toBool]
  | some bytes => simp [bind, Except.bind, FileTree.entry?, stands, Except.toBool]

section Search

variable (relative : dir.IsRelative) (lands : tree.resolve dir = .ok place)
  (there : tree.entry? place = some .dir)
  (fits : (dir.join fileName).text.utf8ByteSize ≤ FileTree.pathLimit)

include relative lands there fits

theorem isFile_of_mem_ancestors (member : above ∈ dir.ancestors) :
    tree.isFile (above.join fileName) = standsIn tree (above.placeFrom tree.cwd) ∧
      (standsIn tree (above.placeFrom tree.cwd) = true →
        tree.resolve (above.join fileName) = .ok (above.placeFrom tree.cwd ++ [fileName])) := by
  obtain ⟨walked, stands⟩ := FileTree.walk_of_mem_ancestors relative lands there member
  obtain ⟨text, -, -⟩ := FileTree.lookable_of_resolve lands
  refine isFile_join_fileName stands ?_
  obtain rfl | isAbove := relative.eq_or_isAbove_of_mem_ancestors member
  · exact resolve_join_fileName relative text fits walked
  · have fits := (isAbove.size_join_le (by decide)).trans fits
    exact resolve_join_fileName (isAbove.isRelative relative)
      (fun zero => text (isAbove.mem_text zero)) fits walked

/-- The configuration of a directory comes from where its path goes through, looked at from the
end of it. -/
theorem loadsFrom_trail (env : Environment) : LoadsFrom tree env dir (dir.trail tree.cwd) := by
  have searched : find? tree dir =
      (dir.ancestors.find? (standsIn tree ∘ Path.placeFrom tree.cwd)).map (·.join fileName) := by
    rw [find?, candidates, List.find?_map]
    exact congrArg _ (List.find?_congr fun above member =>
      (isFile_of_mem_ancestors relative lands there fits member).1)
  unfold LoadsFrom load
  rw [← Path.map_placeFrom_ancestors relative, List.find?_map, searched]
  cases found : dir.ancestors.find? (standsIn tree ∘ Path.placeFrom tree.cwd) with
  | none => rfl
  | some above =>
    have holds := List.find?_some found
    have member := List.mem_of_find?_eq_some found
    exact ⟨above.join fileName,
      (isFile_of_mem_ancestors relative lands there fits member).2 holds, rfl⟩

end Search

/-- The search for a configuration goes up along the text of a path. Without `..` in it these are
the directories that hold the one it begins with, as far up as the working directory, and if
none above that has a configuration, the nearest one counts. -/
theorem load_nearest (env : Environment) (relative : dir.IsRelative)
    (lands : tree.resolve dir = .ok place) (there : tree.entry? place = some .dir)
    (fits : (dir.join fileName).text.utf8ByteSize ≤ FileTree.pathLimit) :
    LoadsFrom tree env dir (dir.trail tree.cwd) ∧
      ((∀ above, above <+: tree.cwd → above ≠ tree.cwd → standsIn tree above = false) →
        .parent ∉ dir.components → LoadsFrom tree env dir place.inits.reverse) := by
  have loaded := loadsFrom_trail relative lands there fits env
  refine ⟨loaded, fun none down => ?_⟩
  obtain ⟨text, filled, short⟩ := FileTree.lookable_of_resolve lands
  rw [FileTree.resolve_eq_walk relative text filled short] at lands
  rw [LoadsFrom, ← FileTree.placeFrom_of_walk relative lands, ← Path.find?_trail relative down none]
  exact loaded

/-- A directory with the name of the configuration file does not count. -/
theorem load_nearest_file :
    let tree := FileTree.ofEntries ["work"]
      [(⟨"cmtport.toml"⟩, some []), (⟨"a/cmtport.toml"⟩, none), (⟨"a/b"⟩, none)]
    tree.resolve ⟨"./a/b"⟩ = .ok ["work", "a", "b"] ∧
      LoadsFrom tree {} ⟨"./a/b"⟩ [["work", "a", "b"], ["work", "a"], ["work"], []] ∧
      (load tree {} ⟨"./a/b"⟩).map LoadedConfig.source = .ok (some ⟨"./cmtport.toml"⟩) := by
  intro tree
  have lands : tree.resolve ⟨"./a/b"⟩ = .ok ["work", "a", "b"] := by decide +kernel
  have there : tree.entry? ["work", "a", "b"] = some .dir := by rfl
  have none : ∀ above, above <+: tree.cwd → above ≠ tree.cwd → standsIn tree above = false := by
    intro above prefixed other
    have cwd : tree.cwd = ["work"] := by rfl
    rw [cwd] at prefixed other
    obtain rfl | ⟨rest, rfl, ends⟩ := List.prefix_cons_iff.1 prefixed
    · decide +kernel
    · rw [List.prefix_nil.1 ends] at other
      exact absurd rfl other
  have nearest := (load_nearest {} (by decide) lands there (by decide +kernel)).2 none
    (by decide +kernel)
  exact ⟨lands, nearest, by decide +kernel⟩

/-- What `..` leaves is searched as well: with a configuration only there, and none in any
directory that holds the one searched for, it counts all the same. -/
theorem load_outside :
    let tree := FileTree.ofEntries ["work"] [(⟨"a/cmtport.toml"⟩, some []), (⟨"b"⟩, none)]
    tree.resolve ⟨"a/../b"⟩ = .ok ["work", "b"] ∧ tree.isDir ["work", "b"] = true ∧
      ["work", "b"].inits.all (fun above => !standsIn tree above) = true ∧
      (load tree {} ⟨"a/../b"⟩).map LoadedConfig.source = .ok (some ⟨"a/cmtport.toml"⟩) := by
  decide +kernel

end Config

end Requirements
