import Requirements.Proofs.Builder
import Requirements.Proofs.SourceWords

/-!
# Last names of packages

The libraries of a dependency are looked up by a last name. It is not taken from the package that
the dependency names but from the name that this package gets behind its path, so the two are
joined with a slash and cut apart again. `uses_add_use` says that the detour does no harm. However
many slashes there are at the end of the path or of the package, the last name is the one of the
package, and only a package of nothing but slashes takes the one of its path.
-/

namespace Requirements

namespace Reference

/-- The last name of a path. Slashes at its end do not count, and of what is in front of them it is
all, or all behind the last slash. -/
inductive LastName : List Char → List Char → Prop
  | only {name : List Char} (bare : '/' ∉ name) (count : Nat) :
    LastName (name ++ List.replicate count '/') name
  | behind (front : List Char) {name : List Char} (bare : '/' ∉ name) (filled : name ≠ [])
    (count : Nat) : LastName (front ++ '/' :: name ++ List.replicate count '/') name

theorem dropTrailing_only {name : List Char} (bare : '/' ∉ name) (count : Nat) :
    Text.dropTrailing '/' (name ++ List.replicate count '/') = name :=
  Text.dropTrailing_append_replicate (fun last => bare (List.mem_of_getLast? last)) count

theorem dropTrailing_behind (front : List Char) {name : List Char} (bare : '/' ∉ name)
    (filled : name ≠ []) (count : Nat) :
    Text.dropTrailing '/' (front ++ '/' :: name ++ List.replicate count '/') =
      front ++ '/' :: name := by
  refine Text.dropTrailing_append_replicate (fun last => bare ?_) count
  rw [List.getLast?_append_cons, List.getLast?_cons_of_ne_nil filled] at last
  exact List.mem_of_getLast? last

namespace LastName

variable {path name : List Char}

theorem not_mem (h : LastName path name) : '/' ∉ name := by
  cases h <;> assumption

/-- There is no name in nothing but slashes, and only there. -/
theorem eq_nil_iff (h : LastName path name) : name = [] ↔ ∀ c ∈ path, c = '/' := by
  constructor
  · rintro rfl
    cases h with
    | only bare count => exact fun c member => List.eq_of_mem_replicate member
    | behind front bare filled count => exact absurd rfl filled
  · intro slashes
    have inside : ∀ c ∈ name, c ∈ path := by
      cases h <;> simp +contextual
    rw [List.eq_nil_iff_forall_not_mem]
    intro c member
    exact h.not_mem (slashes c (inside c member) ▸ member)

theorem dropTrailing (h : LastName path name) : LastName (Text.dropTrailing '/' path) name := by
  cases h with
  | only bare count =>
    rw [dropTrailing_only bare]
    simpa using LastName.only bare 0
  | behind front bare filled count =>
    rw [dropTrailing_behind front bare filled]
    simpa using LastName.behind front bare filled 0

theorem append_replicate (h : LastName path name) (more : Nat) :
    LastName (path ++ List.replicate more '/') name := by
  cases h with
  | only bare count =>
    rw [List.append_assoc, List.replicate_append_replicate]
    exact .only bare _
  | behind front bare filled count =>
    rw [List.append_assoc, List.replicate_append_replicate]
    exact .behind front bare filled _

theorem append_left (h : LastName path name) (filled : name ≠ []) (above : List Char) :
    LastName (above ++ '/' :: path) name := by
  cases h with
  | only bare count =>
    rw [← List.cons_append, ← List.append_assoc]
    exact .behind above bare filled count
  | behind front bare _ count =>
    simpa using LastName.behind (above ++ '/' :: front) bare filled count

end LastName

theorem exists_lastName (path : List Char) : ∃ name, LastName path name := by
  obtain ⟨count, split⟩ := Text.exists_eq_dropTrailing_append '/' path
  have last := Text.getLast?_dropTrailing '/' path
  rw [split]
  generalize Text.dropTrailing '/' path = core at last
  by_cases slash : '/' ∈ core
  · -- The last slash is the first one from behind.
    obtain ⟨back, front, reversed, bare⟩ := List.eq_append_cons_of_mem (List.mem_reverse.2 slash)
    obtain rfl : core = front.reverse ++ '/' :: back.reverse := by
      simpa using congrArg List.reverse reversed
    refine ⟨back.reverse, .behind front.reverse (by simpa using bare) (fun empty => ?_) count⟩
    rw [empty] at last
    simp at last
  · exact ⟨core, .only slash count⟩

theorem LastName.eq_baseName {path : String} {name : List Char} (h : LastName path.toList name) :
    name = (baseName path).toList := by
  have cut : ((Text.dropTrailing '/' path.toList).splitOn '/').getLast? = some name := by
    generalize path.toList = text at h
    cases h with
    | only bare count =>
      rw [dropTrailing_only bare, List.splitOn_eq_singleton bare]
      rfl
    | behind front bare filled count =>
      rw [dropTrailing_behind front bare filled, List.splitOn_append_cons_self,
        List.splitOn_eq_singleton bare, List.getLast?_append]
      rfl
  rw [baseName, cut, Option.getD_some, String.toList_ofList]

theorem lastName_baseName (path : String) : LastName path.toList (baseName path).toList := by
  obtain ⟨name, h⟩ := exists_lastName path.toList
  rwa [h.eq_baseName] at h

theorem baseName_eq_of_lastName {path name : String} (h : LastName path.toList name.toList) :
    baseName path = name :=
  String.toList_inj.1 h.eq_baseName.symm

theorem baseName_eq_empty_iff {path : String} :
    baseName path = "" ↔ ∀ c ∈ path.toList, c = '/' := by
  rw [← (lastName_baseName path).eq_nil_iff, String.toList_eq_nil_iff]

theorem baseName_baseName (path : String) : baseName (baseName path) = baseName path := by
  refine baseName_eq_of_lastName ?_
  simpa using LastName.only (lastName_baseName path).not_mem 0

/-- What stands above a package with a name does not count. -/
theorem baseName_join {package : String} (named : ∃ c ∈ package.toList, c ≠ '/')
    (above : List Char) : baseName (.ofList above ++ "/" ++ package) = baseName package := by
  have filled : (baseName package).toList ≠ [] := by
    rw [Ne, (lastName_baseName package).eq_nil_iff]
    push Not
    exact named
  refine baseName_eq_of_lastName ?_
  simpa using (lastName_baseName package).append_left filled above

/-- A package without a name does not count. -/
theorem baseName_join_slashes {package : String} (slashes : ∀ c ∈ package.toList, c = '/')
    (path : String) :
    baseName (.ofList (Text.dropTrailing '/' path.toList) ++ "/" ++ package) = baseName path := by
  refine baseName_eq_of_lastName ?_
  have longer := (lastName_baseName path).dropTrailing.append_replicate (package.length + 1)
  rw [List.replicate_succ, ← String.length_toList, ← List.eq_replicate_of_mem slashes] at longer
  simpa using longer

end Reference

namespace Use

/-- The last name of a dependency: the one of its package or, if this has none, the one of its
path. -/
def lastName (dependency : Use) : String :=
  if dependency.package.toList.all (· == '/') then
    (dependency.path.map Reference.baseName).getD ""
  else Reference.baseName dependency.package

/-- Joining a package with its path keeps the last name. -/
theorem baseName_qualifiedName (dependency : Use) :
    Reference.baseName dependency.qualifiedName = dependency.lastName := by
  obtain ⟨package, version, path, switches, visibility⟩ := dependency
  rw [lastName, qualifiedName]
  by_cases all : package.toList.all (· == '/') = true
  · have slashes : ∀ c ∈ package.toList, c = '/' := by simpa using all
    have nameless : Reference.baseName package = "" := Reference.baseName_eq_empty_iff.2 slashes
    rw [if_pos all]
    cases path with
    | none => exact nameless
    | some path =>
      dsimp only
      split
      case isTrue empty =>
        obtain rfl := String.isEmpty_iff.1 empty
        have pathless : Reference.baseName "" = "" := Reference.baseName_eq_empty_iff.2 (by simp)
        exact nameless.trans pathless.symm
      case isFalse => exact Reference.baseName_join_slashes slashes path
  · have named : ∃ c ∈ package.toList, c ≠ '/' := by simpa using all
    rw [if_neg all]
    cases path with
    | none => rfl
    | some path =>
      dsimp only
      split
      case isTrue => rfl
      case isFalse => exact Reference.baseName_join named _

end Use

example :
    (Use.mk "//" none (some "External/AtlasROOT/") [] .exported).lastName = "AtlasROOT" := by
  decide

theorem Profile.librariesOf_qualifiedName (profile : Profile) (dependency : Use) :
    profile.librariesOf dependency.qualifiedName = profile.remap dependency.lastName := by
  rw [librariesOf, dependency.baseName_qualifiedName]

namespace Graph.Builder

/-- The libraries after a run are those from before, and then those of the dependencies in it. -/
theorem uses_addAll (profile : Profile) (package : String) (folded : List Nat) (state : Builder)
    (entries : List (Statement × Nat)) :
    (state.addAll profile package folded entries).map Builder.uses =
      (state.addAll profile package folded entries).map fun _ =>
        state.uses ++ ((entries.map Prod.fst).filterMap Statement.use?).flatMap fun dependency =>
          profile.remap dependency.lastName := by
  rw [addAll_eq]
  cases expand profile package state.uses state.graph.targets (entries.map Prod.fst) with
  | error error => rfl
  | ok targets => simp only [Except.map, taking, usesOf, Profile.librariesOf_qualifiedName]

/-- A dependency adds the libraries of its last name, and in a run each dependency does so in its
turn. A last name has no slash in it, and is its own last name. -/
theorem uses_add_use (profile : Profile) (package : String) (folded : List Nat) (state : Builder) :
    (∀ (dependency : Use) (index : Nat),
      (state.add profile package folded (.use dependency) index).map Builder.uses =
        .ok (state.uses ++ profile.remap dependency.lastName)) ∧
    (∀ entries : List (Statement × Nat),
      (state.addAll profile package folded entries).map Builder.uses =
        (state.addAll profile package folded entries).map fun _ =>
          state.uses ++ ((entries.map Prod.fst).filterMap Statement.use?).flatMap fun dependency =>
            profile.remap dependency.lastName) ∧
    ∀ path : String, '/' ∉ (Reference.baseName path).toList ∧
      Reference.baseName (Reference.baseName path) = Reference.baseName path := by
  refine ⟨fun dependency index => ?_, uses_addAll profile package folded state,
    fun path => ⟨(Reference.lastName_baseName path).not_mem, Reference.baseName_baseName path⟩⟩
  rw [add, ← profile.librariesOf_qualifiedName]
  rfl

end Graph.Builder

end Requirements
