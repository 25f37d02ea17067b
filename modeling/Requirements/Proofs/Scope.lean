import Requirements.Proofs.Placement
import Mathlib.Data.List.InsertIdx

/-!
# Which dependencies a pattern sees

A pattern gives its target the libraries of the dependencies above it. So a dependency
that is declared at some place of a file shows in two ways: it is listed among the
dependencies, and the targets which patterns below it name may have other libraries.
`expand_withoutUses` runs the patterns twice, with different libraries, and finds the same
targets up to what they use; `ofFile_declareAt` says of the graph that nothing else of it
changes.
-/

namespace Requirements

/-- A file in which a dependency is declared at a place. -/
def File.declareAt (file : File) (position : Nat) (dependency : Use) : File :=
  { file with statements := file.statements.insertIdx position (.use dependency) }

/-- A target without its libraries. -/
def Target.withoutUses (target : Target) : Target := { target with uses := [] }

/-- Targets without their libraries. -/
def TargetSet.withoutUses (set : TargetSet) : TargetSet := set.map Target.withoutUses

/-- An application of a known pattern names a target. -/
def Profile.Names (profile : Profile) (package : String) (application : Application)
    (name : String) : Prop :=
  ∃ converter edit, profile.converter? application.name = some converter ∧
    converter.edit package application = .ok edit ∧ edit.name = name

theorem insertIdx_length_append {α : Type} (above below : List α) (item : α) :
    (above ++ below).insertIdx above.length item = above ++ item :: below := by
  induction above with
  | nil => rfl
  | cons first above ih => simp [ih]

namespace File

variable {file : File} {position : Nat}

theorem statements_declareAt (inside : position ≤ file.statements.length) (dependency : Use) :
    (file.declareAt position dependency).statements =
      file.statements.take position ++ .use dependency :: file.statements.drop position := by
  have inserted := insertIdx_length_append (file.statements.take position)
    (file.statements.drop position) (.use dependency)
  rwa [List.take_append_drop, List.length_take_of_le inside] at inserted

theorem uses_declareAt (inside : position ≤ file.statements.length) (dependency : Use) :
    (file.declareAt position dependency).uses = file.uses.insertIdx
      ((file.statements.take position).filterMap Statement.use?).length dependency := by
  have parts : file.uses = (file.statements.take position).filterMap Statement.use? ++
      (file.statements.drop position).filterMap Statement.use? := by
    rw [← List.filterMap_append, List.take_append_drop, uses]
  rw [parts, insertIdx_length_append, uses, statements_declareAt inside, List.filterMap_append]
  rfl

end File

theorem TargetSet.withoutUses_getOrNew (set : TargetSet) (name : String) (feature : Feature) :
    (set.getOrNew name feature).withoutUses = set.withoutUses.getOrNew name feature := by
  rw [getOrNew, getOrNew, withoutUses, get?_map]
  cases set.get? name <;> rfl

namespace TargetEdit

/-- The libraries of the package and of the target matter for the libraries only. -/
theorem withoutUses_change (edit : TargetEdit) (first second : List String)
    {target other : Target} (same : target.withoutUses = other.withoutUses) :
    (edit.change first target).withoutUses = (edit.change second other).withoutUses := by
  have keep (pairs : List (String × String)) (start : Target) :
      (pairs.foldl (fun target pair => target.setKwarg pair.1 pair.2) start).withoutUses =
        pairs.foldl (fun target pair => target.setKwarg pair.1 pair.2) start.withoutUses :=
    (List.foldl_hom Target.withoutUses fun _ _ => rfl).symm
  rw [change, change, keep, keep]
  congr 1
  exact congrArg (fun target : Target =>
    { target with sources := edit.sources.getD target.sources }) same

theorem withoutUses_apply (edit : TargetEdit) (first second : List String)
    {set other : TargetSet} (same : set.withoutUses = other.withoutUses) :
    (edit.apply first set).withoutUses = (edit.apply second other).withoutUses := by
  have found : (set.getOrNew edit.name edit.feature).withoutUses =
      (other.getOrNew edit.name edit.feature).withoutUses := by
    rw [TargetSet.withoutUses_getOrNew, TargetSet.withoutUses_getOrNew, same]
  have changed := edit.withoutUses_change first second found
  have written := congrArg (fun target : Target => { target with name := edit.name }) changed
  rw [apply, apply, TargetSet.findOrCreate_eq, TargetSet.findOrCreate_eq, TargetSet.withoutUses,
    TargetSet.withoutUses, TargetSet.map_insert, TargetSet.map_insert]
  exact congrArg₂ TargetSet.insert same written

end TargetEdit

namespace Graph

variable {profile : Profile} {package : String}

/-- The patterns below a dependency are applied with its libraries too. -/
theorem expand_append_use {uses : List String} {targets middle : TargetSet}
    {first : List Statement} (h : expand profile package uses targets first = .ok middle)
    (dependency : Use) (last : List Statement) :
    expand profile package uses targets (first ++ .use dependency :: last) =
      expand profile package
        (uses ++ usesOf profile first ++ profile.librariesOf dependency.qualifiedName) middle
        last := by
  rw [expand_append, h]
  rfl

/-- With other libraries, patterns make the same targets up to what they use. -/
theorem expand_withoutUses {first second : List String} {set other result : TargetSet}
    (same : set.withoutUses = other.withoutUses) {statements : List Statement}
    (h : expand profile package first set statements = .ok result) :
    ∃ result', expand profile package second other statements = .ok result' ∧
      result'.withoutUses = result.withoutUses :=
  expand_related (R := fun set other => other.withoutUses = set.withoutUses)
    (L := fun _ _ => True) (fun _ _ => trivial)
    (fun edit first second _ _ _ same => edit.withoutUses_apply second first same) trivial
    same.symm h

/-- A target that no pattern names stays as it is. -/
theorem get?_expand_of_not_names {uses : List String} {targets result : TargetSet}
    {name : String} {statements : List Statement}
    (unnamed : ∀ application, .applyPattern application ∈ statements →
      ¬ profile.Names package application name)
    (h : expand profile package uses targets statements = .ok result) :
    result.get? name = targets.get? name := by
  induction statements generalizing uses targets with
  | nil => rw [Except.ok.inj h]
  | cons statement rest ih =>
    obtain ⟨middle, one, ran⟩ := expand_append_ok [statement] rest h
    rw [ih (fun application member => unnamed application (List.mem_cons_of_mem _ member)) ran]
    rcases expand_singleton_cases one with
      ⟨-, rfl⟩ | ⟨application, converter, edit, rfl, known, made, rfl⟩
    · rfl
    · refine edit.get?_apply_of_ne uses targets fun named => ?_
      exact unnamed application List.mem_cons_self ⟨converter, edit, known, made, named⟩

/-- What a dependency that is declared at a place of a file changes of the graph. -/
structure SeenFrom (profile : Profile) (file : File) (position : Nat) (dependency : Use)
    (before after : Graph) : Prop where
  package : after.package = before.package
  configuration : after.configuration = before.configuration
  pendingPatterns : after.pendingPatterns = before.pendingPatterns
  dialect : after.dialect = before.dialect
  /-- The dependency is listed after those above it. -/
  dependencies : after.deps = before.deps.insertIdx
    ((file.statements.take position).filterMap Statement.use?).length (.ofUse dependency)
  names : after.targets.names = before.targets.names
  fields : after.targets.withoutUses = before.targets.withoutUses
  /-- Only the patterns below the dependency see it. -/
  uses : ∀ name,
    (∀ application, .applyPattern application ∈ file.statements.drop position →
      ¬ profile.Names (Reference.baseName file.package) application name) →
    after.targets.get? name = before.targets.get? name
  /-- No pattern sees a dependency that no library stands for. -/
  dropped : profile.librariesOf dependency.qualifiedName = [] → after.targets = before.targets

variable {file : File} {position : Nat}

theorem sameElsewhere_declareAt (profile : Profile) (inside : position ≤ file.statements.length)
    (dependency : Use) : SameElsewhere profile (file.declareAt position dependency) file := by
  refine ⟨rfl, rfl, ?_⟩
  rw [File.statements_declareAt inside, List.filter_append, List.filter_cons_of_neg Bool.false_ne_true,
    ← List.filter_append, List.take_append_drop]

/-- A dependency is listed, and does nothing else to the parts of a graph which do not depend
on the order of the statements. -/
theorem withTargets_declareAt (profile : Profile) (inside : position ≤ file.statements.length)
    (dependency : Use) (targets : TargetSet) :
    withTargets profile (file.declareAt position dependency) targets =
      { withTargets profile file targets with
        deps := (withTargets profile file targets).deps.insertIdx
          ((file.statements.take position).filterMap Statement.use?).length
          (.ofUse dependency) } := by
  rw [(sameElsewhere_declareAt profile inside dependency).withTargets_eq,
    File.uses_declareAt inside, List.map_insertIdx]
  rfl

theorem targets_declareAt (profile : Profile) (inside : position ≤ file.statements.length)
    (dependency : Use) :
    (declare profile (file.declareAt position dependency).statements).targets =
      (declare profile file.statements).targets :=
  (sameElsewhere_declareAt profile inside dependency).targets_declare

/-- Regular names are given to what targets use. -/
theorem withoutUses_withTargets (profile : Profile) (file : File) (targets : TargetSet) :
    (withTargets profile file targets).targets.withoutUses = targets.withoutUses := by
  apply TargetSet.ext
  simp [withTargets, TargetSet.withoutUses, TargetSet.toList_map, Target.withoutUses]

/-- A pattern sees the dependencies above it and no others. Wherever a dependency is declared
in a file that has a graph, the file keeps a graph, in which the dependency is listed and
nothing else has changed but what the targets use that patterns below it name. -/
theorem ofFile_declareAt {graph : Graph} (h : ofFile profile file = .ok graph)
    (inside : position ≤ file.statements.length) (dependency : Use) :
    ∃ later, ofFile profile (file.declareAt position dependency) = .ok later ∧
      SeenFrom profile file position dependency graph later := by
  obtain ⟨targets, ran, rfl⟩ := ofFile_ok h
  -- The runs agree up to the place, and below it they differ in the libraries.
  have split : targetsOf profile file = expand profile (Reference.baseName file.package) []
      (declare profile file.statements).targets
      (file.statements.take position ++ file.statements.drop position) := by
    rw [List.take_append_drop, targetsOf]
  obtain ⟨middle, above, below⟩ := expand_append_ok _ _ (split ▸ ran)
  obtain ⟨later, seen, same⟩ : ∃ later, expand profile (Reference.baseName file.package)
      (usesOf profile (file.statements.take position) ++
        profile.librariesOf dependency.qualifiedName) middle
      (file.statements.drop position) = .ok later ∧ later.withoutUses = targets.withoutUses :=
    expand_withoutUses rfl below
  have ran' : targetsOf profile (file.declareAt position dependency) = .ok later := by
    rw [targetsOf, targets_declareAt profile inside, File.statements_declareAt inside]
    exact (expand_append_use above dependency _).trans seen
  refine ⟨_, by rw [ofFile_eq, ran']; rfl, ?_⟩
  have fields :
      (withTargets profile (file.declareAt position dependency) later).targets.withoutUses =
        (withTargets profile file targets).targets.withoutUses := by
    rw [withoutUses_withTargets, withoutUses_withTargets, same]
  rw [withTargets_declareAt profile inside] at fields ⊢
  exact
    { package := rfl
      configuration := rfl
      pendingPatterns := rfl
      dialect := rfl
      dependencies := rfl
      names := by simpa [TargetSet.withoutUses] using congrArg TargetSet.names fields
      fields
      uses := by
        intro name unnamed
        have kept := (get?_expand_of_not_names unnamed seen).trans
          (get?_expand_of_not_names unnamed below).symm
        simp only [withTargets, TargetSet.get?_map, kept]
      dropped := by
        intro none
        rw [none, List.append_nil] at seen
        rw [Except.ok.inj (seen.symm.trans below)] }

/-- Between two patterns, a dependency is seen by the second. -/
theorem ofFile_declareAt_between :
    let file : File := ⟨⟨"Control/Foo/cmt/requirements"⟩, "Foo",
      [.use ⟨"Bar", none, none, [], .exported⟩,
       .applyPattern ⟨"installed_library", [], ["library=First"]⟩,
       .applyPattern ⟨"installed_library", [], ["library=Second"]⟩]⟩
    let dependency : Use := ⟨"AtlasROOT", none, none, [], .exported⟩
    ∃ graph later, ofFile .atlasoff file = .ok graph ∧ 2 ≤ file.statements.length ∧
      ofFile .atlasoff (file.declareAt 2 dependency) = .ok later ∧
      (later.targets.get? "Second").map Target.uses = some ["Bar", "ROOT"] ∧
      SeenFrom .atlasoff file 2 dependency graph later := by
  intro file dependency
  have ok : ∃ graph, ofFile .atlasoff file = .ok graph := ⟨_, rfl⟩
  obtain ⟨graph, h⟩ := ok
  have inside : 2 ≤ file.statements.length := by decide
  obtain ⟨later, ran, seen⟩ := ofFile_declareAt h inside dependency
  have uses : (ofFile .atlasoff (file.declareAt 2 dependency)).map (fun graph =>
      (graph.targets.get? "Second").map Target.uses) = .ok (some ["Bar", "ROOT"]) := by
    decide +kernel
  rw [ran] at uses
  exact ⟨graph, later, h, inside, ran, Except.ok.inj uses, seen⟩

end Graph

end Requirements
