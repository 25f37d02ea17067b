import Requirements.Graph.Analysis

/-!
# The graph of a file in closed form

The builder takes statements one at a time and carries a graph and a list of
libraries. Only the targets really depend on the order of the steps: `expand` applies
the patterns in order, each with the libraries of the dependencies above it, and is
the only part that can fail. Every other part of the graph is a selection from the
statements. `addAll_eq` says so for a run from any state, and `ofFile_eq` for a file.
-/

namespace Requirements

namespace Statement

/-- The author that a statement names. -/
def author? : Statement → Option String
  | .author name => some name
  | _ => none

/-- The manager that a statement names. -/
def manager? : Statement → Option String
  | .manager name => some name
  | _ => none

/-- The version that a statement gives. -/
def version? : Statement → Option String
  | .version text => some text
  | _ => none

/-- The pattern application that a statement makes. -/
def application? : Statement → Option Application
  | .applyPattern application => some application
  | _ => none

/-- Whether a statement has a meaning of its own for the graph. All others are kept in
the configuration unless they are folded into a target. -/
def isDispatched : Statement → Bool
  | .package _ | .author _ | .manager _ | .version _ | .use _ | .applyPattern _
  | .target _ _ | .openSection _ | .closeSection _ => true
  | _ => false

end Statement

/-- Whether a profile has no converter for a pattern, so that it stays pending. -/
def Profile.isPending (profile : Profile) (application : Application) : Bool :=
  (profile.converter? application.name).isNone

namespace Graph

/-- The libraries of the dependencies among statements. -/
def usesOf (profile : Profile) (statements : List Statement) : List String :=
  (statements.filterMap Statement.use?).flatMap fun dependency =>
    profile.librariesOf dependency.qualifiedName

/-- The targets after the patterns among statements have been applied in order, each
with the given libraries and those of the dependencies above it. -/
def expand (profile : Profile) (package : String) (uses : List String) (targets : TargetSet) :
    List Statement → Except PatternError TargetSet
  | [] => .ok targets
  | .use dependency :: rest =>
    expand profile package (uses ++ profile.librariesOf dependency.qualifiedName) targets rest
  | .applyPattern application :: rest =>
    match profile.converter? application.name with
    | none => expand profile package uses targets rest
    | some converter =>
      match converter.apply package uses application targets with
      | .error error => .error error
      | .ok next => expand profile package uses next rest
  | _ :: rest => expand profile package uses targets rest

theorem usesOf_cons (profile : Profile) (statement : Statement) (rest : List Statement) :
    usesOf profile (statement :: rest) = usesOf profile [statement] ++ usesOf profile rest := by
  cases statement <;> simp [usesOf, List.filterMap_cons, Statement.use?]

/-- Patterns are applied one after the other, the later ones with the libraries of all
dependencies above them. -/
theorem expand_append (profile : Profile) (package : String) (uses : List String)
    (targets : TargetSet) (first last : List Statement) :
    expand profile package uses targets (first ++ last) =
      (expand profile package uses targets first >>= fun middle =>
        expand profile package (uses ++ usesOf profile first) middle last) := by
  induction first generalizing uses targets with
  | nil => simp [expand, usesOf, bind, Except.bind]
  | cons statement first ih =>
    rw [usesOf_cons, List.cons_append]
    cases statement with
    | use dependency =>
      simp only [expand, ih]
      simp [usesOf, Statement.use?, List.append_assoc]
    | applyPattern application =>
      simp only [expand]
      cases profile.converter? application.name with
      | none => exact ih uses targets
      | some converter =>
        simp only
        cases converter.apply package uses application targets with
        | error error => rfl
        | ok next => exact ih uses next
    | _ => exact ih uses targets

namespace Builder

variable (profile : Profile) (folded : List Nat)

/-- The statements at places that are not folded which have no meaning of their own. -/
def leftOver (entries : List (Statement × Nat)) : List Statement :=
  (entries.filter fun (statement, index) =>
    !statement.isDispatched && !folded.contains index).map Prod.fst

/-- A state after entries have been taken in, given the targets that they lead to. -/
def taking (state : Builder) (entries : List (Statement × Nat)) (targets : TargetSet) :
    Builder :=
  let statements := entries.map Prod.fst
  let { package, deps, configuration, pendingPatterns, dialect, .. } := state.graph
  { graph :=
      { package :=
          { package with
            authors := package.authors ++ statements.filterMap Statement.author?
            managers := package.managers ++ statements.filterMap Statement.manager?
            version := (statements.filterMap Statement.version?).getLast?.or package.version }
        deps := deps ++ (statements.filterMap Statement.use?).map .ofUse
        targets
        configuration := configuration ++ leftOver folded entries
        pendingPatterns :=
          pendingPatterns ++ (statements.filterMap Statement.application?).filter profile.isPending
        dialect }
    uses := state.uses ++ usesOf profile statements }

theorem taking_taking (state : Builder) (first last : List (Statement × Nat))
    (middle targets : TargetSet) :
    (state.taking profile folded first middle).taking profile folded last targets =
      state.taking profile folded (first ++ last) targets := by
  simp [taking, leftOver, usesOf, Option.or_assoc]

theorem taking_nil (state : Builder) :
    state.taking profile folded [] state.graph.targets = state := by
  obtain ⟨⟨⟨_, _, _, _, _⟩, _, _, _, _, _⟩, _⟩ := state
  simp [taking, leftOver, usesOf]

/-- What one step does, in full: it fails if it applies a pattern that fails. -/
theorem add_eq (package : String) (state : Builder) (statement : Statement) (index : Nat) :
    state.add profile package folded statement index =
      (expand profile package state.uses state.graph.targets [statement]).map
        (state.taking profile folded [(statement, index)]) := by
  obtain ⟨⟨⟨_, _, _, _, _⟩, _, targets, _, _, _⟩, uses⟩ := state
  cases statement with
  | applyPattern application =>
    simp only [add, expand]
    cases found : profile.converter? application.name with
    | none =>
      simp [Except.map, taking, leftOver, usesOf, Profile.isPending, found, List.filterMap_cons,
        Statement.author?, Statement.manager?, Statement.version?, Statement.use?,
        Statement.application?, Statement.isDispatched]
    | some converter =>
      simp only
      cases converter.apply package uses application targets with
      | error error => rfl
      | ok next =>
        simp [Except.map, taking, leftOver, usesOf, Profile.isPending, found, List.filterMap_cons,
          Statement.author?, Statement.manager?, Statement.version?, Statement.use?,
          Statement.application?, Statement.isDispatched]
  | _ =>
    by_cases h : index ∈ folded <;>
      simp [add, expand, Except.map, taking, leftOver, usesOf, h, List.filterMap_cons,
        Statement.author?, Statement.manager?, Statement.version?, Statement.use?,
        Statement.application?, Statement.isDispatched]

/-- What a run does, in full: it fails if `expand` does, and with the same error. -/
theorem addAll_eq (package : String) (state : Builder) (entries : List (Statement × Nat)) :
    state.addAll profile package folded entries =
      (expand profile package state.uses state.graph.targets (entries.map Prod.fst)).map
        (state.taking profile folded entries) := by
  induction entries generalizing state with
  | nil => simp [addAll, expand, Except.map, taking_nil]
  | cons entry entries ih =>
    obtain ⟨statement, index⟩ := entry
    have split := expand_append profile package state.uses state.graph.targets [statement]
      (entries.map Prod.fst)
    simp only [List.map_cons, List.singleton_append] at split ⊢
    rw [addAll, add_eq, split]
    cases expand profile package state.uses state.graph.targets [statement] with
    | error error => rfl
    | ok middle =>
      simp only [Except.map, bind, Except.bind, ih]
      have targets : (state.taking profile folded [(statement, index)] middle).graph.targets =
        middle := rfl
      have uses : (state.taking profile folded [(statement, index)] middle).uses =
        state.uses ++ usesOf profile [statement] := rfl
      rw [targets, uses]
      cases expand profile package (state.uses ++ usesOf profile [statement]) middle
        (entries.map Prod.fst) with
      | error error => rfl
      | ok finish => simp [taking_taking]

end Builder

/-- The targets of a file after its patterns have been applied. -/
def targetsOf (profile : Profile) (file : File) : Except PatternError TargetSet :=
  expand profile (Reference.baseName file.package) [] (declare profile file.statements).targets
    file.statements

/-- What a file says of its package. -/
def infoOf (file : File) : PackageInfo where
  name := file.package
  path := file.packagePath
  authors := file.statements.filterMap Statement.author?
  managers := file.statements.filterMap Statement.manager?
  version := (file.statements.filterMap Statement.version?).getLast?

/-- The graph of a file with given targets. -/
def withTargets (profile : Profile) (file : File) (targets : TargetSet) : Graph where
  package := infoOf file
  deps := file.uses.map .ofUse
  targets := targets.map fun target => { target with uses := target.uses.map Reference.regular }
  configuration :=
    Builder.leftOver (declare profile file.statements).folded file.statements.zipIdx
  pendingPatterns :=
    (file.statements.filterMap Statement.application?).filter profile.isPending
  dialect :=
    dialectOf profile { name := file.package, path := file.packagePath } file.statements

/-- A file has a graph exactly when its patterns can be applied. -/
theorem ofFile_eq (profile : Profile) (file : File) :
    ofFile profile file = (targetsOf profile file).map (withTargets profile file) := by
  simp only [ofFile, Builder.addAll_eq, List.zipIdx_map_fst, targetsOf]
  cases expand profile (Reference.baseName file.package) []
    (declare profile file.statements).targets file.statements with
  | error error => rfl
  | ok targets =>
    simp [bind, Except.bind, pure, Except.pure, Except.map, Builder.taking, withTargets, infoOf,
      regularize, File.uses, List.zipIdx_map_fst]

theorem ofFile_ok {profile : Profile} {file : File} {graph : Graph}
    (h : ofFile profile file = .ok graph) :
    ∃ targets, targetsOf profile file = .ok targets ∧ graph = withTargets profile file targets := by
  rw [ofFile_eq] at h
  cases ran : targetsOf profile file with
  | error error => simp [ran, Except.map] at h
  | ok targets =>
    simp only [ran, Except.map, Except.ok.injEq] at h
    exact ⟨targets, rfl, h.symm⟩

end Graph

end Requirements
