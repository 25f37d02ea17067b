import Requirements.Proofs.Builder

/-!
# Which packages need a build script

A build script is needed for what some statements say, or for where the package stands. The
first is read off all statements of a file, those that have become part of a target among them,
and the second off the text of the name and of the path. `ofFile_dialect` says when a graph is
imperative, and that further statements never make it declarative.
-/

namespace Requirements

/-- The statements for which a declarative build file has no words. -/
inductive Statement.NeedsScript : Statement → Prop
  | removePath (value : Conditional) : NeedsScript (.setting .removePath value)
  | removeMacro (value : Conditional) : NeedsScript (.setting .removeMacro value)
  | tagged {value : Conditional} (several : 2 ≤ value.branches.length) :
    NeedsScript (.setting .defineMacro value)
  | makeFragment (name : String) (switches : List String) :
    NeedsScript (.makeFragment name switches)
  | pattern (definition : PatternDefinition) : NeedsScript (.pattern definition)

/-- A path read from where one of its components begins: at its start, or after a slash. -/
inductive FromComponent (path : String) : String → Prop
  | start : FromComponent path path
  | slash {above rest : String} (split : path = above ++ "/" ++ rest) : FromComponent path rest

/-- A prefix of a profile begins the name of a package, or its path from some component on. -/
def Profile.Forces (profile : Profile) (path name : String) : Prop :=
  ∃ lead ∈ profile.imperativePrefixes, (∃ rest, name = lead ++ rest) ∨
    ∃ below, FromComponent path below ∧ ∃ rest, below = lead ++ rest

/-- A text occurs after a slash exactly if it begins the path from a component behind one. -/
theorem Text.occursIn_slash_iff {path lead : String} :
    Text.occursIn ('/' :: lead.toList) path.toList = true ↔
      ∃ above rest, path = above ++ "/" ++ (lead ++ rest) := by
  rw [occursIn_iff]
  constructor
  · rintro ⟨above, rest, split⟩
    refine ⟨.ofList above, .ofList rest, ?_⟩
    rw [← String.toList_inj, split]
    simp
  · rintro ⟨above, rest, rfl⟩
    exact ⟨above.toList, rest.toList, by simp⟩

theorem Profile.forcesImperative_iff {profile : Profile} {path name : String} :
    profile.forcesImperative path name = true ↔ profile.Forces path name := by
  rw [forcesImperative, List.any_eq_true]
  refine exists_congr fun lead => and_congr_right fun _ => ?_
  rw [Bool.or_eq_true, Bool.or_eq_true, Text.startsWith_iff, Text.startsWith_iff, or_assoc,
    Text.occursIn_slash_iff]
  refine or_congr_right ?_
  constructor
  · rintro (begins | ⟨above, rest, split⟩)
    · exact ⟨path, .start, begins⟩
    · exact ⟨lead ++ rest, .slash split, rest, rfl⟩
  · rintro ⟨below, start | split, rest, begins⟩
    · exact .inl ⟨rest, begins⟩
    · exact .inr ⟨_, rest, begins ▸ split⟩

/-- A prefix may stand for several components, but not for a part of one. -/
example : Profile.atlasoff.forcesImperative "Tools/External/Foo" "Foo" = true ∧
    Profile.atlasoff.forcesImperative "Tools/MyExternal/Foo" "Foo" = false := by
  decide

namespace Graph

variable {profile : Profile} {file : File} {graph : Graph}

theorem needsScript_iff {statement : Statement} :
    needsScript statement = true ↔ statement.NeedsScript := by
  constructor
  · fun_cases needsScript statement with
    | case1 value => exact fun _ => .removePath value
    | case2 value => exact fun _ => .removeMacro value
    | case3 name switches => exact fun _ => .makeFragment name switches
    | case4 definition => exact fun _ => .pattern definition
    | case5 value => exact fun needs => .tagged (Conditional.isTagged_iff_two_le.1 needs)
    | case6 => exact nofun
  · rintro (_ | _ | several | _ | _)
    · rfl
    · rfl
    · exact Conditional.isTagged_iff_two_le.2 several
    · rfl
    · rfl

theorem needsImperative_iff {statements : List Statement} :
    needsImperative statements = true ↔ ∃ statement ∈ statements, statement.NeedsScript := by
  simp only [needsImperative, List.any_eq_true, needsScript_iff]

theorem dialectOf_eq_imperative_iff {package : PackageInfo} {statements : List Statement} :
    dialectOf profile package statements = .imperative ↔
      (∃ statement ∈ statements, statement.NeedsScript) ∨
        profile.Forces package.path package.name := by
  rw [dialectOf, Bool.or_comm, ← needsImperative_iff, ← Profile.forcesImperative_iff,
    ← Bool.or_eq_true]
  split <;> simp_all

/-- A graph is imperative exactly if some statement of the file needs a build script, whatever
has become of that statement, or a prefix of the profile begins the name of the package or its
path from some component on. So for one package and one profile, statements that come on top of
those of an imperative file leave it imperative. -/
theorem ofFile_dialect (made : ofFile profile file = .ok graph) :
    (graph.dialect = .imperative ↔
      (∃ statement ∈ file.statements, statement.NeedsScript) ∨
        profile.Forces file.packagePath file.package) ∧
    ∀ larger graph', file.statements.Sublist larger.statements →
      larger.packagePath = file.packagePath → larger.package = file.package →
      ofFile profile larger = .ok graph' → graph.dialect = .imperative →
      graph'.dialect = .imperative := by
  have dialect {file : File} {graph : Graph} (made : ofFile profile file = .ok graph) :
      graph.dialect = .imperative ↔
        (∃ statement ∈ file.statements, statement.NeedsScript) ∨
          profile.Forces file.packagePath file.package := by
    obtain ⟨targets, -, rfl⟩ := ofFile_ok made
    exact dialectOf_eq_imperative_iff
  refine ⟨dialect made, fun larger graph' within path package made' imperative => ?_⟩
  rw [dialect made', path, package]
  rcases (dialect made).1 imperative with ⟨statement, member, needs⟩ | forced
  · exact .inl ⟨statement, within.subset member, needs⟩
  · exact .inr forced

/-- A macro is removed that belongs to a library, so that nothing of it is left but the dialect. -/
theorem ofFile_dialect_folded :
    let path : Path := ⟨"Control/Foo/cmt/requirements"⟩
    let library : Statement := .target .library ⟨"Foo", ["*.cxx"]⟩
    let removal : Statement := .setting .removeMacro ⟨"Foolinkopts", "-lm", []⟩
    let file : File := ⟨path, "Foo", [library, removal]⟩
    let larger : File := ⟨path, "Foo", [library, .author "Anna", removal]⟩
    ∃ graph graph', ofFile .atlasoff file = .ok graph ∧ ofFile .atlasoff larger = .ok graph' ∧
      graph.configuration = [] ∧ graph.dialect = .imperative ∧ graph'.dialect = .imperative := by
  intro path library removal file larger
  have left : (ofFile .atlasoff file).toOption.map Graph.configuration = some [] := by
    decide +kernel
  have made' : (ofFile .atlasoff larger).toBool = true := by decide +kernel
  have within : file.statements.Sublist larger.statements := by decide
  cases made : ofFile .atlasoff file with
  | error error =>
    rw [made] at left
    cases left
  | ok graph =>
    cases found : ofFile .atlasoff larger with
    | error error =>
      rw [found] at made'
      cases made'
    | ok graph' =>
      rw [made] at left
      have imperative : graph.dialect = .imperative :=
        (ofFile_dialect made).1.2 (.inl ⟨removal, by decide, .removeMacro _⟩)
      exact ⟨graph, graph', rfl, rfl, Option.some.inj left, imperative,
        (ofFile_dialect made).2 larger graph' within rfl rfl found imperative⟩

end Graph

end Requirements
