import Requirements.Proofs.Declared
import Requirements.Proofs.Patterns

/-!
# What the order of statements matters for

Targets are made of three kinds of statements: declarations, untagged macros, and
dependencies with patterns. Two files that agree on each kind have the same targets,
dependencies and pending patterns, however the kinds stand among each other and
whatever other statements stand between them. Macros only have to agree for each
operation and name. If one of the files has no graph, then neither has the other, for
the same reason.
-/

namespace Requirements

/-- Whether a statement declares a target. -/
def Statement.isDeclaration : Statement → Bool
  | .target _ _ => true
  | _ => false

/-- Two files of one package that agree on what targets are made of. -/
structure File.SameParts (first second : File) : Prop where
  path : first.path = second.path
  package : first.package = second.package
  declarations : first.statements.filter Statement.isDeclaration =
    second.statements.filter Statement.isDeclaration
  macros : ∀ op name, first.statements.filter (Statement.isPlainMacro op name) =
    second.statements.filter (Statement.isPlainMacro op name)
  patterns : first.statements.filter Statement.isUseOrPattern =
    second.statements.filter Statement.isUseOrPattern

/-- A selection is made from the statements that can give something. -/
theorem filterMap_filter_of_none {α : Type} {select : Statement → Option α}
    {test : Statement → Bool}
    (h : ∀ statement : Statement, test statement = false → select statement = none)
    (statements : List Statement) :
    (statements.filter test).filterMap select = statements.filterMap select := by
  rw [List.filterMap_filter]
  congr 1
  funext statement
  cases kept : test statement with
  | true => rfl
  | false => exact (h statement kept).symm

namespace Graph

theorem declarations_filter (statements : List Statement) :
    declarations (statements.filter Statement.isDeclaration) = declarations statements := by
  refine filterMap_filter_of_none (fun statement h => ?_) statements
  cases statement with
  | target => cases h
  | _ => rfl

theorem filterMap_use_filter (statements : List Statement) :
    (statements.filter Statement.isUseOrPattern).filterMap Statement.use? =
      statements.filterMap Statement.use? := by
  refine filterMap_filter_of_none (fun statement h => ?_) statements
  cases statement with
  | use | applyPattern => cases h
  | _ => rfl

theorem filterMap_application_filter (statements : List Statement) :
    (statements.filter Statement.isUseOrPattern).filterMap Statement.application? =
      statements.filterMap Statement.application? := by
  refine filterMap_filter_of_none (fun statement h => ?_) statements
  cases statement with
  | use | applyPattern => cases h
  | _ => rfl

/-- Files that agree on their parts are expanded to the same targets, or fail alike. -/
theorem targetsOf_congr (profile : Profile) {first second : File}
    (same : first.SameParts second) : targetsOf profile first = targetsOf profile second := by
  have declared : (declare profile first.statements).targets =
      (declare profile second.statements).targets := by
    apply targets_declare_congr profile ?_ same.macros
    rw [← declarations_filter first.statements, same.declarations, declarations_filter]
  rw [targetsOf, targetsOf, declared, same.package,
    ← expand_filter (fun _ h => h) _ _ _ _ first.statements, same.patterns,
    expand_filter fun _ h => h]

/-- How the parts of a file stand among each other does not matter for its targets, its
dependencies and its pending patterns, nor for why it has no graph. -/
theorem ofFile_interleaving (profile : Profile) {first second : File}
    (same : first.SameParts second) :
    (ofFile profile first).map (fun graph => (graph.targets, graph.deps, graph.pendingPatterns)) =
      (ofFile profile second).map fun graph =>
        (graph.targets, graph.deps, graph.pendingPatterns) := by
  have uses : first.uses = second.uses := by
    rw [File.uses, ← filterMap_use_filter, same.patterns, filterMap_use_filter, File.uses]
  have applications : first.statements.filterMap Statement.application? =
      second.statements.filterMap Statement.application? := by
    rw [← filterMap_application_filter, same.patterns, filterMap_application_filter]
  rw [ofFile_eq, ofFile_eq, targetsOf_congr profile same]
  cases targetsOf profile second with
  | error error => rfl
  | ok targets => simp [Except.map, withTargets, uses, applications]

/-- Two macros of different suffixes, a declaration and a dependency may change places. -/
theorem ofFile_interleaving_swapped :
    let path : Path := ⟨"Control/Foo/cmt/requirements"⟩
    let declaration : Statement := .target .library ⟨"Foo", ["*.cxx"]⟩
    let libraries : Statement := .setting .appendMacro ⟨"Foolinkopts", "-lz", []⟩
    let more : Statement := .setting .appendMacro ⟨"Foo_shlibflags", "-lm", []⟩
    let dependency : Statement := .use ⟨"Bar", none, none, [], .exported⟩
    let first : File := ⟨path, "Foo", [declaration, libraries, more, dependency]⟩
    let second : File :=
      ⟨path, "Foo", [more, .author "A. Author", dependency, libraries, declaration]⟩
    first.SameParts second ∧
      (ofFile .tdaq first).map (fun graph => (graph.targets, graph.deps, graph.pendingPatterns)) =
        (ofFile .tdaq second).map fun graph =>
          (graph.targets, graph.deps, graph.pendingPatterns) := by
  intro path declaration libraries more dependency first second
  have same : first.SameParts second := by
    refine ⟨rfl, rfl, by decide, fun op name => ?_, by decide⟩
    by_cases h : name = "Foolinkopts"
    · subst h
      cases op <;> decide
    · have other : ("Foolinkopts" == name) = false := by simpa using Ne.symm h
      simp [first, second, declaration, libraries, more, dependency, List.filter_cons,
        Statement.isPlainMacro, other]
  exact ⟨same, ofFile_interleaving .tdaq same⟩

end Graph

end Requirements
