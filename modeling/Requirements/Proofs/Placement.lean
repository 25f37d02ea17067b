import Requirements.Proofs.FoldOrder
import Requirements.Proofs.Interleaving

/-!
# Where the graph of a file keeps its statements

`Statement.place` gives every statement one place. `Accounts` says that a graph keeps
exactly the statements of each place there: in source order and as they were written
where the place is a list, and once for each occurrence where statements become parts
of a target. `ofFile_accounts` proves this of every file that has a graph.

Files that differ only in dependencies, in known patterns and in silent statements have
graphs that differ in the dependencies and the targets at most. `SameElsewhere` compares such
files, and `SameElsewhere.withTargets_eq` their graphs.
-/

namespace Requirements

/-- Where a statement of a file ends up. -/
inductive Place where
  /-- The authors, the managers, or the version of the package. -/
  | authors
  | managers
  | version
  /-- The dependencies of the package. -/
  | dependencies
  /-- The patterns that nobody could expand, and those that have edited a target. -/
  | pending
  | applied
  /-- The declared targets, and the flags of their macros. -/
  | declared
  | folded
  /-- What has no meaning for a single target. -/
  | configuration
  /-- Nothing: the statement matters to the reader of the file only. -/
  | nowhere
  deriving DecidableEq, Repr

/-- The place of a statement, given the names of the declared targets. -/
def Statement.place (profile : Profile) (names : List String) : Statement → Place
  | .author _ => .authors
  | .manager _ => .managers
  | .version _ => .version
  | .use _ => .dependencies
  | .applyPattern application =>
    if profile.isPending application then .pending else .applied
  | .target _ _ => .declared
  | .package _ | .openSection _ | .closeSection _ => .nowhere
  | other => if other.isFolded names then .folded else .configuration

/-- Whether a statement can show in a graph elsewhere than in the dependencies and in what
known patterns make. -/
def Statement.isKeptElsewhere (profile : Profile) : Statement → Bool
  | .use _ | .package _ | .openSection _ | .closeSection _ => false
  | .applyPattern application => profile.isPending application
  | _ => true

namespace Graph

/-- The place of a statement in the graph of a file. -/
def placeIn (profile : Profile) (file : File) (statement : Statement) : Place :=
  statement.place profile (declaredNames file.statements)

/-- The statements of a file that have a place, in order. -/
def statementsAt (profile : Profile) (file : File) (place : Place) : List Statement :=
  file.statements.filter fun statement => placeIn profile file statement == place

/-- A file without the statements that have no place in its graph. -/
def withoutSilent (profile : Profile) (file : File) : File :=
  { file with
    statements := file.statements.filter fun statement =>
      placeIn profile file statement != .nowhere }

/-- The steps that the macros of a file make on a target. -/
def stepsOn (file : File) (name : String) : List (FlagSuffix × TargetMacro) :=
  TargetMacro.steps (TargetMacro.ofStatements file.statements) name

/-- The flags that macros of a file hold for a list of a target, for one operation. -/
def flagsFor (file : File) (name : String) (op : MacroOp) (list : FlagList) : List String :=
  TargetMacro.words (TargetMacro.ofStatements file.statements) name op list

/-- A graph keeps every statement of a file in its place and nowhere else. -/
structure Accounts (profile : Profile) (file : File) (graph : Graph) : Prop where
  authors : graph.package.authors.map .author = statementsAt profile file .authors
  managers : graph.package.managers.map .manager = statementsAt profile file .managers
  version : graph.package.version.map .version = (statementsAt profile file .version).getLast?
  /-- Each dependency stands for one statement. -/
  dependencies : ∃ uses : List Use, uses.map .use = statementsAt profile file .dependencies ∧
    graph.deps = uses.map .ofUse
  pending : graph.pendingPatterns.map .applyPattern = statementsAt profile file .pending
  configuration : graph.configuration = statementsAt profile file .configuration
  /-- A statement is folded exactly when it is a macro with one branch whose name is that
  of a declared target with one of five suffixes after it. -/
  folds : ∀ statement, placeIn profile file statement = .folded ↔
    ∃ s value name suffix, statement = .setting s value ∧
      s ∈ [.defineMacro, .appendMacro, .removeMacro] ∧ value.branches.length = 1 ∧
      name ∈ declaredNames file.statements ∧
      suffix ∈ ["linkopts", "_shlibflags", "_pp_cppflags", "_cxxflags", "_cflags"] ∧
      value.name = name ++ suffix
  /-- The table of suffixes lists these five. -/
  table : FlagSuffix.IsTable FlagSuffix.all
  /-- The macros that are folded make one step each, all targets taken together. -/
  folded : ((declaredNames file.statements).flatMap fun name =>
      (stepsOn file name).map fun (_, m) => m.index).Perm
    (Statement.placesOf (fun statement => placeIn profile file statement == .folded)
      file.statements)
  /-- In its step, a macro gives what the words of its value stand for. -/
  gives : ∀ name suffix m, (suffix, m) ∈ stepsOn file name →
    m ∈ TargetMacro.ofStatements file.statements ∧ m.value.name = name ++ suffix.text ∧
      FlagSuffix.Holds (Text.wordsOf m.value.default) suffix.text suffix.list
        (suffix.flags m.value)
  /-- The steps on a list of flags add what is defined, then what is appended, and of all
  these only the flags stay that no macro removes. -/
  steps : ∀ name list old, TargetMacro.flags list (stepsOn file name) old =
    (old ++ flagsFor file name .define list ++ flagsFor file name .append list).filter
      (· ∉ flagsFor file name .remove list)
  /-- The dispatcher passes over the places that the declared targets have folded. -/
  skipped : (declare profile file.statements).folded =
    (declaredNames file.statements).flatMap fun name =>
      (stepsOn file name).map fun (_, m) => m.index
  /-- A declared target is made of all its declarations and of the steps on it. -/
  made : ∀ name ∈ declaredNames file.statements, ∃ target,
    (declare profile file.statements).targets.get? name = some target ∧
      Declared.MadeOf target (sourceLists (declarations file.statements) name)
        (stepsOn file name)
  /-- The compile flags that were folded are in the graph. -/
  compileFlags : ∀ name ∈ declaredNames file.statements, ∃ target,
    graph.targets.get? name = some target ∧
      target.cxxFlags = TargetMacro.flags .cxxFlags (stepsOn file name) [] ∧
      target.cFlags = TargetMacro.flags .cFlags (stepsOn file name) []
  /-- The declared targets come first, each once. -/
  declared : declaredNames file.statements <+: graph.targets.names
  applied : ∀ application, .applyPattern application ∈ statementsAt profile file .applied →
    ∃ converter edit, profile.converter? application.name = some converter ∧
      converter.edit (Reference.baseName file.package) application = .ok edit ∧
      edit.name ∈ graph.targets.names
  /-- The graph is that of the file without its silent statements. -/
  nowhere : ofFile profile (withoutSilent profile file) = .ok graph
  /-- A macro that depends on tags is never folded. -/
  tagged : ∀ s value, .setting s value ∈ file.statements → value.isTagged = true →
    .setting s value ∈ graph.configuration

/-- A list of what statements give shows the statements themselves if each of them can be
made again from what it gives. -/
theorem map_filterMap_eq_filter {α : Type} {select : Statement → Option α}
    {make : α → Statement} {test : Statement → Bool}
    (h : ∀ statement, (select statement).map make =
      if test statement = true then some statement else none)
    (statements : List Statement) :
    (statements.filterMap select).map make = statements.filter test := by
  rw [List.map_filterMap, ← List.filterMap_eq_filter]
  congr 1
  funext statement
  rw [h]
  rfl

/-- What has a list of its own in the graph is selected by its place. -/
theorem select_eq_place (profile : Profile) (names : List String) (statement : Statement) :
    statement.author?.map .author =
        (if statement.place profile names == .authors then some statement else none) ∧
      statement.manager?.map .manager =
        (if statement.place profile names == .managers then some statement else none) ∧
      statement.version?.map .version =
        (if statement.place profile names == .version then some statement else none) ∧
      statement.use?.map .use =
        (if statement.place profile names == .dependencies then some statement else none) ∧
      (statement.application?.filter profile.isPending).map .applyPattern =
        (if statement.place profile names == .pending then some statement else none) := by
  cases statement with
  | applyPattern application =>
    cases pending : profile.isPending application <;>
      simp [Statement.author?, Statement.manager?, Statement.version?, Statement.use?,
        Statement.application?, Statement.place, pending]
  | setting s value =>
    cases folded : (Statement.setting s value).isFolded names <;>
      simp [Statement.author?, Statement.manager?, Statement.version?, Statement.use?,
        Statement.application?, Statement.place, folded]
  | _ =>
    simp [Statement.author?, Statement.manager?, Statement.version?, Statement.use?,
      Statement.application?, Statement.place, Statement.isFolded]

theorem place_eq_folded_iff {profile : Profile} {names : List String} {statement : Statement} :
    statement.place profile names = .folded ↔ statement.isFolded names = true := by
  cases statement with
  | applyPattern application =>
    simp only [Statement.place, Statement.isFolded]
    split <;> simp
  | setting s value =>
    simp only [Statement.place]
    split <;> simp_all
  | _ => simp [Statement.place, Statement.isFolded]

theorem place_eq_configuration_iff {profile : Profile} {names : List String}
    {statement : Statement} :
    statement.place profile names = .configuration ↔
      statement.isDispatched = false ∧ statement.isFolded names = false := by
  cases statement with
  | applyPattern application =>
    simp only [Statement.place, Statement.isDispatched]
    split <;> simp
  | setting s value =>
    simp only [Statement.place, Statement.isDispatched]
    split <;> simp_all
  | _ => simp [Statement.place, Statement.isDispatched, Statement.isFolded]

theorem place_eq_nowhere_iff {profile : Profile} {names : List String} {statement : Statement} :
    statement.place profile names = .nowhere ↔
      (∃ name, statement = .package name) ∨ (∃ visibility, statement = .openSection visibility) ∨
        ∃ visibility, statement = .closeSection visibility := by
  cases statement with
  | applyPattern application =>
    simp only [Statement.place]
    split <;> simp
  | setting s value =>
    simp only [Statement.place]
    split <;> simp
  | _ => simp [Statement.place, Statement.isFolded]

/-- What the dispatcher leaves over can be said without the places of statements. -/
theorem leftOver_declare (profile : Profile) (file : File) :
    Builder.leftOver (declare profile file.statements).folded file.statements.zipIdx =
      statementsAt profile file .configuration := by
  let test (statement : Statement) : Bool := placeIn profile file statement == .configuration
  have left : ∀ entry ∈ file.statements.zipIdx, (!entry.1.isDispatched &&
      !(declare profile file.statements).folded.contains entry.2) = test entry.1 := by
    rintro ⟨statement, index⟩ member
    have found := List.mem_zipIdx_iff_getElem?.1 member
    have same : (declare profile file.statements).folded.contains index =
        statement.isFolded (declaredNames file.statements) := by
      rw [folded_declare, Bool.eq_iff_iff, List.contains_iff_mem, TargetMacro.mem_places]
      simp [found]
    change (!statement.isDispatched &&
      !(declare profile file.statements).folded.contains index) =
        (placeIn profile file statement == .configuration)
    rw [same, Bool.eq_iff_iff, beq_iff_eq, placeIn, place_eq_configuration_iff]
    simp
  calc Builder.leftOver (declare profile file.statements).folded file.statements.zipIdx
      = (file.statements.zipIdx.filter (test ∘ Prod.fst)).map Prod.fst :=
        congrArg (List.map Prod.fst) (List.filter_congr left)
    _ = statementsAt profile file .configuration := by
        rw [← List.filter_map, List.zipIdx_map_fst, statementsAt]

/-- A statement is not selected for the graph, except perhaps for the dependencies and for
what known patterns make. -/
structure Unselected (profile : Profile) (statement : Statement) : Prop where
  author : statement.author? = none
  manager : statement.manager? = none
  version : statement.version? = none
  target : statement.target? = none
  pending : statement.application?.filter profile.isPending = none
  script : needsScript statement = false
  macros : ∀ op name, statement.isPlainMacro op name = false
  configuration : ∀ names, (statement.place profile names == .configuration) = false

theorem unselected {profile : Profile} {statement : Statement}
    (h : statement.isKeptElsewhere profile = false) : Unselected profile statement := by
  cases statement with
  | applyPattern application =>
    have known : profile.isPending application = false := h
    constructor <;>
      simp [Statement.author?, Statement.manager?, Statement.version?, Statement.target?,
        Statement.application?, needsScript, Statement.isPlainMacro, Statement.place, known]
  | use | package | openSection | closeSection =>
    constructor <;>
      simp [Statement.author?, Statement.manager?, Statement.version?, Statement.target?,
        Statement.application?, needsScript, Statement.isPlainMacro, Statement.place]
  | _ => cases h

/-- Two files of one package that differ only in what shows in the dependencies and in what
patterns make, or nowhere. -/
structure SameElsewhere (profile : Profile) (first second : File) : Prop where
  path : first.path = second.path
  package : first.package = second.package
  elsewhere : first.statements.filter (Statement.isKeptElsewhere profile) =
    second.statements.filter (Statement.isKeptElsewhere profile)

namespace SameElsewhere

variable {profile : Profile} {first second : File}

theorem filterMap_eq {α : Type} (h : SameElsewhere profile first second)
    {select : Statement → Option α}
    (silent : ∀ statement : Statement, statement.isKeptElsewhere profile = false →
      select statement = none) :
    first.statements.filterMap select = second.statements.filterMap select := by
  rw [← filterMap_filter_of_none silent first.statements, h.elsewhere,
    filterMap_filter_of_none silent second.statements]

theorem filter_eq (h : SameElsewhere profile first second) {test : Statement → Bool}
    (silent : ∀ statement : Statement, statement.isKeptElsewhere profile = false →
      test statement = false) :
    first.statements.filter test = second.statements.filter test := by
  rw [← List.filterMap_eq_filter]
  refine h.filterMap_eq fun statement other => ?_
  simp [Option.guard, silent statement other]

theorem declarations_eq (h : SameElsewhere profile first second) :
    declarations first.statements = declarations second.statements :=
  h.filterMap_eq fun _ other => (unselected other).target

theorem targets_declare (h : SameElsewhere profile first second) :
    (declare profile first.statements).targets = (declare profile second.statements).targets :=
  targets_declare_congr profile h.declarations_eq fun op name =>
    h.filter_eq fun _ other => (unselected other).macros op name

theorem configuration_eq (h : SameElsewhere profile first second) :
    statementsAt profile first .configuration = statementsAt profile second .configuration := by
  have names : declaredNames first.statements = declaredNames second.statements := by
    rw [declaredNames, h.declarations_eq, declaredNames]
  simp only [statementsAt, placeIn, names]
  exact h.filter_eq fun _ other => (unselected other).configuration _

theorem needsImperative_eq (h : SameElsewhere profile first second) :
    needsImperative first.statements = needsImperative second.statements := by
  have scripts : first.statements.filter needsScript = second.statements.filter needsScript :=
    h.filter_eq fun _ other => (unselected other).script
  rw [Bool.eq_iff_iff, needsImperative, needsImperative, List.any_eq_true, List.any_eq_true]
  simp only [← List.mem_filter, scripts]

/-- With the same targets, the graphs of the files differ in their dependencies at most. -/
theorem withTargets_eq (h : SameElsewhere profile first second) (targets : TargetSet) :
    withTargets profile first targets =
      { withTargets profile second targets with deps := first.uses.map .ofUse } := by
  have authors := h.filterMap_eq fun _ other => (unselected other).author
  have managers := h.filterMap_eq fun _ other => (unselected other).manager
  have versions := h.filterMap_eq fun _ other => (unselected other).version
  have applications := h.filterMap_eq fun _ other => (unselected other).pending
  have packagePath : first.packagePath = second.packagePath := by
    simp only [File.packagePath, File.packageDir?, h.path]
  simp only [withTargets, infoOf, leftOver_declare, dialectOf, List.filter_filterMap, authors,
    managers, versions, applications, h.configuration_eq, h.needsImperative_eq, h.package,
    packagePath]

end SameElsewhere

/-- What does not count silent statements may be asked of a file with or without them. -/
theorem eq_false_of_silent {profile : Profile} {file : File} (test : Statement → Bool)
    (package : ∀ name, test (.package name) = false)
    (opens : ∀ visibility, test (.openSection visibility) = false)
    (closes : ∀ visibility, test (.closeSection visibility) = false) {statement : Statement}
    (silent : (placeIn profile file statement != .nowhere) = false) : test statement = false := by
  have nowhere := place_eq_nowhere_iff.1 (bne_eq_false_iff_eq.1 silent)
  rcases nowhere with ⟨name, rfl⟩ | ⟨visibility, rfl⟩ | ⟨visibility, rfl⟩
  · exact package name
  · exact opens visibility
  · exact closes visibility

theorem filter_withoutSilent (profile : Profile) (file : File) (test : Statement → Bool)
    (package : ∀ name, test (.package name) = false)
    (opens : ∀ visibility, test (.openSection visibility) = false)
    (closes : ∀ visibility, test (.closeSection visibility) = false) :
    (withoutSilent profile file).statements.filter test = file.statements.filter test := by
  rw [withoutSilent, List.filter_filter]
  apply List.filter_congr
  intro statement _
  cases kept : placeIn profile file statement != .nowhere with
  | true => rw [Bool.and_true]
  | false => rw [Bool.and_false, eq_false_of_silent test package opens closes kept]

/-- Every part of a file that has a place in the graph stays when the silent statements
are left out. -/
theorem sameParts_withoutSilent (profile : Profile) (file : File) :
    (withoutSilent profile file).SameParts file := by
  have keep := filter_withoutSilent profile file
  exact ⟨rfl, rfl, keep _ (fun _ => rfl) (fun _ => rfl) fun _ => rfl,
    fun op name => keep _ (fun _ => rfl) (fun _ => rfl) fun _ => rfl,
    keep _ (fun _ => rfl) (fun _ => rfl) fun _ => rfl⟩

theorem sameElsewhere_withoutSilent (profile : Profile) (file : File) :
    SameElsewhere profile (withoutSilent profile file) file :=
  ⟨rfl, rfl, filter_withoutSilent profile file _ (fun _ => rfl) (fun _ => rfl) fun _ => rfl⟩

/-- The silent statements leave no trace in what is selected for the graph. -/
theorem withTargets_withoutSilent (profile : Profile) (file : File) (targets : TargetSet) :
    withTargets profile (withoutSilent profile file) targets = withTargets profile file targets := by
  have patterns := (sameParts_withoutSilent profile file).patterns
  have uses : (withoutSilent profile file).uses = file.uses := by
    rw [File.uses, ← filterMap_use_filter, patterns, filterMap_use_filter, File.uses]
  rw [(sameElsewhere_withoutSilent profile file).withTargets_eq, uses]
  rfl

theorem ofFile_withoutSilent (profile : Profile) (file : File) :
    ofFile profile (withoutSilent profile file) = ofFile profile file := by
  rw [ofFile_eq, ofFile_eq, targetsOf_congr profile (sameParts_withoutSilent profile file)]
  congr 1
  funext targets
  exact withTargets_withoutSilent profile file targets

/-- The place of a macro that is folded says what it is. -/
theorem placeIn_eq_folded_iff {profile : Profile} {file : File} {statement : Statement} :
    placeIn profile file statement = .folded ↔
      ∃ s value name suffix, statement = .setting s value ∧
        s ∈ [.defineMacro, .appendMacro, .removeMacro] ∧ value.branches.length = 1 ∧
        name ∈ declaredNames file.statements ∧
        suffix ∈ ["linkopts", "_shlibflags", "_pp_cppflags", "_cxxflags", "_cflags"] ∧
        value.name = name ++ suffix := by
  rw [placeIn, place_eq_folded_iff, Statement.isFolded_iff]
  have operation (s : Setting) : (∃ op, MacroOp.ofSetting? s = some op) ↔
      s ∈ [.defineMacro, .appendMacro, .removeMacro] := by
    rw [← Option.isSome_iff_exists]
    cases s <;> decide
  rw [← FlagSuffix.isTable_all.texts]
  constructor
  · rintro ⟨s, op, value, name, suffix, made, hop, untagged, declared, known, named⟩
    exact ⟨s, value, name, suffix.text, made, (operation s).1 ⟨op, hop⟩,
      Conditional.isTagged_eq_false_iff.1 untagged, declared, List.mem_map_of_mem known, named⟩
  · rintro ⟨s, value, name, _, made, setting, one, declared, listed, named⟩
    obtain ⟨op, hop⟩ := (operation s).2 setting
    obtain ⟨suffix, known, rfl⟩ := List.mem_map.1 listed
    exact ⟨s, op, value, name, suffix, made, hop, Conditional.isTagged_eq_false_iff.2 one,
      declared, known, named⟩

/-- Over all targets, each macro that is folded makes one step. -/
theorem perm_placesOf_folded (profile : Profile) (file : File) :
    ((declaredNames file.statements).flatMap fun name =>
      (stepsOn file name).map fun (_, m) => m.index).Perm
    (Statement.placesOf (fun statement => placeIn profile file statement == .folded)
      file.statements) := by
  have test : (fun statement => placeIn profile file statement == .folded) =
      Statement.isFolded (declaredNames file.statements) := by
    funext statement
    rw [Bool.eq_iff_iff, beq_iff_eq, placeIn, place_eq_folded_iff]
  rw [test]
  exact TargetMacro.perm_places _ (nodup_declaredNames _)

/-- A step on a target is that of a macro whose name says what its words stand for. -/
theorem gives_of_mem_stepsOn {file : File} {name : String} {suffix : FlagSuffix}
    {m : TargetMacro} (h : (suffix, m) ∈ stepsOn file name) :
    m ∈ TargetMacro.ofStatements file.statements ∧ m.value.name = name ++ suffix.text ∧
      FlagSuffix.Holds (Text.wordsOf m.value.default) suffix.text suffix.list
        (suffix.flags m.value) := by
  obtain ⟨known, member, -, named⟩ := TargetMacro.mem_steps.1 h
  exact ⟨member, named, FlagSuffix.holds_flags known m.value⟩

/-- A pattern that has edited a target is one that the profile knows. -/
theorem converter_of_applied {profile : Profile} {file : File} {application : Application}
    (h : .applyPattern application ∈ statementsAt profile file .applied) :
    .applyPattern application ∈ file.statements ∧
      ∃ converter, profile.converter? application.name = some converter := by
  obtain ⟨member, placed⟩ := List.mem_filter.1 h
  refine ⟨member, ?_⟩
  cases found : profile.converter? application.name with
  | some converter => exact ⟨converter, rfl⟩
  | none =>
    have pending : profile.isPending application = true := by
      rw [Profile.isPending, found]
      rfl
    simp [placeIn, Statement.place, pending] at placed

/-- The compile flags of a declared target are those that were folded into it. -/
theorem compileFlags_withTargets {profile : Profile} {file : File} {targets : TargetSet}
    (ran : targetsOf profile file = .ok targets) {name : String}
    (declared : name ∈ declaredNames file.statements) :
    ∃ target, (withTargets profile file targets).targets.get? name = some target ∧
      target.cxxFlags = TargetMacro.flags .cxxFlags (stepsOn file name) [] ∧
      target.cFlags = TargetMacro.flags .cFlags (stepsOn file name) [] := by
  obtain ⟨target, found, parts⟩ := madeOf_declare profile file.statements declared
  obtain ⟨kept, there, cxxFlags, cFlags⟩ := compileFlags_expand ran found
  refine ⟨{ kept with uses := kept.uses.map Reference.regular }, ?_, ?_, ?_⟩
  · rw [withTargets, TargetSet.get?_map, there]
    rfl
  · exact cxxFlags.trans (parts.flags .cxxFlags)
  · exact cFlags.trans (parts.flags .cFlags)

/-- Nothing that depends on tags is folded. -/
theorem mem_configuration_of_isTagged {profile : Profile} {file : File} {s : Setting}
    {value : Conditional} (member : .setting s value ∈ file.statements)
    (tagged : value.isTagged = true) :
    .setting s value ∈ statementsAt profile file .configuration := by
  rw [statementsAt, List.mem_filter, beq_iff_eq, placeIn, place_eq_configuration_iff]
  exact ⟨member, rfl, by simp [Statement.isFolded, tagged]⟩

/-- A graph keeps every statement of its file in exactly one place. -/
theorem ofFile_accounts {profile : Profile} {file : File} {graph : Graph}
    (h : ofFile profile file = .ok graph) : Accounts profile file graph := by
  obtain ⟨targets, ran, made⟩ := ofFile_ok h
  have selected := select_eq_place profile (declaredNames file.statements)
  have configuration : graph.configuration = statementsAt profile file .configuration := by
    rw [made]
    exact leftOver_declare profile file
  exact
    { authors := by
        rw [made]
        exact map_filterMap_eq_filter (fun s => (selected s).1) file.statements
      managers := by
        rw [made]
        exact map_filterMap_eq_filter (fun s => (selected s).2.1) file.statements
      version := by
        have versions := map_filterMap_eq_filter (fun s => (selected s).2.2.1) file.statements
        have last := congrArg List.getLast? versions
        rw [List.getLast?_map] at last
        rw [made]
        exact last
      dependencies := by
        refine ⟨file.uses, ?_, by rw [made]; rfl⟩
        exact map_filterMap_eq_filter (fun s => (selected s).2.2.2.1) file.statements
      pending := by
        rw [made]
        change ((file.statements.filterMap Statement.application?).filter
          profile.isPending).map Statement.applyPattern = _
        rw [List.filter_filterMap]
        exact map_filterMap_eq_filter (fun s => (selected s).2.2.2.2) file.statements
      configuration := configuration
      folds := fun _ => placeIn_eq_folded_iff
      table := FlagSuffix.isTable_all
      folded := perm_placesOf_folded profile file
      gives := fun _ _ _ => gives_of_mem_stepsOn
      steps := fun name list old => TargetMacro.flags_steps list _ name old
      skipped := folded_declare profile file.statements
      made := fun name declared => madeOf_declare profile file.statements declared
      compileFlags := by
        intro name declared
        rw [made]
        exact compileFlags_withTargets ran declared
      declared := by
        rw [made, withTargets, TargetSet.names_map, ← names_declare profile]
        exact prefix_names_expand ran
      applied := by
        intro application applied
        obtain ⟨member, converter, found⟩ := converter_of_applied applied
        obtain ⟨edit, edited, named⟩ := applied_of_expand ran member found
        refine ⟨converter, edit, found, edited, ?_⟩
        rwa [made, withTargets, TargetSet.names_map]
      nowhere := by
        rw [ofFile_withoutSilent, h]
      tagged := by
        intro s value member tagged
        rw [configuration]
        exact mem_configuration_of_isTagged member tagged }

/-- A file with a macro that is folded, one that depends on tags, a pattern that is applied
and one that nobody knows. -/
def sampleFile : File where
  path := ⟨"Control/Foo/cmt/requirements"⟩
  package := "Foo"
  statements :=
    [.package "Foo", .author "A. Author", .manager "M. Manager", .version "Foo-00-01",
     .use ⟨"Bar", none, none, [], .exported⟩,
     .setting .appendMacro ⟨"Foo_cflags", "-O2", []⟩,
     .target .library ⟨"Foo", ["*.cxx"]⟩,
     .setting .appendMacro ⟨"Foo_cflags", "-g", [⟨"opt", "-O3"⟩]⟩,
     .openSection .internal, .closeSection .internal,
     .applyPattern ⟨"declare_joboptions", [], []⟩, .applyPattern ⟨"unheard_of", [], []⟩]

theorem accounts_sampleFile :
    ∃ graph, ofFile .atlasoff sampleFile = .ok graph ∧ Accounts .atlasoff sampleFile graph := by
  have ok : ∃ graph, ofFile .atlasoff sampleFile = .ok graph := ⟨_, rfl⟩
  obtain ⟨graph, h⟩ := ok
  exact ⟨graph, h, ofFile_accounts h⟩

end Graph

end Requirements
