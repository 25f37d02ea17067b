import Requirements.Proofs.Declared
import Requirements.Proofs.Frame
import Requirements.Proofs.Patterns

/-!
# Names and features of targets

A name enters the targets of a file once, and never leaves its place: by the first
declaration of it or, if there is none, by the first known pattern that derives it. The
feature goes the other way. A further declaration does not change it, but every pattern
that derives the name does, so that the last one counts. `expand_derivations` is the
induction over a run for both, and `ofFile_namedAfter` reads names and features of a graph
off the statements of its file.
-/

namespace Requirements

/-- The feature that a converter fixes for the targets which it edits. -/
def Converter.feature : Converter → Feature
  | .library _ feature _ | .install _ feature _ | .genericInstall feature => feature
  | .sharedLibrary => .atlasLibrary
  | .trigconfApplication => .trigconfApplication
  | .jobTransforms => .atlasInstallTrfs
  | .dictionary => .atlasDictionary
  | .unitTest => .atlasUnittest
  | .athenarunTest => .atlasAthenarunTest

/-- Neither the application nor the package has a part in the feature. -/
theorem Converter.feature_of_edit {converter : Converter} {package : String}
    {application : Application} {edit : TargetEdit}
    (h : converter.edit package application = .ok edit) : edit.feature = converter.feature := by
  cases converter with
  | library | sharedLibrary | trigconfApplication =>
    obtain ⟨first, -, h⟩ := exists_of_bind_eq_ok h
    obtain ⟨second, -, h⟩ := exists_of_bind_eq_ok h
    obtain rfl := Except.ok.inj h
    rfl
  | install =>
    obtain rfl := Except.ok.inj h
    rfl
  | genericInstall | jobTransforms | dictionary | unitTest | athenarunTest =>
    obtain ⟨args, -, h⟩ := exists_of_bind_eq_ok h
    obtain rfl := Except.ok.inj h
    rfl

theorem TargetEdit.feature_change (edit : TargetEdit) (libraries : List String)
    (target : Target) : (edit.change libraries target).feature = target.feature := by
  rw [edit.change_eq]

/-- The name that a statement derives if it applies a known pattern, and the feature that the
pattern fixes. -/
def Statement.derivation? (profile : Profile) (package : String) (statement : Statement) :
    Option (String × Feature) := do
  let application ← statement.application?
  let converter ← profile.converter? application.name
  let edit ← (converter.edit package application).toOption
  return (edit.name, converter.feature)

namespace Graph

/-- What the known patterns among statements derive, in order. -/
def derivations (profile : Profile) (package : String) (statements : List Statement) :
    List (String × Feature) :=
  statements.filterMap (Statement.derivation? profile package)

/-- The names that known patterns among statements derive, in order. -/
def derivedNames (profile : Profile) (package : String) (statements : List Statement) :
    List String :=
  (derivations profile package statements).map Prod.fst

/-- The feature of the last known pattern that derives a name. -/
def derivedFeature? (profile : Profile) (package : String) (statements : List Statement)
    (name : String) : Option Feature :=
  (derivations profile package statements).reverse.lookup name

/-- The default feature for the kind of the first of some declarations of a name. -/
def declaredFeature? (profile : Profile) (declarations : List (TargetKind × TargetDecl))
    (name : String) : Option Feature :=
  (declarations.find? fun (_, decl) => decl.name == name).map fun (kind, _) =>
    profile.defaultFeature kind

variable {profile : Profile} {package : String} {uses : List String} {targets result : TargetSet}

theorem derivation?_applyPattern {application : Application} {converter : Converter}
    {edit : TargetEdit} (known : profile.converter? application.name = some converter)
    (made : converter.edit package application = .ok edit) :
    Statement.derivation? profile package (.applyPattern application) =
      some (edit.name, converter.feature) := by
  simp [Statement.derivation?, Statement.application?, known, made, Except.toOption]

theorem derivation?_eq_none {statement : Statement}
    (h : ∀ application, statement = .applyPattern application →
      profile.converter? application.name = none) :
    statement.derivation? profile package = none := by
  cases statement with
  | applyPattern application =>
    simp [Statement.derivation?, Statement.application?, h application rfl]
  | _ => rfl

/-- What holds at the start, of no derivations, holds of all derivations at the end if every
edit keeps it as one more derivation. -/
theorem expand_derivations {P : List (String × Feature) → TargetSet → Prop}
    (step : ∀ (edit : TargetEdit) (libraries : List String) (derived : List (String × Feature))
      (set : TargetSet), P derived set →
        P (derived ++ [(edit.name, edit.feature)]) (edit.apply libraries set))
    {statements : List Statement}
    (h : expand profile package uses targets statements = .ok result) (start : P [] targets) :
    P (derivations profile package statements) result := by
  -- From the end, since the last derivation is the one that an edit adds.
  induction statements using List.reverseRecOn generalizing result with
  | nil =>
    obtain rfl := Except.ok.inj h
    exact start
  | append_singleton statements statement ih =>
    obtain ⟨middle, ran, one⟩ := expand_append_ok statements [statement] h
    have kept := ih ran
    rw [derivations, List.filterMap_append]
    rcases expand_singleton_cases one with
      ⟨unknown, rfl⟩ | ⟨application, converter, edit, rfl, known, made, rfl⟩
    · rw [List.filterMap_cons_none (derivation?_eq_none unknown), List.filterMap_nil,
        List.append_nil]
      exact kept
    · rw [List.filterMap_cons_some (derivation?_applyPattern known made), List.filterMap_nil,
        ← Converter.feature_of_edit made]
      exact step edit _ _ middle kept

/-- Each derived name is added unless it is there. -/
theorem names_expand {names : List String} {statements : List Statement}
    (h : expand profile package uses targets statements = .ok result)
    (start : targets.names = names.eraseDups) :
    result.names = (names ++ derivedNames profile package statements).eraseDups := by
  refine expand_derivations
    (P := fun derived set => set.names = (names ++ derived.map Prod.fst).eraseDups) ?_ h ?_
  · intro edit libraries derived set kept
    rw [List.map_append, ← List.append_assoc, List.map_singleton, eraseDups_concat,
      TargetEdit.names_apply, kept]
    simp only [List.mem_eraseDups]
  · rw [List.map_nil, List.append_nil]
    exact start

/-- The last of the patterns that derive a name gives the feature, and without any the target
keeps the one that it has. -/
theorem feature_expand {statements : List Statement}
    (h : expand profile package uses targets statements = .ok result) (name : String) :
    (result.get? name).map Target.feature =
      (derivedFeature? profile package statements name).or
        ((targets.get? name).map Target.feature) := by
  refine expand_derivations (P := fun derived set => (set.get? name).map Target.feature =
    (derived.reverse.lookup name).or ((targets.get? name).map Target.feature)) ?_ h ?_
  · intro edit libraries derived set kept
    rw [List.reverse_append, List.reverse_singleton, List.singleton_append, List.lookup_cons]
    by_cases same : edit.name = name
    · subst same
      simp [edit.get?_apply_self, edit.feature_change]
    · have other : (name == edit.name) = false := by simpa using Ne.symm same
      rw [edit.get?_apply_of_ne libraries set same, other]
      exact kept
  · rfl

namespace Declared

theorem feature_extended (decl : TargetDecl) (target : Target) :
    (extended decl target).feature = target.feature :=
  Target.feature_extendKwarg _ _ _

theorem feature_fold_fresh (profile : Profile) (kind : TargetKind) (decl : TargetDecl)
    (macros : List TargetMacro) :
    ((fresh profile kind decl).fold macros).1.feature = profile.defaultFeature kind := by
  obtain ⟨uses, cxxFlags, cFlags, folded⟩ :=
    TargetMacro.fold_eq (fresh profile kind decl) macros
  rw [folded]
  exact Target.feature_extendKwarg _ _ _

/-- A declaration gives a feature to the target of its name, unless that is already there. -/
theorem feature_add (profile : Profile) (buckets : MacroBuckets) (declared : Declared)
    (kind : TargetKind) (decl : TargetDecl) (name : String) :
    ((declared.add profile buckets (kind, decl)).targets.get? name).map Target.feature =
      ((declared.targets.get? name).map Target.feature).or
        (if decl.name = name then some (profile.defaultFeature kind) else none) := by
  by_cases present : decl.name ∈ declared.targets.names
  · rw [add_of_mem present, TargetSet.get?_modify]
    by_cases same : decl.name = name
    · subst same
      obtain ⟨target, found⟩ := TargetSet.get?_of_mem_names present
      simp [found, feature_extended]
    · simp [same]
  · rw [add_of_not_mem present, TargetSet.get?_insert, Target.name_fold, name_fresh]
    by_cases same : decl.name = name
    · subst same
      simp [TargetSet.get?_eq_none_iff.2 present, feature_fold_fresh]
    · simp [same]

theorem declaredFeature?_concat (profile : Profile)
    (declarations : List (TargetKind × TargetDecl)) (kind : TargetKind) (decl : TargetDecl)
    (name : String) :
    declaredFeature? profile (declarations ++ [(kind, decl)]) name =
      (declaredFeature? profile declarations name).or
        (if decl.name = name then some (profile.defaultFeature kind) else none) := by
  rw [declaredFeature?, List.find?_append, Option.map_or, declaredFeature?]
  by_cases same : decl.name = name <;> simp [same]

/-- The first declaration of a name gives the feature. -/
theorem feature_foldl (profile : Profile) (buckets : MacroBuckets)
    (declarations : List (TargetKind × TargetDecl)) (name : String) :
    ((declarations.foldl (Declared.add profile buckets) {}).targets.get? name).map
      Target.feature = declaredFeature? profile declarations name := by
  induction declarations using List.reverseRecOn with
  | nil => rfl
  | append_singleton declarations declaration ih =>
    obtain ⟨kind, decl⟩ := declaration
    rw [List.foldl_append, List.foldl_cons, List.foldl_nil, feature_add, ih,
      declaredFeature?_concat]

end Declared

/-- The targets of a graph have their names, their places and their features from the
statements of a file. -/
structure NamedAfter (profile : Profile) (file : File) (graph : Graph) : Prop where
  distinct : graph.targets.names.Nodup
  /-- Every application of a known pattern derives a name, for which it fixes the feature of
  the pattern. -/
  derives : ∀ application converter, .applyPattern application ∈ file.statements →
    profile.converter? application.name = some converter →
    ∃ name, Statement.derivation? profile (Reference.baseName file.package)
      (.applyPattern application) = some (name, converter.feature)
  /-- The declared names come in the order of their first declarations, and after them those
  which only patterns derive in the order in which they are first derived. -/
  names : graph.targets.names =
    declaredNames file.statements ++
      ((derivedNames profile (Reference.baseName file.package) file.statements).filter
        (· ∉ declaredNames file.statements)).eraseDups
  /-- The last pattern that derives the name of a target gives the feature, or else the first
  declaration does. -/
  feature : ∀ target ∈ graph.targets.toList, some target.feature =
    (derivedFeature? profile (Reference.baseName file.package) file.statements target.name).or
      (declaredFeature? profile (declarations file.statements) target.name)

theorem names_targetsOf {file : File} (h : targetsOf profile file = .ok targets) :
    targets.names = List.eraseDups
      (List.map (fun (_, decl) => decl.name) (declarations file.statements) ++
        derivedNames profile (Reference.baseName file.package) file.statements) :=
  names_expand h (names_declare profile file.statements)

/-- The targets of a graph have different names. These are the declared ones and after them
the derived ones, each at its first place, and the feature of a target is that of the last
pattern which names it or else that of its first declaration. -/
theorem ofFile_namedAfter {file : File} {graph : Graph} (h : ofFile profile file = .ok graph) :
    NamedAfter profile file graph := by
  obtain ⟨targets, ran, rfl⟩ := ofFile_ok h
  exact
    { distinct := TargetSet.nodup_names _
      derives := by
        intro application converter applied known
        obtain ⟨edit, made, -⟩ := applied_of_expand ran applied known
        exact ⟨edit.name, derivation?_applyPattern known made⟩
      names := by
        rw [withTargets, TargetSet.names_map, names_targetsOf ran]
        exact eraseDups_append_filter _ _
      feature := by
        intro target member
        have found := TargetSet.get?_of_mem member
        have regular := TargetSet.get?_map targets
          (fun target => { target with uses := target.uses.map Reference.regular }) target.name
        have feature := feature_expand ran target.name
        rw [declare, Declared.feature_foldl] at feature
        rw [← feature, ← Option.map_some, ← found, withTargets, regular, Option.map_map]
        rfl }

/-- `Foo` keeps its place and the feature of the last pattern, a component, whatever it has
been declared as before and after. `Baz` was a library first. -/
theorem namedAfter_redeclared :
    let file : File := ⟨⟨"Control/Foo/cmt/requirements"⟩, "Foo",
      [.applyPattern ⟨"installed_library", [], ["library=Bar"]⟩,
       .applyPattern ⟨"installed_library", [], ["library=Foo"]⟩,
       .target .application ⟨"Foo", ["main.cxx"]⟩,
       .target .library ⟨"Baz", ["*.cxx"]⟩,
       .applyPattern ⟨"component_library", [], ["library=Foo"]⟩,
       .target .library ⟨"Foo", ["*.cxx"]⟩,
       .target .application ⟨"Baz", ["baz.cxx"]⟩]⟩
    ∃ graph, ofFile .atlasoff file = .ok graph ∧
      graph.targets.toList.map (fun target => (target.name, target.feature)) =
        [("Foo", .atlasComponent), ("Baz", .atlasLibrary), ("Bar", .atlasLibrary)] ∧
      NamedAfter .atlasoff file graph := by
  intro file
  have made : (ofFile .atlasoff file).map (fun graph =>
      graph.targets.toList.map fun target => (target.name, target.feature)) =
        .ok [("Foo", .atlasComponent), ("Baz", .atlasLibrary), ("Bar", .atlasLibrary)] := by
    decide +kernel
  cases h : ofFile .atlasoff file with
  | error error =>
    rw [h] at made
    cases made
  | ok graph =>
    rw [h] at made
    exact ⟨graph, rfl, Except.ok.inj made, ofFile_namedAfter h⟩

end Graph

end Requirements
