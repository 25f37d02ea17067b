import Requirements.Proofs.Failure
import Requirements.Proofs.Naming

/-!
# Targets without a name

A name comes to the targets of a file in two ways. A pattern whose name is empty makes no
target and has the whole file fail. A declaration is not looked at in this way: an empty
quoted word is a name like any other. `ofSource_unnamed` says that this is the only way to a
target without a name, and `ofSource_unnamed_declared` goes it.
-/

namespace Requirements

namespace Converter

/-- What a pattern gives for the name of its library or its program. Patterns that put a name
together from the package or a fixed word need none. -/
def givenName? (converter : Converter) (package : String) (application : Application) :
    Option String :=
  match converter with
  | .library key _ orPackage => (libraryName package application key orPackage).toOption
  | .sharedLibrary =>
    (PatternArgs.read package application).toOption.map fun args =>
      (args.find? "library").getD package
  | .trigconfApplication =>
    (PatternArgs.read package application).toOption.map fun args => args.value "name"
  | _ => none

theorem eq_ok_of_toOption {ε α : Type} {result : Except ε α} {value : α}
    (h : result.toOption = some value) : result = .ok value := by
  cases result with
  | error error => cases h
  | ok other => rw [Option.some.inj h]

/-- A pattern that gives an empty name makes nothing. -/
theorem edit_of_givenName?_empty {converter : Converter} {package : String}
    {application : Application} (h : converter.givenName? package application = some "") :
    converter.edit package application =
      .error (.emptyTarget application.name package application.args) := by
  have refused : requireName package application "" =
      .error (.emptyTarget application.name package application.args) := rfl
  cases converter with
  | library key feature orPackage =>
    have named : libraryName package application key orPackage = .ok "" := eq_ok_of_toOption h
    simp only [edit, named, bind, Except.bind, refused]
  | sharedLibrary =>
    obtain ⟨args, read, empty⟩ := Option.map_eq_some_iff.1 h
    simp only [edit, eq_ok_of_toOption read, bind, Except.bind, empty, refused]
  | trigconfApplication =>
    obtain ⟨args, read, empty⟩ := Option.map_eq_some_iff.1 h
    simp only [edit, eq_ok_of_toOption read, bind, Except.bind, empty, refused]
  | _ => cases h

end Converter

namespace Graph

variable {profile : Profile} {path : Path} {source : String} {file : File} {graph : Graph}

theorem ofFile_of_ofSource (read : File.ofSource path source = .ok file)
    (h : ofSource profile path source = .ok graph) : ofFile profile file = .ok graph := by
  simp only [ofSource, translate, read] at h
  cases made : ofFile profile file with
  | error error => simp [made] at h
  | ok other =>
    simp only [made, Except.ok.injEq] at h
    rw [h]

/-- No name that is derived is empty. -/
theorem empty_not_mem_derivedNames (profile : Profile) (package : String)
    (statements : List Statement) : "" ∉ derivedNames profile package statements := by
  intro derived
  obtain ⟨⟨name, feature⟩, listed, rfl⟩ := List.mem_map.1 derived
  obtain ⟨statement, -, derives⟩ := List.mem_filterMap.1 listed
  obtain ⟨application, -, derives⟩ := Option.bind_eq_some_iff.1 derives
  obtain ⟨converter, -, derives⟩ := Option.bind_eq_some_iff.1 derives
  obtain ⟨edit, made, same⟩ := Option.bind_eq_some_iff.1 derives
  have named := Converter.name_ne_empty (Converter.eq_ok_of_toOption made)
  exact named (congrArg Prod.fst (Option.some.inj same))

/-- The graph of a source has a target without a name exactly when a library or an application
is declared without one. No pattern makes such a target: where one gives an empty name, there
is no graph. -/
theorem ofSource_unnamed (profile : Profile) (read : File.ofSource path source = .ok file) :
    (∀ graph, ofSource profile path source = .ok graph →
      ("" ∈ graph.targets.names ↔ ∃ kind sources, .target kind ⟨"", sources⟩ ∈ file.statements)) ∧
    ∀ application converter, .applyPattern application ∈ file.statements →
      profile.converter? application.name = some converter →
      converter.givenName? (Reference.baseName file.package) application = some "" →
      ∃ error, ofSource profile path source = .error error := by
  refine ⟨fun graph made => ?_, fun application converter applied known empty => ?_⟩
  · -- The names of a graph are declared or derived, and no derived one is empty.
    obtain ⟨targets, ran, rfl⟩ := ofFile_ok (ofFile_of_ofSource read made)
    have derived := empty_not_mem_derivedNames profile (Reference.baseName file.package)
      file.statements
    rw [withTargets, TargetSet.names_map, names_targetsOf ran, List.mem_eraseDups,
      List.mem_append, or_iff_left derived]
    constructor
    · intro declared
      obtain ⟨⟨kind, name, sources⟩, member, rfl⟩ := List.mem_map.1 declared
      exact ⟨kind, sources, mem_declarations.1 member⟩
    · rintro ⟨kind, sources, member⟩
      exact List.mem_map.2 ⟨_, mem_declarations.2 member, rfl⟩
  · cases made : ofSource profile path source with
    | error error => exact ⟨error, rfl⟩
    | ok graph =>
      -- A graph would come from a run in which this pattern made its targets.
      obtain ⟨targets, ran, -⟩ := ofFile_ok (ofFile_of_ofSource read made)
      obtain ⟨edit, edited, -⟩ := applied_of_expand ran applied known
      rw [Converter.edit_of_givenName?_empty empty] at edited
      cases edited

/-- A file with an unnamed library has a graph. It has none if a pattern gives the name. -/
theorem ofSource_unnamed_both :
    let path : Path := ⟨"Control/Foo/cmt/requirements"⟩
    let declared := "library \"\" *.cxx\napply_pattern installed_library library=Bar\n"
    let derived := "library Foo *.cxx\napply_pattern installed_library library=\"\"\n"
    (∃ graph, ofSource .atlasoff path declared = .ok graph ∧ "" ∈ graph.targets.names) ∧
      ∃ error, ofSource .atlasoff path derived = .error error := by
  intro path declared derived
  have read : File.ofSource path declared = .ok ⟨path, "Foo",
      [.target .library ⟨"", ["*.cxx"]⟩,
       .applyPattern ⟨"installed_library", [], ["library=Bar"]⟩]⟩ := by decide +kernel
  have read' : File.ofSource path derived = .ok ⟨path, "Foo",
      [.target .library ⟨"Foo", ["*.cxx"]⟩,
       .applyPattern ⟨"installed_library", [], ["library=\"\""]⟩]⟩ := by decide +kernel
  constructor
  · have made : (ofSource .atlasoff path declared).toBool = true := by decide +kernel
    cases h : ofSource .atlasoff path declared with
    | error error =>
      rw [h] at made
      cases made
    | ok graph =>
      exact ⟨graph, rfl, ((ofSource_unnamed .atlasoff read).1 graph h).2
        ⟨.library, ["*.cxx"], List.mem_cons_self⟩⟩
  · refine (ofSource_unnamed .atlasoff read').2 ⟨"installed_library", [], ["library=\"\""]⟩
      (.library "library" .atlasLibrary false) ?_ (by decide +kernel) (by decide +kernel)
    exact List.mem_cons_of_mem _ List.mem_cons_self

/-- An empty quoted word declares a library without a name, which even takes a macro that
belongs to no target. -/
theorem ofSource_unnamed_declared :
    (ofSource .atlasoff ⟨"Control/Foo/cmt/requirements"⟩
      "library \"\" *.cxx\nmacro_append linkopts -lm\n").map (fun graph =>
        graph.targets.toList.map fun target => (target.name, target.uses)) = .ok [("", ["m"])] := by
  decide +kernel

end Graph

end Requirements
