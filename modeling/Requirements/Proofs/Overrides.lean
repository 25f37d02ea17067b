import Requirements.Proofs.Scope

/-!
# What overrides reach

Profiles that are made from the same one by overrides know the same patterns and give declared
targets the same features. The libraries that stand for a package enter the graph through the
dependencies alone, and end up in what targets use. The prefixes of packages that need a build
script decide about the dialect and about nothing else. So a change in either kind of override
can be told from these parts of the graph only, and never makes a file fail. `ofFile_select`
says this of a selected profile.
-/

namespace Requirements

theorem KeyMap.lookup_entries {α : Type} (map : KeyMap α) (key : String) :
    map.entries.lookup key = map.find? key := by
  rw [find?]
  induction map.entries with
  | nil => rfl
  | cons entry rest ih =>
    obtain ⟨k, v⟩ := entry
    by_cases same : key = k
    · simp [same]
    · have other : (key == k) = false := by simpa using same
      have other' : (k == key) = false := by simpa using Ne.symm same
      simp [List.lookup_cons, other, other', ih]

/-- Overrides that differ in the libraries of one package at most. -/
structure ProfileOverrides.SameExcept (package : String) (first second : ProfileOverrides) :
    Prop where
  imperativePrefixes : first.imperativePrefixes = second.imperativePrefixes
  remap : ∀ other, other ≠ package → first.remap.find? other = second.remap.find? other

namespace Graph

/-- A graph without the libraries of its targets. -/
def withoutUses (graph : Graph) : Graph := { graph with targets := graph.targets.withoutUses }

/-- A graph without its dialect. -/
def withoutDialect (graph : Graph) : Graph := { graph with dialect := .declarative }

variable {base : Profile} {first second : ProfileOverrides} {file : File}

theorem declare_adjust (base : Profile) (overrides : ProfileOverrides)
    (statements : List Statement) :
    declare (base.adjust overrides) statements = declare base statements := rfl

theorem librariesOf_adjust (base : Profile) (overrides : ProfileOverrides) (dependency : String) :
    (base.adjust overrides).librariesOf dependency =
      (overrides.remap.find? (Reference.baseName dependency)).getD
        (base.librariesOf dependency) := by
  rw [Profile.librariesOf, Profile.remap_adjust, KeyMap.lookup_entries, Profile.librariesOf]

/-- Whatever the overrides, patterns make the same targets up to what they use, or fail. -/
theorem targetsOf_adjust_alike (base : Profile) (first second : ProfileOverrides) (file : File) :
    Alike (fun set set' => set.withoutUses = set'.withoutUses)
      (targetsOf (base.adjust first) file) (targetsOf (base.adjust second) file) := by
  have patterns : (base.adjust second).converters = (base.adjust first).converters := rfl
  rw [targetsOf, targetsOf, declare_adjust, declare_adjust]
  exact expand_alike patterns (L := fun _ _ => True) (fun _ _ _ _ _ => trivial)
    (fun edit first second _ _ _ same => edit.withoutUses_apply first second same) trivial rfl

/-- If the dependencies of a file have the same libraries, patterns make the same targets. -/
theorem targetsOf_adjust_congr
    (same : ∀ dependency ∈ file.uses,
      first.remap.find? (Reference.baseName dependency.qualifiedName) =
        second.remap.find? (Reference.baseName dependency.qualifiedName)) :
    targetsOf (base.adjust first) file = targetsOf (base.adjust second) file := by
  have patterns : (base.adjust second).converters = (base.adjust first).converters := rfl
  rw [targetsOf, targetsOf, declare_adjust, declare_adjust]
  refine Alike.eq (expand_alike patterns (L := Eq) ?_ ?_ rfl rfl)
  · rintro dependency member libraries - rfl
    have used : dependency ∈ file.uses := List.mem_filterMap.2 ⟨_, member, rfl⟩
    rw [librariesOf_adjust, librariesOf_adjust, same dependency used]
  · rintro edit libraries - set - rfl rfl
    rfl

theorem withTargets_adjust (prefixes : first.imperativePrefixes = second.imperativePrefixes)
    (targets : TargetSet) :
    withTargets (base.adjust first) file targets =
      withTargets (base.adjust second) file targets := by
  have forced (path name : String) : (base.adjust first).forcesImperative path name =
      (base.adjust second).forcesImperative path name := by
    simp only [Profile.forcesImperative, Profile.adjust, prefixes]
  simp only [withTargets, dialectOf, forced]
  rfl

theorem withoutDialect_adjust (base : Profile) (first second : ProfileOverrides) (file : File)
    (targets : TargetSet) :
    (withTargets (base.adjust first) file targets).withoutDialect =
      (withTargets (base.adjust second) file targets).withoutDialect := rfl

theorem exists_adjust_of_select {name : String} {first second : ProfileOverrides}
    {profile other : Profile} (selected : Profile.select name first = .ok profile)
    (selected' : Profile.select name second = .ok other) :
    ∃ base : Profile, profile = base.adjust first ∧ other = base.adjust second := by
  rw [Profile.select] at selected selected'
  cases found : Profile.ofName? name with
  | none =>
    rw [found] at selected
    cases selected
  | some base =>
    rw [found] at selected selected'
    exact ⟨base, (Except.ok.inj selected).symm, (Except.ok.inj selected').symm⟩

/-- Overrides have no effect but the one that they are for. If those of one profile differ in the
libraries of one package, a file fails in both cases and for the same reason, or it has graphs
that differ in what their targets use at most; and the graphs are equal if no dependency has
the last name of that package. If they differ in the prefixes of packages that need a build
script, it fails for the same reason or has graphs that differ in the dialect at most. -/
theorem ofFile_select {name : String} {profile other : Profile}
    (selected : Profile.select name first = .ok profile)
    (selected' : Profile.select name second = .ok other) (file : File) :
    (∀ package, first.SameExcept package second →
      Alike (fun graph graph' => graph.withoutUses = graph'.withoutUses)
          (ofFile profile file) (ofFile other file) ∧
        ((∀ dependency ∈ file.uses, Reference.baseName dependency.qualifiedName ≠ package) →
          ofFile profile file = ofFile other file)) ∧
    (first.remap = second.remap →
      Alike (fun graph graph' => graph.withoutDialect = graph'.withoutDialect)
        (ofFile profile file) (ofFile other file)) := by
  obtain ⟨base, rfl, rfl⟩ := exists_adjust_of_select selected selected'
  rw [ofFile_eq, ofFile_eq]
  refine ⟨fun package same => ⟨?_, fun unused => ?_⟩, fun same => ?_⟩
  · refine (targetsOf_adjust_alike base first second file).map fun {set set'} related => ?_
    rw [withTargets_adjust same.imperativePrefixes, withoutUses, withoutUses,
      withoutUses_withTargets, withoutUses_withTargets, related]
    rfl
  · have targets : targetsOf (base.adjust first) file = targetsOf (base.adjust second) file :=
      targetsOf_adjust_congr fun dependency used => same.remap _ (unused dependency used)
    have graphs : withTargets (base.adjust first) file = withTargets (base.adjust second) file :=
      funext (withTargets_adjust same.imperativePrefixes)
    rw [targets, graphs]
  · have targets : targetsOf (base.adjust first) file = targetsOf (base.adjust second) file :=
      targetsOf_adjust_congr fun _ _ => by rw [same]
    rw [targets]
    cases targetsOf (base.adjust second) file with
    | error error => exact .error error
    | ok targets => exact .ok (withoutDialect_adjust base first second file targets)

/-- Another library for a dependency, which one of two files has, and a prefix for a package. -/
theorem ofFile_select_mapped :
    let mapped : ProfileOverrides := { remap := KeyMap.empty.insert "Bar" ["Baz"] }
    let forced : ProfileOverrides := { imperativePrefixes := some ["Control/"] }
    let path : Path := ⟨"Control/Foo/cmt/requirements"⟩
    let library : Statement := .applyPattern ⟨"installed_library", [], ["library=Foo"]⟩
    let file : File := ⟨path, "Foo", [.use ⟨"Bar", none, none, [], .exported⟩, library]⟩
    let unused : File := ⟨path, "Foo", [.use ⟨"Boo", none, none, [], .exported⟩, library]⟩
    let uses (profile : Profile) := (ofFile profile file).map fun graph =>
      (graph.targets.get? "Foo").map Target.uses
    let dialect (profile : Profile) := (ofFile profile file).map Graph.dialect
    ∃ plain other script : Profile,
      Profile.select "atlasoff" {} = .ok plain ∧ Profile.select "atlasoff" mapped = .ok other ∧
      Profile.select "atlasoff" forced = .ok script ∧ mapped.SameExcept "Bar" {} ∧
      uses plain = .ok (some ["Bar"]) ∧ uses other = .ok (some ["Baz"]) ∧
      Alike (fun graph graph' => graph.withoutUses = graph'.withoutUses)
        (ofFile other file) (ofFile plain file) ∧
      ofFile other unused = ofFile plain unused ∧
      dialect plain = .ok .declarative ∧ dialect script = .ok .imperative ∧
      Alike (fun graph graph' => graph.withoutDialect = graph'.withoutDialect)
        (ofFile script file) (ofFile plain file) := by
  intro mapped forced path library file unused uses dialect
  have same : mapped.SameExcept "Bar" {} := by
    refine ⟨rfl, fun other different => ?_⟩
    rw [KeyMap.find?_insert, if_neg (Ne.symm different)]
  have apart : ∀ dependency ∈ unused.uses,
      Reference.baseName dependency.qualifiedName ≠ "Bar" := by
    decide +kernel
  have selected : Profile.select "atlasoff" {} = .ok (Profile.atlasoff.adjust {}) := rfl
  have selected' : Profile.select "atlasoff" mapped = .ok (Profile.atlasoff.adjust mapped) := rfl
  have selected'' : Profile.select "atlasoff" forced = .ok (Profile.atlasoff.adjust forced) := rfl
  refine ⟨_, _, _, selected, selected', selected'', same, by decide +kernel, by decide +kernel,
    ?_, ?_, by decide +kernel, by decide +kernel, ?_⟩
  · exact ((ofFile_select selected' selected file).1 "Bar" same).1
  · exact ((ofFile_select selected' selected unused).1 "Bar" same).2 apart
  · exact (ofFile_select selected'' selected file).2 rfl

end Graph

end Requirements
