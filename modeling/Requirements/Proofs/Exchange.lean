import Requirements.Proofs.Failure
import Requirements.Proofs.Naming
import Requirements.Proofs.Scope

/-!
# Neighbouring patterns change places

What a pattern does to its target depends on that target and on the libraries of the
dependencies above. So two neighbouring patterns with different targets may be applied in
either order: `sameTargets_apply_apply` says so of their edits, and `sameTargets_expand`
carries it through the patterns below. Whether there is a graph does not depend on the order
of the statements at all, and only a target that one of the two patterns makes can stand in
another place.
-/

namespace Requirements

namespace TargetSet

/-- Two sets hold the same target for every name. -/
def SameTargets (set other : TargetSet) : Prop := ∀ name, other.get? name = set.get? name

theorem SameTargets.getOrNew {set other : TargetSet} (same : set.SameTargets other)
    (name : String) (feature : Feature) :
    other.getOrNew name feature = set.getOrNew name feature := by
  rw [TargetSet.getOrNew, same name, TargetSet.getOrNew]

end TargetSet

namespace TargetEdit

theorem sameTargets_apply (edit : TargetEdit) (libraries : List String) {set other : TargetSet}
    (same : set.SameTargets other) :
    (edit.apply libraries set).SameTargets (edit.apply libraries other) := by
  intro name
  rw [get?_apply, get?_apply, same.getOrNew, same name]

/-- An edit does not see what another one has done to another target. -/
theorem getOrNew_apply_of_ne (edit : TargetEdit) (libraries : List String) (set : TargetSet)
    {name : String} (different : edit.name ≠ name) (feature : Feature) :
    (edit.apply libraries set).getOrNew name feature = set.getOrNew name feature := by
  rw [TargetSet.getOrNew, edit.get?_apply_of_ne libraries set different, TargetSet.getOrNew]

/-- Edits of different targets commute up to the places of the targets. -/
theorem sameTargets_apply_apply {first second : TargetEdit} (libraries : List String)
    (set : TargetSet) (different : first.name ≠ second.name) :
    (second.apply libraries (first.apply libraries set)).SameTargets
      (first.apply libraries (second.apply libraries set)) := by
  intro name
  simp only [get?_apply, getOrNew_apply_of_ne first libraries set different,
    getOrNew_apply_of_ne second libraries set different.symm]
  by_cases one : first.name = name
  · have other : second.name ≠ name := fun two => different (one.trans two.symm)
    simp [one, other]
  · simp [one]

end TargetEdit

/-- If two neighbours in a list change places, then either the list without repetitions stays
the same, or both are new there and change places too. -/
theorem eraseDups_exchange (front back : List String) (first second : String) :
    (front ++ first :: second :: back).eraseDups =
        (front ++ second :: first :: back).eraseDups ∨
      first ∉ front ∧ second ∉ front ∧ ∃ rest,
        (front ++ first :: second :: back).eraseDups =
          front.eraseDups ++ first :: second :: rest ∧
        (front ++ second :: first :: back).eraseDups =
          front.eraseDups ++ second :: first :: rest := by
  simp only [List.eraseDups_append]
  -- A name that stands in front is removed before the two meet.
  by_cases old : first ∈ front
  · simp [List.cons_removeAll, old]
  by_cases old' : second ∈ front
  · simp [List.cons_removeAll, old']
  by_cases same : first = second
  · exact .inl (by rw [same])
  refine .inr ⟨old, old',
    (((back.removeAll front).filter (!· == first)).filter (!· == second)).eraseDups, ?_, ?_⟩
  · simp [List.cons_removeAll, old, old', List.eraseDups_cons, Ne.symm same]
  · simp [List.cons_removeAll, old, old', List.eraseDups_cons, same, List.filter_filter,
      Bool.and_comm]

/-- If two names change places among those that are added, only a target that is new then can
have another place. -/
theorem TargetSet.find?_exchange {set other : TargetSet} {front back : List String}
    {first second name : String}
    (names : set.names = (front ++ first :: second :: back).eraseDups)
    (names' : other.names = (front ++ second :: first :: back).eraseDups)
    (old : name = first ∨ name = second → name ∈ front) : other.find? name = set.find? name := by
  rw [find?_eq_names, find?_eq_names, names, names']
  rcases eraseDups_exchange front back first second with
    same | ⟨new, new', rest, before, after⟩
  · rw [same]
  · have apart : first ≠ name := fun same => new (same ▸ old (.inl same.symm))
    have apart' : second ≠ name := fun same => new' (same ▸ old (.inr same.symm))
    rw [before, after, List.findIdx?_append, List.findIdx?_append]
    simp [List.findIdx?_cons, apart, apart']

namespace Graph

variable {profile : Profile}

/-- Whether a file has a graph does not depend on the order of its statements. -/
theorem exists_ofFile_of_perm {first second : File} (package : first.package = second.package)
    (perm : first.statements.Perm second.statements)
    (h : ∃ graph, ofFile profile first = .ok graph) :
    ∃ graph, ofFile profile second = .ok graph := by
  obtain ⟨graph, made⟩ := h
  cases other : ofFile profile second with
  | ok graph => exact ⟨graph, rfl⟩
  | error error =>
    obtain ⟨statement, member, fails⟩ :=
      List.exists_of_findSome?_eq_some (ofFile_eq_error_iff.1 other)
    cases found : first.statements.findSome? (Statement.fault? profile
        (Reference.baseName first.package)) with
    | none =>
      rw [← package] at fails
      rw [List.findSome?_eq_none_iff.1 found statement (perm.mem_iff.2 member)] at fails
      cases fails
    | some fault =>
      rw [ofFile_eq_error_iff.2 found] at made
      cases made

variable {package : String} {uses : List String} {targets result : TargetSet}
variable {first second : Application} {converter converter' : Converter}

theorem names_iff {application : Application} {converter : Converter}
    (known : profile.converter? application.name = some converter) {name : String} :
    profile.Names package application name ↔
      ∃ edit, converter.edit package application = .ok edit ∧ edit.name = name := by
  constructor
  · rintro ⟨other, edit, found, made, named⟩
    obtain rfl := Option.some.inj (found.symm.trans known)
    exact ⟨edit, made, named⟩
  · rintro ⟨edit, made, named⟩
    exact ⟨converter, edit, known, made, named⟩

theorem exists_names_of_derivation? {statement : Statement} {name : String} {feature : Feature}
    (h : statement.derivation? profile package = some (name, feature)) :
    ∃ application, statement = .applyPattern application ∧
      profile.Names package application name := by
  obtain ⟨application, applied, h⟩ := Option.bind_eq_some_iff.1 h
  obtain ⟨converter, known, h⟩ := Option.bind_eq_some_iff.1 h
  cases made : converter.edit package application with
  | error error =>
    rw [made] at h
    cases h
  | ok edit =>
    rw [made] at h
    cases h
    refine ⟨application, ?_, converter, edit, known, made, rfl⟩
    cases statement with
    | applyPattern => rw [Option.some.inj applied]
    | _ => cases applied

theorem mem_derivedNames {statements : List Statement} {name : String} :
    name ∈ derivedNames profile package statements ↔
      ∃ application, .applyPattern application ∈ statements ∧
        profile.Names package application name := by
  simp only [derivedNames, derivations, List.mem_map, List.mem_filterMap]
  constructor
  · rintro ⟨⟨_, feature⟩, ⟨statement, member, derived⟩, rfl⟩
    obtain ⟨application, rfl, named⟩ := exists_names_of_derivation? derived
    exact ⟨application, member, named⟩
  · rintro ⟨application, member, converter, edit, known, made, rfl⟩
    exact ⟨_, ⟨_, member, derivation?_applyPattern known made⟩, rfl⟩

/-- A run over an application of a known pattern starts with its edit. -/
theorem expand_applyPattern_ok {application : Application} {rest : List Statement}
    (known : profile.converter? application.name = some converter)
    (h : expand profile package uses targets (.applyPattern application :: rest) = .ok result) :
    ∃ edit, converter.edit package application = .ok edit ∧
      expand profile package uses (edit.apply uses targets) rest = .ok result := by
  simp only [expand, known, Converter.apply_eq] at h
  cases made : converter.edit package application with
  | error error => simp [made, Except.map] at h
  | ok edit => exact ⟨edit, rfl, by simpa [made, Except.map] using h⟩

/-- Neighbouring patterns with different targets make the same targets in either order. -/
theorem sameTargets_expand {other : TargetSet} {below : List Statement}
    (known : profile.converter? first.name = some converter)
    (known' : profile.converter? second.name = some converter')
    (different : ∀ name, profile.Names package first name → ¬ profile.Names package second name)
    (h : expand profile package uses targets
      (.applyPattern first :: .applyPattern second :: below) = .ok result)
    (h' : expand profile package uses targets
      (.applyPattern second :: .applyPattern first :: below) = .ok other) :
    result.SameTargets other := by
  obtain ⟨edit, made, h⟩ := expand_applyPattern_ok known h
  obtain ⟨edit', made', h⟩ := expand_applyPattern_ok known' h
  obtain ⟨again', remade', h'⟩ := expand_applyPattern_ok known' h'
  obtain ⟨again, remade, h'⟩ := expand_applyPattern_ok known h'
  obtain rfl := Except.ok.inj (made.symm.trans remade)
  obtain rfl := Except.ok.inj (made'.symm.trans remade')
  have distinct : edit.name ≠ edit'.name := fun same =>
    different edit'.name ((names_iff known).2 ⟨edit, made, same⟩)
      ((names_iff known').2 ⟨edit', made', rfl⟩)
  obtain ⟨last, ran, same⟩ := expand_related (R := TargetSet.SameTargets) (L := Eq)
    (fun more libraries => congrArg (· ++ more) libraries)
    (fun edit first _ _ _ libraries same => libraries ▸ edit.sameTargets_apply first same) rfl
    (TargetEdit.sameTargets_apply_apply uses targets distinct) h
  obtain rfl := Except.ok.inj (ran.symm.trans h')
  exact same

theorem derivedNames_append_cons_cons {above below : List Statement} {edit edit' : TargetEdit}
    (known : profile.converter? first.name = some converter)
    (made : converter.edit package first = .ok edit)
    (known' : profile.converter? second.name = some converter')
    (made' : converter'.edit package second = .ok edit') :
    derivedNames profile package
        (above ++ .applyPattern first :: .applyPattern second :: below) =
      derivedNames profile package above ++
        edit.name :: edit'.name :: derivedNames profile package below := by
  simp [derivedNames, derivations, derivation?_applyPattern known made,
    derivation?_applyPattern known' made']

/-- What changes of a graph if two neighbouring patterns below some statements change places. -/
structure Exchanged (profile : Profile) (file : File) (above : List Statement)
    (first second : Application) (before after : Graph) : Prop where
  package : after.package = before.package
  deps : after.deps = before.deps
  configuration : after.configuration = before.configuration
  pendingPatterns : after.pendingPatterns = before.pendingPatterns
  dialect : after.dialect = before.dialect
  targets : ∀ name, after.targets.get? name = before.targets.get? name
  /-- A target stays in its place unless one of the two patterns makes it. -/
  places : ∀ name,
    (profile.Names (Reference.baseName file.package) first name ∨
        profile.Names (Reference.baseName file.package) second name →
      name ∈ declaredNames file.statements ∨ ∃ earlier, .applyPattern earlier ∈ above ∧
        profile.Names (Reference.baseName file.package) earlier name) →
    after.targets.find? name = before.targets.find? name

theorem sameElsewhere_exchange {file : File} {above below : List Statement}
    (split : file.statements = above ++ .applyPattern first :: .applyPattern second :: below)
    (known : profile.converter? first.name = some converter)
    (known' : profile.converter? second.name = some converter') :
    SameElsewhere profile { file with
      statements := above ++ .applyPattern second :: .applyPattern first :: below } file := by
  refine ⟨rfl, rfl, ?_⟩
  simp [split, Statement.isKeptElsewhere, Profile.isPending, known, known']

theorem find?_withTargets (profile : Profile) (file : File) (targets : TargetSet) (name : String) :
    (withTargets profile file targets).targets.find? name = targets.find? name := by
  rw [TargetSet.find?_eq_names, withTargets, TargetSet.names_map, ← TargetSet.find?_eq_names]

/-- Two neighbouring patterns with different targets may change places. -/
theorem ofFile_exchange {file : File} {above below : List Statement}
    (split : file.statements = above ++ .applyPattern first :: .applyPattern second :: below)
    (known : profile.converter? first.name = some converter)
    (known' : profile.converter? second.name = some converter')
    (different : ∀ name, profile.Names (Reference.baseName file.package) first name →
      ¬ profile.Names (Reference.baseName file.package) second name) :
    let exchanged : File := { file with
      statements := above ++ .applyPattern second :: .applyPattern first :: below }
    ((∃ graph, ofFile profile file = .ok graph) ↔
        ∃ graph, ofFile profile exchanged = .ok graph) ∧
      ∀ before after, ofFile profile file = .ok before → ofFile profile exchanged = .ok after →
        Exchanged profile file above first second before after := by
  intro exchanged
  have perm : file.statements.Perm exchanged.statements := by
    rw [split]
    exact (List.Perm.swap _ _ below).append_left above
  refine ⟨⟨exists_ofFile_of_perm rfl perm, exists_ofFile_of_perm rfl perm.symm⟩, ?_⟩
  intro before after h h'
  obtain ⟨targets, ran, rfl⟩ := ofFile_ok h
  obtain ⟨targets', ran', rfl⟩ := ofFile_ok h'
  have others : SameElsewhere profile exchanged file := sameElsewhere_exchange split known known'
  have uses : exchanged.uses = file.uses := by
    simp [exchanged, File.uses, split, List.filterMap_cons, Statement.use?]
  rw [others.withTargets_eq, uses]
  have same : targets.SameTargets targets' := by
    rw [targetsOf, split] at ran
    rw [targetsOf, others.targets_declare, split] at ran'
    -- Down to the two patterns the runs are one.
    obtain ⟨middle, front, back⟩ := expand_append_ok _ _ ran
    obtain ⟨middle', front', back'⟩ := expand_append_ok _ _ ran'
    obtain rfl := Except.ok.inj (front.symm.trans front')
    exact sameTargets_expand known known' different back back'
  have applied : .applyPattern first ∈ file.statements := by simp [split]
  have applied' : .applyPattern second ∈ file.statements := by simp [split]
  obtain ⟨edit, made, -⟩ := applied_of_expand ran applied known
  obtain ⟨edit', made', -⟩ := applied_of_expand ran applied' known'
  have names := names_targetsOf ran
  have names' := names_targetsOf ran'
  rw [split, derivedNames_append_cons_cons known made known' made', ← List.append_assoc] at names
  rw [others.declarations_eq, split, derivedNames_append_cons_cons known' made' known made,
    ← List.append_assoc] at names'
  exact
    { package := rfl
      deps := rfl
      configuration := rfl
      pendingPatterns := rfl
      dialect := rfl
      targets := by
        intro name
        rw [withTargets, withTargets, TargetSet.get?_map, TargetSet.get?_map, same]
      places := by
        intro name old
        rw [find?_withTargets, find?_withTargets]
        refine TargetSet.find?_exchange names names' fun named => ?_
        have there := old <| named.imp
          (fun same => (names_iff known).2 ⟨edit, made, same.symm⟩)
          (fun same => (names_iff known').2 ⟨edit', made', same.symm⟩)
        rw [split, declaredNames, List.mem_eraseDups] at there
        rwa [List.mem_append, mem_derivedNames] }

/-- The targets `A` and `B` are made by the two patterns and change places. The other ones
stay, among them one that is made later. -/
theorem ofFile_exchange_made :
    let library (name : String) : Application := ⟨"installed_library", [], ["library=" ++ name]⟩
    let converter : Converter := .library "library" .atlasLibrary false
    let above : List Statement :=
      [.target .library ⟨"Foo", ["*.cxx"]⟩, .use ⟨"Bar", none, none, [], .exported⟩]
    let below : List Statement := [.applyPattern (library "C"), .applyPattern (library "A")]
    let path : Path := ⟨"Control/Foo/cmt/requirements"⟩
    let file : File := ⟨path, "Foo",
      above ++ .applyPattern (library "A") :: .applyPattern (library "B") :: below⟩
    let exchanged : File := ⟨path, "Foo",
      above ++ .applyPattern (library "B") :: .applyPattern (library "A") :: below⟩
    Profile.atlasoff.converter? "installed_library" = some converter ∧
      (∀ name, Profile.atlasoff.Names "Foo" (library "A") name →
        ¬ Profile.atlasoff.Names "Foo" (library "B") name) ∧
      ∃ before after, ofFile .atlasoff file = .ok before ∧ ofFile .atlasoff exchanged = .ok after ∧
        before.targets.names = ["Foo", "A", "B", "C"] ∧
        after.targets.names = ["Foo", "B", "A", "C"] ∧
        Exchanged .atlasoff file above (library "A") (library "B") before after := by
  intro library converter above below path file exchanged
  have known : Profile.atlasoff.converter? "installed_library" = some converter := by
    decide +kernel
  have different (name : String) (one : Profile.atlasoff.Names "Foo" (library "A") name) :
      ¬ Profile.atlasoff.Names "Foo" (library "B") name := by
    intro other
    obtain ⟨edit, made, rfl⟩ := (names_iff known).1 one
    obtain ⟨edit', made', same⟩ := (names_iff known).1 other
    have named : (converter.edit "Foo" (library "A")).map TargetEdit.name = .ok "A" := by
      decide +kernel
    have named' : (converter.edit "Foo" (library "B")).map TargetEdit.name = .ok "B" := by
      decide +kernel
    rw [made] at named
    rw [made', Except.map, same, Except.ok.inj named] at named'
    exact absurd (Except.ok.inj named') (by decide)
  have package : Reference.baseName file.package = "Foo" := by decide +kernel
  have names : (ofFile .atlasoff file).map (fun graph => graph.targets.names) =
      .ok ["Foo", "A", "B", "C"] := by decide +kernel
  have names' : (ofFile .atlasoff exchanged).map (fun graph => graph.targets.names) =
      .ok ["Foo", "B", "A", "C"] := by decide +kernel
  obtain ⟨succeeds, agree⟩ := ofFile_exchange (rfl : file.statements = above ++ _ :: _ :: below)
    known known (package ▸ different)
  have ok : ∃ graph, ofFile .atlasoff file = .ok graph := ⟨_, rfl⟩
  obtain ⟨before, h⟩ := ok
  obtain ⟨after, h'⟩ := succeeds.1 ⟨before, h⟩
  rw [h] at names
  rw [h'] at names'
  exact ⟨known, different, before, after, h, h', Except.ok.inj names, Except.ok.inj names',
    agree before after h h'⟩

end Graph

end Requirements
