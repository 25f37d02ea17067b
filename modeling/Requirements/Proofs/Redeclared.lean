import Requirements.Proofs.Naming

/-!
# Targets that are declared more than once

The first declaration of a name makes a target and folds its macros, and the later ones extend
what is there. In the end it makes no difference which of them was the first, but for the
feature. `declaresAll_declare` says what the declared targets are before any pattern is applied,
in terms of all declarations of a name and of all macros of a file.
-/

namespace Requirements

namespace Graph

variable {profile : Profile} {buckets : MacroBuckets}

namespace Declared

@[simp] theorem name_extended (decl : TargetDecl) (target : Target) :
    (extended decl target).name = target.name := by
  simp [extended]

/-- What is true of a target that has just been made, and is kept when it is declared again, is
true of all declared targets. -/
theorem forall_mem_foldl {P : Target → Prop}
    (first : ∀ kind decl macros, P ((fresh profile kind decl).fold macros).1)
    (again : ∀ decl target, P target → P (extended decl target))
    (declarations : List (TargetKind × TargetDecl)) :
    ∀ target ∈ (declarations.foldl (Declared.add profile buckets) {}).targets.toList,
      P target := by
  induction declarations using List.reverseRecOn with
  | nil => exact nofun
  | append_singleton declarations declaration ih =>
    obtain ⟨kind, decl⟩ := declaration
    rw [List.foldl_append, List.foldl_cons, List.foldl_nil]
    generalize declarations.foldl (Declared.add profile buckets) {} = declared at ih ⊢
    intro target member
    -- Only the target of the declared name is new or has changed.
    have found := TargetSet.get?_of_mem member
    by_cases present : decl.name ∈ declared.targets.names
    · rw [add_of_mem present, TargetSet.get?_modify] at found
      split at found
      · obtain ⟨old, there, rfl⟩ := Option.map_eq_some_iff.1 found
        have kept := again decl old (ih old (TargetSet.mem_of_get? there))
        rwa [← name_extended decl old]
      · exact ih target (TargetSet.mem_of_get? found)
    · rw [add_of_not_mem present, TargetSet.get?_insert] at found
      split at found
      · obtain rfl := Option.some.inj found
        exact first kind decl _
      · exact ih target (TargetSet.mem_of_get? found)

/-- A target has no named argument but the one for switches, and this one is not empty. -/
def SwitchesOnly (target : Target) : Prop :=
  ∀ key values, target.kwarg? key = some values → key = Target.switchesKey ∧ values ≠ []

/-- Switches are added to an argument only if there are any. -/
theorem SwitchesOnly.extendKwarg {target : Target} (h : SwitchesOnly target)
    (switches : List String) :
    SwitchesOnly (target.extendKwarg Target.switchesKey switches) := by
  rw [Target.extendKwarg]
  split
  · exact h
  · rename_i some
    intro key values found
    rw [Target.kwarg?, KeyMap.find?_insert] at found
    split at found
    · rename_i same
      obtain rfl := Option.some.inj found
      exact ⟨same.symm, by simpa using fun _ => some⟩
    · exact h key values found

theorem switchesOnly_foldl (declarations : List (TargetKind × TargetDecl)) :
    ∀ target ∈ (declarations.foldl (Declared.add profile buckets) {}).targets.toList,
      SwitchesOnly target := by
  refine forall_mem_foldl (fun kind decl macros => ?_) (fun decl target h => ?_) declarations
  · obtain ⟨uses, cxxFlags, cFlags, folded⟩ :=
      TargetMacro.fold_eq (fresh profile kind decl) macros
    rw [folded]
    exact SwitchesOnly.extendKwarg (fun _ _ found => by cases found) _
  · have kept : SwitchesOnly
        { target with sources := target.sources ++ (sourceList decl).sources } := h
    exact kept.extendKwarg _

theorem SwitchesOnly.isSome_iff {target : Target} (h : SwitchesOnly target) :
    (target.kwarg? Target.switchesKey).isSome ↔
      (target.kwarg? Target.switchesKey).getD [] ≠ [] := by
  cases found : target.kwarg? Target.switchesKey with
  | none => simp
  | some values => simpa using (h _ values found).2

end Declared

/-- A target is what all declarations of its name and all macros of a file come to. -/
structure DeclaredAs (profile : Profile) (statements : List Statement) (target : Target) :
    Prop where
  /-- The first declaration decides the feature. -/
  feature : some target.feature =
    declaredFeature? profile (declarations statements) target.name
  sources : target.sources =
    (sourceLists (declarations statements) target.name).flatMap SourceList.sources
  hasSwitches : (target.kwarg? Target.switchesKey).isSome ↔
    ∃ list ∈ sourceLists (declarations statements) target.name, list.switches ≠ []
  switches : (target.kwarg? Target.switchesKey).getD [] =
    (sourceLists (declarations statements) target.name).flatMap SourceList.switches
  otherArguments : ∀ key, key ≠ Target.switchesKey → target.kwarg? key = none
  /-- The lists of flags are those of a target without anything, into which all macros are folded
  at once. -/
  flags : ∀ list : FlagList, list.get target =
    list.get (({ name := target.name, feature := target.feature } : Target).fold
      (TargetMacro.ofStatements statements)).1

/-- The declared targets are what all declarations and all macros of a file come to. -/
structure DeclaresAll (profile : Profile) (statements : List Statement) (declared : Declared) :
    Prop where
  distinct : declared.targets.names.Nodup
  /-- There is a target for every declared name and for no other. -/
  names : ∀ name, name ∈ declared.targets.names ↔
    ∃ kind sources, .target kind ⟨name, sources⟩ ∈ statements
  targets : ∀ target ∈ declared.targets.toList, DeclaredAs profile statements target
  /-- Each macro that holds flags of a declared target is folded once. -/
  once : declared.folded.Perm
    (Statement.placesOf (Statement.isFolded (declaredNames statements)) statements)

theorem declaredAs_of_mem {statements : List Statement} {target : Target}
    (member : target ∈ (declare profile statements).targets.toList) :
    DeclaredAs profile statements target := by
  have found := TargetSet.get?_of_mem member
  have declared : target.name ∈ declaredNames statements := by
    rw [← names_declare profile statements]
    exact List.mem_map_of_mem member
  obtain ⟨same, found', made⟩ := madeOf_declare profile statements declared
  obtain rfl := Option.some.inj (found.symm.trans found')
  have only : Declared.SwitchesOnly target := Declared.switchesOnly_foldl _ target member
  have feature : ((declare profile statements).targets.get? target.name).map Target.feature =
      declaredFeature? profile (declarations statements) target.name :=
    Declared.feature_foldl profile _ _ _
  exact
    { feature := by rw [← feature, found, Option.map_some]
      sources := made.sources
      hasSwitches := by
        rw [only.isSome_iff, made.switches, ne_eq, List.flatMap_eq_nil_iff]
        simp
      switches := made.switches
      otherArguments := fun key other => by
        rw [Option.eq_none_iff_forall_ne_some]
        exact fun values given => other (only key values given).1
      flags := fun list => by
        rw [made.flags, TargetMacro.get_fold]
        cases list <;> rfl }

theorem declaresAll_declare (profile : Profile) (statements : List Statement) :
    DeclaresAll profile statements (declare profile statements) where
  distinct := TargetSet.nodup_names _
  names name := by rw [names_declare, mem_declaredNames]
  targets _ := declaredAs_of_mem
  once := by
    rw [folded_declare]
    exact TargetMacro.perm_places statements (nodup_declaredNames statements)

/-- `Foo` is a library, since it is one first. The directory of its first declaration does not
reach into the second one, and its macros are folded once, those above and those below. -/
example :
    let declared := declare .tdaq
      [.setting .removeMacro ⟨"Foolinkopts", "-lold", []⟩,
       .target .library ⟨"Foo", ["a.cxx", "-s=../lib", "b.cxx"]⟩,
       .target .application ⟨"Bar", ["-group=all"]⟩,
       .target .application ⟨"Foo", ["main.cxx", "-check", "../test/c.cxx"]⟩,
       .setting .defineMacro ⟨"Foolinkopts", "-lold -lnew", []⟩]
    declared.targets.toList =
      [{ name := "Foo", feature := .tdaqLibrary, uses := ["new"],
         sources := ["src/a.cxx", "lib/b.cxx", "src/main.cxx", "test/c.cxx"],
         kwargs := .ofList [("switches", ["-check"])] },
       { name := "Bar", feature := .tdaqApplication,
         kwargs := .ofList [("switches", ["-group=all"])] }] ∧
      declared.folded = [4, 0] := by
  decide +kernel

end Graph

end Requirements
