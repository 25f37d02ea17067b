import Requirements.Pattern.Converter

/-!
# Carrying out a pattern

A pattern is carried out on the targets of a package step by step: its arguments are
read, the target that it names is found or created, and that target is changed. A step
may end in an error, and what the targets are by then is part of the step. `run_run` says
what the steps of a pattern come to: they fail where the edit of the pattern cannot be
made, before any target has been touched, and otherwise they carry the edit out.
-/

namespace Requirements

/-- A step on the targets of a package, which may end in an error. -/
abbrev PatternStep := EStateM PatternError TargetSet

namespace PatternStep

/-- Go on with a result, unless it is an error. -/
def check {α : Type} : Except PatternError α → PatternStep α
  | .ok result => return result
  | .error error => throw error

/-- Find the target of a name or create it, and give it a feature. -/
def findOrCreate (name : String) (feature : Feature) : PatternStep Unit :=
  modify fun set => set.findOrCreate name feature

/-- Change the target of a name. -/
def change (name : String) (edit : Target → Target) : PatternStep Unit :=
  modify fun set => set.modify name edit

theorem run_check_bind {α β : Type} (result : Except PatternError α) (next : α → PatternStep β)
    (set : TargetSet) :
    (check result >>= next).run set =
      match result with
      | .ok value => (next value).run set
      | .error error => .error error set := by
  cases result <;> rfl

end PatternStep

namespace Target

/-- Give a target the libraries of its package, unless there are none. -/
def attachUses (packageUses : List String) (target : Target) : Target :=
  { target with uses := UsesEdit.attach.apply packageUses target.uses }

/-- Pass an argument on to a target, under a key of its own, if it is given. -/
def passOn (args : PatternArgs) (key name : String) (target : Target) : Target :=
  { target with
    kwargs := match args.find? key with
      | none => target.kwargs
      | some value => target.kwargs.insert name [value] }

end Target

namespace Converter

open PatternStep in
/-- Carry out an application of a pattern in the package of a name, given the libraries of
the package. -/
def run (converter : Converter) (package : String) (packageUses : List String)
    (application : Application) : PatternStep Unit := do
  match converter with
  | .library key feature orPackage =>
    let name ← check (libraryName package application key orPackage)
    let name ← check (requireName package application name)
    findOrCreate name feature
    change name (Target.attachUses packageUses)
  | .sharedLibrary =>
    let args ← check (PatternArgs.read package application)
    let name ← check (requireName package application ((args.find? "library").getD package))
    findOrCreate name .atlasLibrary
    change name (Target.attachUses packageUses)
    change name fun target => { target with sources := [(args.find? "files").getD "src/*.cxx"] }
  | .trigconfApplication =>
    let args ← check (PatternArgs.read package application)
    let app ← check (requireName package application (args.value "name"))
    let name := "TrigConf" ++ app
    findOrCreate name .trigconfApplication
    change name fun target => { target with sources := ["src/test/" ++ app ++ ".cxx"] }
    change name fun target => { target with uses := [package, "boost-thread"] ++ packageUses }
  | .install part feature files =>
    let name := packageTarget package part
    findOrCreate name feature
    unless files.isEmpty do
      change name fun target => { target with sources := files }
  | .genericInstall feature =>
    let args ← check (PatternArgs.read package application)
    let name := genericName package args
    findOrCreate name feature
    change name fun target => { target with sources := [args.value "files"] }
    change name (Target.passOn args "prefix" "install_prefix")
  | .jobTransforms =>
    let args ← check (PatternArgs.read package application)
    let name := packageTarget package "install-trfs"
    findOrCreate name .atlasInstallTrfs
    change name fun target => { target with sources := [] }
    change name (Target.passOn args "jo" "trf_jo")
    change name (Target.passOn args "tfs" "trf_tfs")
  | .dictionary =>
    let args ← check (PatternArgs.read package application)
    let name := args.value "dict" ++ "Dict"
    let headers := SourceList.ofWords none (Text.wordsOf (args.value "headerfiles"))
    findOrCreate name .atlasDictionary
    change name fun target => { target with sources := headers.sources }
    change name fun target =>
      target.setKwarg "selection_file" (package ++ "/" ++ args.value "selectionfile")
    change name (Target.attachUses packageUses)
  | .unitTest =>
    let args ← check (PatternArgs.read package application)
    let test := args.value "unit_test"
    let name := packageTarget package ("test-" ++ test)
    findOrCreate name .atlasUnittest
    change name fun target => { target with sources := ["test/" ++ test ++ "_test.cxx"] }
    change name (Target.passOn args "extrapatterns" "extrapatterns")
    change name (Target.attachUses packageUses)
  | .athenarunTest =>
    let args ← check (PatternArgs.read package application)
    let name := packageTarget package ("runtest-" ++ args.value "name")
    findOrCreate name .atlasAthenarunTest
    change name (Target.passOn args "options" "joboptions")
    change name (Target.passOn args "post_script" "post_script")
    change name fun target => { target with uses := [package] }

/-- The targets of a package after an application of a pattern. -/
def apply (converter : Converter) (package : String) (packageUses : List String)
    (application : Application) (set : TargetSet) : Except PatternError TargetSet :=
  match (converter.run package packageUses application).run set with
  | .ok _ next => .ok next
  | .error error _ => .error error

/-- Changes that come to those of an edit carry it out. -/
theorem findOrCreate_eq_apply (edit : TargetEdit) (packageUses : List String) (set : TargetSet)
    {changes : Target → Target}
    (h : ∀ target : Target, target.name = edit.name →
      changes target = edit.change packageUses target) :
    set.findOrCreate edit.name edit.feature changes = edit.apply packageUses set := by
  have named := set.name_getOrNew edit.name edit.feature
  rw [TargetEdit.apply, TargetSet.findOrCreate_eq, TargetSet.findOrCreate_eq, h _ named]

/-- Passing arguments on one by one comes to writing all that is passed on. -/
theorem foldl_passedOn (args : PatternArgs) (keys : List (String × String)) (target : Target) :
    (passedOn args keys).foldl (fun target (key, value) => target.setKwarg key value) target =
      keys.foldl (fun target (key, name) => target.passOn args key name) target := by
  induction keys generalizing target with
  | nil => rfl
  | cons entry keys ih =>
    obtain ⟨key, name⟩ := entry
    simp only [passedOn, List.filterMap_cons, List.foldl_cons, Target.passOn] at ih ⊢
    cases args.find? key with
    | none => exact ih target
    | some value => exact ih (target.setKwarg name value)

/-- Carrying out a pattern is all or nothing: whatever can fail comes before the first
target is touched, and what follows is the edit that the pattern stands for. -/
theorem run_run (converter : Converter) (package : String) (packageUses : List String)
    (application : Application) (set : TargetSet) :
    (converter.run package packageUses application).run set =
      match converter.edit package application with
      | .ok edit => .ok () (edit.apply packageUses set)
      | .error error => .error error set := by
  -- What the changes come to is shown for a target whose fields are known, so that it can
  -- be computed.
  cases converter with
  | library key feature orPackage =>
    simp only [run, edit, PatternStep.run_check_bind]
    cases libraryName package application key orPackage with
    | error error => rfl
    | ok name =>
      simp only [bind, Except.bind]
      cases requireName package application name with
      | error error => rfl
      | ok name =>
        refine congrArg (EStateM.Result.ok ()) ?_
        simp only [TargetSet.modify_findOrCreate]
        refine findOrCreate_eq_apply ⟨_, _, _, _, _⟩ packageUses set ?_
        rintro ⟨name, feature, sources, cxxFlags, cFlags, uses, kwargs⟩ rfl
        rfl
  | sharedLibrary =>
    simp only [run, edit, PatternStep.run_check_bind]
    cases PatternArgs.read package application with
    | error error => rfl
    | ok args =>
      simp only [bind, Except.bind]
      cases requireName package application ((args.find? "library").getD package) with
      | error error => rfl
      | ok name =>
        refine congrArg (EStateM.Result.ok ()) ?_
        simp only [TargetSet.modify_findOrCreate]
        refine findOrCreate_eq_apply ⟨_, _, _, _, _⟩ packageUses set ?_
        rintro ⟨name, feature, sources, cxxFlags, cFlags, uses, kwargs⟩ rfl
        rfl
  | trigconfApplication =>
    simp only [run, edit, PatternStep.run_check_bind]
    cases PatternArgs.read package application with
    | error error => rfl
    | ok args =>
      simp only [bind, Except.bind]
      cases requireName package application (args.value "name") with
      | error error => rfl
      | ok app =>
        refine congrArg (EStateM.Result.ok ()) ?_
        simp only [TargetSet.modify_findOrCreate]
        refine findOrCreate_eq_apply ⟨_, _, _, _, _⟩ packageUses set ?_
        rintro ⟨name, feature, sources, cxxFlags, cFlags, uses, kwargs⟩ rfl
        rfl
  | install part feature files =>
    cases files with
    | nil =>
      refine congrArg (EStateM.Result.ok ()) ?_
      exact findOrCreate_eq_apply ⟨_, _, _, _, _⟩ packageUses set fun _ _ => rfl
    | cons file files =>
      refine congrArg (EStateM.Result.ok ()) ?_
      simp only [TargetSet.modify_findOrCreate]
      refine findOrCreate_eq_apply ⟨_, _, _, _, _⟩ packageUses set ?_
      rintro ⟨name, feature, sources, cxxFlags, cFlags, uses, kwargs⟩ rfl
      rfl
  | genericInstall | jobTransforms | dictionary | unitTest | athenarunTest =>
    simp only [run, edit]
    cases PatternArgs.read package application with
    | error error => rfl
    | ok args =>
      refine congrArg (EStateM.Result.ok ()) ?_
      simp only [TargetSet.modify_findOrCreate]
      refine findOrCreate_eq_apply ⟨_, _, _, _, _⟩ packageUses set ?_
      rintro ⟨name, feature, sources, cxxFlags, cFlags, uses, kwargs⟩ rfl
      simp only [TargetEdit.change, foldl_passedOn]
      rfl

theorem apply_eq (converter : Converter) (package : String) (packageUses : List String)
    (application : Application) (set : TargetSet) :
    converter.apply package packageUses application set =
      (converter.edit package application).map fun edit => edit.apply packageUses set := by
  rw [apply, run_run]
  cases converter.edit package application <;> rfl

end Converter

end Requirements
