import Requirements.Proofs.Naming

/-!
# Applying a pattern again

A pattern says what its target is to be, and not what is to be added to it: sources, libraries
and named arguments are written over, and what it does not mention stays. So a pattern that has
been applied leaves nothing to do for a second application. `change_change` says so of one
target and `apply_apply` of the set, whatever was there before, and `run_again` of the steps
of every converter.
-/

namespace Requirements

/-- What is found after named arguments have been written one by one: the last one of the key, or
else what was there. -/
theorem KeyMap.find?_foldl_insert (entries : List (String × String)) (map : KeyMap (List String))
    (key : String) :
    (entries.foldl (fun map entry => map.insert entry.1 [entry.2]) map).find? key =
      ((entries.reverse.lookup key).map fun value => [value]).or (map.find? key) := by
  induction entries generalizing map with
  | nil => simp
  | cons entry entries ih =>
    obtain ⟨k, value⟩ := entry
    rw [List.foldl_cons, ih, KeyMap.find?_insert, List.reverse_cons, List.lookup_append]
    by_cases same : k = key
    · subst same
      cases entries.reverse.lookup k <;> simp
    · have other : (key == k) = false := by simpa using Ne.symm same
      cases entries.reverse.lookup key <;> simp [same, other, List.lookup_cons]

/-- Writing named arguments again changes nothing. -/
theorem KeyMap.foldl_insert_foldl_insert (entries : List (String × String))
    (map : KeyMap (List String)) :
    entries.foldl (fun map entry => map.insert entry.1 [entry.2])
        (entries.foldl (fun map entry => map.insert entry.1 [entry.2]) map) =
      entries.foldl (fun map entry => map.insert entry.1 [entry.2]) map := by
  refine KeyMap.ext_find? fun key => ?_
  rw [find?_foldl_insert, find?_foldl_insert]
  cases entries.reverse.lookup key <;> rfl

theorem UsesEdit.apply_apply (edit : UsesEdit) (packageUses old : List String) :
    edit.apply packageUses (edit.apply packageUses old) = edit.apply packageUses old := by
  cases edit with
  | attach => by_cases none : packageUses.isEmpty <;> simp [UsesEdit.apply, none]
  | keep | only | before => rfl

namespace TargetEdit

/-- An edit leaves a target as it has made it. -/
theorem change_change (edit : TargetEdit) (packageUses : List String) (target : Target) :
    edit.change packageUses (edit.change packageUses target) = edit.change packageUses target := by
  have sources (old : List String) :
      edit.sources.getD (edit.sources.getD old) = edit.sources.getD old := by
    cases edit.sources <;> rfl
  simp only [change_eq, sources, edit.uses.apply_apply, KeyMap.foldl_insert_foldl_insert]

/-- An edit writes the target that it names. -/
theorem apply_eq_insert (edit : TargetEdit) (packageUses : List String) (set : TargetSet) :
    edit.apply packageUses set =
      set.insert (edit.change packageUses (set.getOrNew edit.name edit.feature)) := by
  have renamed (target : Target) (named : target.name = edit.name) :
      { target with name := edit.name } = target := by rw [← named]
  rw [apply, TargetSet.findOrCreate_eq, renamed]
  rw [change_eq, TargetSet.name_getOrNew]

/-- An edit leaves the targets as it has made them. -/
theorem apply_apply (edit : TargetEdit) (packageUses : List String) (set : TargetSet) :
    edit.apply packageUses (edit.apply packageUses set) = edit.apply packageUses set := by
  have found : (edit.apply packageUses set).getOrNew edit.name edit.feature =
      edit.change packageUses (set.getOrNew edit.name edit.feature) := by
    have regained (target : Target) (same : target.feature = edit.feature) :
        { target with feature := edit.feature } = target := by rw [← same]
    rw [apply_eq_insert, TargetSet.getOrNew, TargetSet.get?_insert, if_pos]
    · exact regained _ (by rw [edit.feature_change, TargetSet.feature_getOrNew])
    · rw [change_eq, TargetSet.name_getOrNew]
  calc edit.apply packageUses (edit.apply packageUses set)
      = (edit.apply packageUses set).insert
          (edit.change packageUses (set.getOrNew edit.name edit.feature)) := by
        rw [apply_eq_insert, found, edit.change_change]
    _ = edit.apply packageUses set := by
        rw [edit.apply_eq_insert packageUses set]
        exact set.insert_insert rfl

end TargetEdit

namespace Converter

/-- A pattern that has been applied can be applied again, and nothing changes. -/
theorem run_again (converter : Converter) (package : String) (packageUses : List String)
    (application : Application) {set after : TargetSet}
    (h : (converter.run package packageUses application).run set = .ok () after) :
    (converter.run package packageUses application).run after = .ok () after := by
  rw [run_run] at h ⊢
  cases made : converter.edit package application with
  | error error =>
    rw [made] at h
    cases h
  | ok edit =>
    rw [made] at h
    obtain rfl : edit.apply packageUses set = after := by simpa using h
    simp only [edit.apply_apply]

/-- A dictionary is made of a library that is there, and made again. -/
theorem run_again_dictionary :
    let application : Application :=
      ⟨"lcgdict", [], ["dict=Foo", "selectionfile=sel.xml", "headerfiles=\"../Foo/A.h B.h\""]⟩
    let library : Target :=
      { name := "FooDict", feature := .atlasLibrary, sources := ["src/a.cxx"], uses := ["Bar"]
        kwargs := KeyMap.ofList [("selection_file", ["old"]), ("switches", ["-s"])] }
    let set := (TargetSet.empty.insert library).insert { name := "Baz", feature := .atlasLibrary }
    let made : Target :=
      { name := "FooDict", feature := .atlasDictionary, sources := ["Foo/A.h", "B.h"]
        uses := ["ROOT"]
        kwargs := KeyMap.ofList [("selection_file", ["Pkg/sel.xml"]), ("switches", ["-s"])] }
    Profile.atlasoff.converter? application.name = some .dictionary ∧
      ∃ after, (Converter.dictionary.run "Pkg" ["ROOT"] application).run set = .ok () after ∧
        after.get? "FooDict" = some made ∧
        (Converter.dictionary.run "Pkg" ["ROOT"] application).run after = .ok () after := by
  intro application library set made
  obtain ⟨after, ran⟩ : ∃ after,
      (Converter.dictionary.run "Pkg" ["ROOT"] application).run set = .ok () after := ⟨_, rfl⟩
  have written : (Converter.dictionary.apply "Pkg" ["ROOT"] application set).toOption.bind
      (·.get? "FooDict") = some made := by decide +kernel
  rw [Converter.apply, ran] at written
  exact ⟨by decide +kernel, after, ran, written,
    run_again .dictionary "Pkg" ["ROOT"] application ran⟩

end Converter

end Requirements
