import Requirements.Pattern.Step
import Requirements.Profile

/-!
# What a pattern may touch

A pattern edits the target of one name and leaves every other target where and as it is.
`TouchesOnly` says what that means for the positions of targets. `run_frame` proves it of
every converter: one that fails has not touched anything, and the name of the target
that one edits follows from the application and the name of the package, whatever the
targets and the libraries are. Which converter a pattern has does not depend on the
profile that knows it either.
-/

namespace Requirements

namespace TargetSet

/-- Nothing but the target of a name has been touched, and that one is there. -/
structure TouchesOnly (name : String) (before after : TargetSet) : Prop where
  present : name ∈ after.names
  /-- A target that was there keeps its position. -/
  kept : ∀ position, before.find? name = some position →
    after.find? name = some position ∧ after.size = before.size
  /-- One that was missing is the last. -/
  appended : before.find? name = none →
    after.find? name = some before.size ∧ after.size = before.size + 1
  others : ∀ position target, target.name ≠ name →
    (after.at? position = some target ↔ before.at? position = some target)

theorem find?_eq_names (set : TargetSet) (name : String) :
    set.find? name = set.names.findIdx? (· == name) := by
  cases searched : set.names.findIdx? (· == name) with
  | none =>
    refine find?_eq_none_iff.2 fun present => ?_
    simpa using List.findIdx?_eq_none_iff.1 searched name present
  | some position =>
    obtain ⟨inside, same, -⟩ := List.findIdx?_eq_some_iff_getElem.1 searched
    have there : set.names[position]? = some name :=
      List.getElem?_eq_some_iff.2 ⟨inside, eq_of_beq same⟩
    rw [names, List.getElem?_map, Option.map_eq_some_iff] at there
    exact find?_eq_some_iff.2 there

theorem size_eq_names (set : TargetSet) : set.size = set.names.length := by
  rw [size, names, List.length_map]

/-- Writing a target changes no position of another one. -/
theorem getElem?_put_of_ne {written target : Target} (h : target.name ≠ written.name)
    (targets : List Target) (position : Nat) :
    (put written targets)[position]? = some target ↔ targets[position]? = some target := by
  have other : written ≠ target := fun same => h (congrArg Target.name same.symm)
  induction targets generalizing position with
  | nil =>
    cases position with
    | zero => simp [put, other]
    | succ position => simp [put]
  | cons first rest ih =>
    by_cases found : first.name = written.name
    · have different : first ≠ target := fun same => h (same ▸ found)
      cases position with
      | zero => simp [put, found, other, different]
      | succ position => simp [put, found]
    · cases position with
      | zero => simp [put, found]
      | succ position => simpa [put, found] using ih position

theorem touchesOnly_insert (set : TargetSet) (target : Target) :
    set.TouchesOnly target.name (set.insert target) := by
  have names := set.names_insert target
  refine ⟨?_, fun position found => ?_, fun missing => ?_, fun position other different => ?_⟩
  · rw [names]
    split
    · assumption
    · simp
  · have there : target.name ∈ set.names := Decidable.byContradiction fun missing => by
      rw [find?_eq_none_iff.2 missing] at found
      cases found
    rw [if_pos there] at names
    rw [find?_eq_names, size_eq_names, names, ← find?_eq_names, ← size_eq_names]
    exact ⟨found, rfl⟩
  · have absent := find?_eq_none_iff.1 missing
    rw [if_neg absent] at names
    rw [find?_eq_names] at missing
    rw [find?_eq_names, size_eq_names, size_eq_names, names, List.findIdx?_append, missing]
    simp
  · rw [at?, at?, toList_insert]
    exact getElem?_put_of_ne different set.toList position

end TargetSet

/-- A step touches the target of a name and no other, and nothing at all if it fails. -/
def PatternStep.TouchesOnly (name : String) (step : PatternStep Unit) : Prop :=
  ∀ set : TargetSet, match step.run set with
    | .ok _ after => set.TouchesOnly name after
    | .error _ after => after = set

/-- A computation that succeeds has succeeded at its first step. -/
theorem exists_of_bind_eq_ok {ε α β : Type} {first : Except ε α} {next : α → Except ε β}
    {result : β} (h : first >>= next = .ok result) :
    ∃ value, first = .ok value ∧ next value = .ok result := by
  cases first with
  | error error => cases h
  | ok value => exact ⟨value, rfl, h⟩

namespace TargetEdit

/-- An edit touches the target that it names. -/
theorem touchesOnly_apply (edit : TargetEdit) (packageUses : List String) (set : TargetSet) :
    set.TouchesOnly edit.name (edit.apply packageUses set) := by
  rw [apply, TargetSet.findOrCreate_eq]
  exact set.touchesOnly_insert { edit.change packageUses (set.getOrNew edit.name edit.feature)
    with name := edit.name }

end TargetEdit

namespace Converter

variable {package : String} {application : Application}

theorem ne_empty_of_requireName {name required : String}
    (h : requireName package application name = .ok required) : required ≠ "" := by
  unfold requireName at h
  split at h
  · cases h
  · rename_i filled
    obtain rfl := Except.ok.inj h
    simpa using filled

/-- No pattern makes a target without a name. -/
theorem name_ne_empty {converter : Converter} {edit : TargetEdit}
    (h : converter.edit package application = .ok edit) : edit.name ≠ "" := by
  cases converter with
  | library key feature orPackage =>
    obtain ⟨name, -, h⟩ := exists_of_bind_eq_ok h
    obtain ⟨required, filled, h⟩ := exists_of_bind_eq_ok h
    obtain rfl := Except.ok.inj h
    exact ne_empty_of_requireName filled
  | sharedLibrary =>
    obtain ⟨args, -, h⟩ := exists_of_bind_eq_ok h
    obtain ⟨required, filled, h⟩ := exists_of_bind_eq_ok h
    obtain rfl := Except.ok.inj h
    exact ne_empty_of_requireName filled
  | trigconfApplication =>
    obtain ⟨args, -, h⟩ := exists_of_bind_eq_ok h
    obtain ⟨app, -, h⟩ := exists_of_bind_eq_ok h
    obtain rfl := Except.ok.inj h
    simp
  | install part feature files =>
    obtain rfl := Except.ok.inj h
    simp [packageTarget]
  | genericInstall | jobTransforms | dictionary | unitTest | athenarunTest =>
    obtain ⟨args, -, h⟩ := exists_of_bind_eq_ok h
    obtain rfl := Except.ok.inj h
    simp [genericName, packageTarget]

/-- Carrying out a pattern touches the target that its edit names. If the edit cannot be
made, nothing is touched, and any name will do. -/
theorem exists_touchesOnly_run (converter : Converter) (package : String)
    (application : Application) :
    ∃ name, name ≠ "" ∧ ∀ packageUses,
      (converter.run package packageUses application).TouchesOnly name := by
  cases made : converter.edit package application with
  | ok edit =>
    refine ⟨edit.name, name_ne_empty made, fun packageUses set => ?_⟩
    rw [run_run, made]
    exact edit.touchesOnly_apply packageUses set
  | error error =>
    refine ⟨"none", by decide, fun packageUses set => ?_⟩
    rw [run_run, made]

end Converter

namespace Profile

/-- The offline and the online software have no pattern in common. -/
theorem ne_of_mem_converters :
    ∀ offline ∈ atlasoff.converters, ∀ online ∈ tdaq.converters, offline.1 ≠ online.1 := by
  decide

theorem mem_of_converter? {profile : Profile} {pattern : String} {converter : Converter}
    (h : profile.converter? pattern = some converter) :
    (pattern, converter) ∈ profile.converters := by
  obtain ⟨before, after, split, -⟩ := List.lookup_eq_some_iff.1 h
  rw [split]
  simp

/-- A pattern means the same in every profile that knows it. -/
theorem converter_unique {first second : Profile} (mem₁ : first ∈ all) (mem₂ : second ∈ all)
    {pattern : String} {a b : Converter} (ha : first.converter? pattern = some a)
    (hb : second.converter? pattern = some b) : a = b := by
  simp only [all, List.mem_cons, List.not_mem_nil, or_false] at mem₁ mem₂
  rcases mem₁ with rfl | rfl <;> rcases mem₂ with rfl | rfl
  · exact Option.some.inj (ha.symm.trans hb)
  · exact (ne_of_mem_converters _ (mem_of_converter? ha) _ (mem_of_converter? hb) rfl).elim
  · exact (ne_of_mem_converters _ (mem_of_converter? hb) _ (mem_of_converter? ha) rfl).elim
  · exact Option.some.inj (ha.symm.trans hb)

/-- Whatever a converter does, it does to one target. The name of this target is not empty
and follows from the application and the name of the package; the libraries of the package
and the targets that are already there have no part in it, nor has the profile that knows
the pattern. A converter that fails has done nothing. -/
theorem run_frame (package : String) (application : Application) :
    (∀ converter : Converter, ∃ name, name ≠ "" ∧ ∀ packageUses,
      (converter.run package packageUses application).TouchesOnly name) ∧
    ∃ name, name ≠ "" ∧ ∀ profile ∈ all, ∀ converter,
      profile.converter? application.name = some converter → ∀ packageUses,
        (converter.run package packageUses application).TouchesOnly name := by
  have alone (converter : Converter) := converter.exists_touchesOnly_run package application
  refine ⟨alone, ?_⟩
  by_cases known : ∃ profile ∈ all, ∃ converter,
      profile.converter? application.name = some converter
  · obtain ⟨profile, member, converter, found⟩ := known
    obtain ⟨name, filled, touches⟩ := alone converter
    refine ⟨name, filled, fun other member' converter' found' => ?_⟩
    obtain rfl := converter_unique member member' found found'
    exact touches
  · refine ⟨"none", by decide, fun profile member converter found => ?_⟩
    exact absurd ⟨profile, member, converter, found⟩ known

/-- A library that is there is edited in its place. -/
theorem run_frame_library :
    let converter : Converter := .library "library" .atlasLibrary false
    let application : Application := ⟨"installed_library", [], ["library=Foo"]⟩
    let foo : Target := { name := "Foo", feature := .atlasComponent }
    let set := (TargetSet.empty.insert foo).insert { name := "Bar", feature := .atlasApplication }
    atlasoff ∈ all ∧ atlasoff.converter? application.name = some converter ∧
      ∃ after, (converter.run "Pkg" ["Baz"] application).run set = .ok () after ∧
        after.find? "Foo" = some 0 ∧ set.TouchesOnly "Foo" after := by
  intro converter application foo set
  have known : atlasoff.converter? application.name = some converter := by decide +kernel
  have member : atlasoff ∈ all := by simp [all]
  obtain ⟨-, name, -, frame⟩ := run_frame "Pkg" application
  have touched := frame atlasoff member converter known ["Baz"]
  obtain rfl : name = "Foo" := by
    have present := (touched .empty).present
    exact List.mem_singleton.1 present
  exact ⟨member, known, _, rfl, by decide +kernel, touched set⟩

end Profile

end Requirements
