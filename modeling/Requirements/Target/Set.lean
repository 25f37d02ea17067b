import Requirements.Target.Table

/-!
# Sets of targets

The targets of a package stand in the order in which they first appeared, and no
two have one name. Writing a target replaces the one of its name in place or, if
there is none, appends. A target's position is therefore a lasting handle to it.

A set is a table whose index agrees with its row. What the index has to say follows from
the row, so two sets are equal if their targets are, and the laws below speak of the
targets alone.
-/

namespace Requirements

/-- The targets of a package. -/
structure TargetSet where
  table : TargetTable
  consistent : table.Consistent
  deriving DecidableEq

namespace TargetSet

/-- The targets, in order. -/
def toList (set : TargetSet) : List Target := set.table.targets

/-- No two targets have one name. -/
theorem distinct (set : TargetSet) : (set.toList.map Target.name).Nodup :=
  set.consistent.nodup_names

/-- Sets with the same targets have the same index. -/
@[ext]
theorem ext {first second : TargetSet} (h : first.toList = second.toList) : first = second := by
  obtain ⟨⟨targets, positions⟩, consistent⟩ := first
  obtain ⟨⟨targets', positions'⟩, consistent'⟩ := second
  obtain rfl : targets = targets' := h
  have same : positions = positions' :=
    KeyMap.ext_find? fun name => Option.ext fun position =>
      consistent.find?_eq_some_iff.trans consistent'.find?_eq_some_iff.symm
  subst same
  rfl

/-- The set without targets. -/
def empty : TargetSet := ⟨.empty, .empty⟩

instance : Inhabited TargetSet := ⟨empty⟩

/-- Write a target into a list, in the place of the one of its name or at the end. -/
def put (target : Target) : List Target → List Target
  | [] => [target]
  | first :: rest =>
    if first.name = target.name then target :: rest else first :: put target rest

/-- Writing a target adds at most its own name, at the end. -/
theorem map_name_put (target : Target) (targets : List Target) :
    (put target targets).map Target.name =
      if target.name ∈ targets.map Target.name then targets.map Target.name
      else targets.map Target.name ++ [target.name] := by
  induction targets with
  | nil => simp [put]
  | cons first rest ih =>
    by_cases h : first.name = target.name
    · simp [put, h]
    · have hne : ¬ target.name = first.name := fun heq => h heq.symm
      simp only [put, h, if_false, List.map_cons, ih, List.mem_cons, hne, false_or]
      split <;> simp

/-- The set with a target in it. -/
def insert (set : TargetSet) (target : Target) : TargetSet :=
  ⟨(set.table.insert target).2, set.consistent.insert target⟩

/-- The names of the targets, in order. -/
def names (set : TargetSet) : List String := set.toList.map Target.name

/-- The number of targets. -/
def size (set : TargetSet) : Nat := set.toList.length

/-- The position of a target. -/
def find? (set : TargetSet) (name : String) : Option Nat := set.table.find? name

/-- The target at a position. -/
def at? (set : TargetSet) (position : Nat) : Option Target := set.toList[position]?

/-- The target of a name. -/
def get? (set : TargetSet) (name : String) : Option Target := set.table.get? name

/-- Change the target of a name, which it keeps. A name that is not there is left. -/
def modify (set : TargetSet) (name : String) (change : Target → Target) : TargetSet :=
  match set.find? name with
  | none => set
  | some position =>
    ⟨set.table.changeAt position change, set.consistent.changeAt position change⟩

/-- The target of a name, or a new one, with the given feature. -/
def getOrNew (set : TargetSet) (name : String) (feature : Feature) : Target :=
  match set.get? name with
  | none => { name, feature }
  | some target => { target with feature }

/-- Find the target of a name or create it, give it a feature, and change it. It
keeps its name. -/
def findOrCreate (set : TargetSet) (name : String) (feature : Feature)
    (change : Target → Target := id) : TargetSet :=
  let found := set.table.findOrCreate name feature
  ⟨found.2.changeAt found.1 change,
    (set.consistent.findOrCreate name feature).changeAt found.1 change⟩

/-- The same targets with each one changed. They keep their names. -/
def map (set : TargetSet) (change : Target → Target) : TargetSet :=
  ⟨set.table.map change, set.consistent.map change⟩

theorem find?_eq_some_iff {set : TargetSet} {name : String} {position : Nat} :
    set.find? name = some position ↔
      ∃ target, set.at? position = some target ∧ target.name = name :=
  set.consistent.find?_eq_some_iff

theorem find?_eq_none_iff {set : TargetSet} {name : String} :
    set.find? name = none ↔ name ∉ set.names :=
  set.consistent.find?_eq_none_iff

theorem put_of_not_mem {target : Target} {targets : List Target}
    (h : target.name ∉ targets.map Target.name) : put target targets = targets ++ [target] := by
  induction targets with
  | nil => rfl
  | cons first rest ih =>
    rw [List.map_cons, List.mem_cons, not_or] at h
    rw [put, if_neg fun same => h.1 same.symm, ih h.2, List.cons_append]

theorem put_of_getElem? {target old : Target} {targets : List Target} {position : Nat}
    (distinct : (targets.map Target.name).Nodup) (there : targets[position]? = some old)
    (named : old.name = target.name) : put target targets = targets.set position target := by
  induction targets generalizing position with
  | nil => cases there
  | cons first rest ih =>
    obtain ⟨fresh, distinct⟩ := List.nodup_cons.1 distinct
    cases position with
    | zero =>
      obtain rfl := Option.some.inj there
      rw [put, if_pos named, List.set_cons_zero]
    | succ position =>
      have later : first.name ≠ target.name := fun same =>
        fresh (same.trans named.symm ▸ List.mem_map_of_mem (List.mem_of_getElem? there))
      rw [put, if_neg later, ih distinct there, List.set_cons_succ]

theorem table_insert (set : TargetSet) (target : Target) :
    (set.insert target).table = (set.table.insert target).2 := rfl

/-- Writing looks the name up in the index and puts the target into the list. -/
theorem toList_insert (set : TargetSet) (target : Target) :
    (set.insert target).toList = put target set.toList := by
  cases found : set.find? target.name with
  | none =>
    rw [put_of_not_mem (find?_eq_none_iff.1 found), toList, table_insert,
      TargetTable.insert_of_not_find? found]
    rfl
  | some position =>
    obtain ⟨old, there, named⟩ := find?_eq_some_iff.1 found
    rw [put_of_getElem? set.distinct there named, toList, table_insert,
      TargetTable.insert_of_find? found]
    rfl

/-- The index finds what a search of the list finds. -/
theorem get?_eq (set : TargetSet) (name : String) :
    set.get? name = set.toList.find? (·.name == name) := by
  cases searched : set.toList.find? (·.name == name) with
  | none =>
    have missing : set.find? name = none := by
      refine find?_eq_none_iff.2 fun present => ?_
      obtain ⟨target, member, same⟩ := List.mem_map.1 present
      simpa [same] using List.find?_eq_none.1 searched target member
    exact congrArg (Option.bind · set.table.at?) missing
  | some target =>
    have same : target.name = name := by simpa using List.find?_some searched
    obtain ⟨position, there⟩ := List.mem_iff_getElem?.1 (List.mem_of_find?_eq_some searched)
    have found : set.find? name = some position := find?_eq_some_iff.2 ⟨target, there, same⟩
    exact (TargetTable.get?_eq found).trans there

@[simp] theorem names_insert (set : TargetSet) (target : Target) :
    (set.insert target).names =
      if target.name ∈ set.names then set.names else set.names ++ [target.name] := by
  rw [names, toList_insert]
  exact map_name_put target set.toList

theorem toList_map (set : TargetSet) (change : Target → Target) :
    (set.map change).toList =
      set.toList.map fun target => { change target with name := target.name } := rfl

theorem nodup_names (set : TargetSet) : set.names.Nodup := set.distinct

@[simp] theorem names_map (set : TargetSet) (change : Target → Target) :
    (set.map change).names = set.names := by
  simp [names, toList_map]

theorem find?_put (target : Target) (targets : List Target) (name : String) :
    (put target targets).find? (·.name == name) =
      if target.name = name then some target else targets.find? (·.name == name) := by
  induction targets with
  | nil => by_cases h : target.name = name <;> simp [put, h]
  | cons first rest ih =>
    by_cases hf : first.name = target.name
    · by_cases h : target.name = name
      · simp [put, hf, h]
      · simp [put, hf, h]
    · by_cases h : target.name = name
      · subst h
        simp [put, hf, ih]
      · by_cases hn : first.name = name
        · subst hn
          simp [put, h, Ne.symm h]
        · simp [put, hf, hn, ih, h]

/-- What was written is found under its name, and nothing else changes. -/
@[simp] theorem get?_insert (set : TargetSet) (target : Target) (name : String) :
    (set.insert target).get? name =
      if target.name = name then some target else set.get? name := by
  rw [get?_eq, get?_eq, toList_insert]
  exact find?_put target set.toList name

theorem put_put (old new : Target) (h : old.name = new.name) (targets : List Target) :
    put new (put old targets) = put new targets := by
  induction targets with
  | nil => simp [put, h]
  | cons first rest ih =>
    by_cases hf : first.name = old.name
    · simp [put, hf, h]
    · have hn : ¬ first.name = new.name := fun heq => hf (heq.trans h.symm)
      simp [put, hf, hn, ih]

/-- A target that is found has the name under which it was sought. -/
theorem name_of_get? {set : TargetSet} {name : String} {target : Target}
    (h : set.get? name = some target) : target.name = name := by
  rw [get?_eq] at h
  simpa using List.find?_some h

theorem get?_eq_none_iff {set : TargetSet} {name : String} :
    set.get? name = none ↔ name ∉ set.names := by
  simp [get?_eq, names]

theorem get?_of_mem_names {set : TargetSet} {name : String} (h : name ∈ set.names) :
    ∃ target, set.get? name = some target := by
  cases found : set.get? name with
  | none => exact absurd h (get?_eq_none_iff.1 found)
  | some target => exact ⟨target, rfl⟩

theorem mem_of_get? {set : TargetSet} {name : String} {target : Target}
    (h : set.get? name = some target) : target ∈ set.toList :=
  List.mem_of_find?_eq_some (get?_eq set name ▸ h)

/-- Every target is the one of its name. -/
theorem get?_of_mem {set : TargetSet} {target : Target} (h : target ∈ set.toList) :
    set.get? target.name = some target := by
  obtain ⟨position, there⟩ := List.mem_iff_getElem?.1 h
  have found : set.find? target.name = some position := find?_eq_some_iff.2 ⟨target, there, rfl⟩
  exact (TargetTable.get?_eq found).trans there

/-- A change of a target writes it. -/
theorem modify_eq (set : TargetSet) (name : String) (change : Target → Target) :
    set.modify name change =
      match set.get? name with
      | none => set
      | some target => set.insert { change target with name := target.name } := by
  cases found : set.find? name with
  | none =>
    have missing : set.get? name = none := congrArg (Option.bind · set.table.at?) found
    rw [modify, found, missing]
  | some position =>
    obtain ⟨target, there, named⟩ := find?_eq_some_iff.1 found
    have got : set.get? name = some target := (TargetTable.get?_eq found).trans there
    rw [modify, found, got]
    apply TargetSet.ext
    have written : set.table.insert { change target with name := target.name } = _ :=
      TargetTable.insert_of_find? (named ▸ found)
    show (set.table.changeAt position change).targets = (set.table.insert _).2.targets
    rw [TargetTable.changeAt_eq there, written]

/-- A change keeps the names. -/
@[simp] theorem names_modify (set : TargetSet) (name : String) (change : Target → Target) :
    (set.modify name change).names = set.names := by
  rw [modify_eq]
  cases found : set.get? name with
  | none => rfl
  | some target =>
    have present : target.name ∈ set.names := List.mem_map_of_mem (mem_of_get? found)
    simp [present]

theorem get?_modify (set : TargetSet) (name other : String) (change : Target → Target) :
    (set.modify name change).get? other =
      if name = other then
        (set.get? name).map fun target => { change target with name := target.name }
      else set.get? other := by
  rw [modify_eq]
  cases found : set.get? name with
  | none =>
    by_cases h : name = other
    · subst h
      simp [found]
    · simp [h]
  | some target => simp [name_of_get? found]

theorem get?_map (set : TargetSet) (change : Target → Target) (name : String) :
    (set.map change).get? name =
      (set.get? name).map fun target => { change target with name := target.name } := by
  rw [get?_eq, get?_eq, toList_map, List.find?_map]
  rfl

theorem map_put {change : Target → Target} (h : ∀ target, (change target).name = target.name)
    (target : Target) (targets : List Target) :
    (put target targets).map change = put (change target) (targets.map change) := by
  induction targets with
  | nil => rfl
  | cons first rest ih =>
    by_cases found : first.name = target.name <;> simp [put, h, found, ih]

/-- A target may be changed before or after it is written. -/
theorem map_insert (set : TargetSet) (change : Target → Target) (target : Target) :
    (set.insert target).map change =
      (set.map change).insert { change target with name := target.name } := by
  apply TargetSet.ext
  have named (target : Target) : { change target with name := target.name : Target }.name =
      target.name := rfl
  rw [toList_map, toList_insert, toList_insert, toList_map]
  exact map_put named target set.toList

/-- The last of two targets of one name counts. -/
theorem insert_insert (set : TargetSet) {old new : Target} (h : old.name = new.name) :
    (set.insert old).insert new = set.insert new := by
  apply TargetSet.ext
  rw [toList_insert, toList_insert, toList_insert, put_put old new h]

@[simp] theorem name_getOrNew (set : TargetSet) (name : String) (feature : Feature) :
    (set.getOrNew name feature).name = name := by
  cases found : set.get? name with
  | none => simp [getOrNew, found]
  | some target => simpa [getOrNew, found] using name_of_get? found

@[simp] theorem feature_getOrNew (set : TargetSet) (name : String) (feature : Feature) :
    (set.getOrNew name feature).feature = feature := by
  rw [getOrNew]
  split <;> rfl

/-- To find or create a target and change it comes to writing it. -/
theorem findOrCreate_eq (set : TargetSet) (name : String) (feature : Feature)
    (change : Target → Target) :
    set.findOrCreate name feature change =
      set.insert { change (set.getOrNew name feature) with name } := by
  have written : set.table.findOrCreate name feature =
      set.table.insert (set.getOrNew name feature) := by
    cases found : set.find? name with
    | none =>
      have missing : set.get? name = none := congrArg (Option.bind · set.table.at?) found
      have added : set.table.insert { name, feature } = _ := TargetTable.insert_of_not_find? found
      rw [TargetTable.findOrCreate_of_not_find? found, getOrNew, missing, added]
    | some position =>
      obtain ⟨target, there, rfl⟩ := find?_eq_some_iff.1 found
      have got : set.get? target.name = some target := (TargetTable.get?_eq found).trans there
      have kept : set.table.insert { target with feature } = _ := TargetTable.insert_of_find? found
      rw [TargetTable.findOrCreate_of_find? found there, getOrNew, got, kept]
  have changed := set.consistent.changeAt_insert (set.getOrNew name feature) change
  rw [← written, name_getOrNew] at changed
  ext : 1
  rw [toList, toList, table_insert, ← changed]
  rfl

/-- A target that has been found or created can be changed later as well as at once. -/
theorem modify_findOrCreate (set : TargetSet) (name : String) (feature : Feature)
    (first second : Target → Target) :
    (set.findOrCreate name feature first).modify name second =
      set.findOrCreate name feature fun target => second { first target with name } := by
  simp only [findOrCreate_eq, modify_eq, get?_insert, if_true]
  exact insert_insert set rfl

end TargetSet

end Requirements
