import Requirements.Target.Basic

/-!
# Tables of targets

A table holds targets in a row and beside it an index, which gives the position of each
name. A target is written over the one of its name or, if the index has none, added at the
end. A position that has been found or written to is a handle: targets are changed through
it without another look at the index.

Nothing ties the index to the row but the operations. `Consistent` says what they keep: the
index leads to targets of the right names, and to all of them.
-/

namespace Requirements

/-- Targets in a row, and the positions of their names. -/
structure TargetTable where
  targets : List Target := []
  positions : KeyMap Nat := .empty
  deriving DecidableEq

namespace TargetTable

/-- The table without targets. -/
def empty : TargetTable := {}

instance : Inhabited TargetTable := ⟨empty⟩

/-- The number of targets. -/
def size (table : TargetTable) : Nat := table.targets.length

/-- The names of the targets, in order. -/
def names (table : TargetTable) : List String := table.targets.map Target.name

/-- The position that the index gives for a name. -/
def find? (table : TargetTable) (name : String) : Option Nat := table.positions.find? name

/-- The target at a position. -/
def at? (table : TargetTable) (position : Nat) : Option Target := table.targets[position]?

/-- The target at the position of a name. -/
def get? (table : TargetTable) (name : String) : Option Target :=
  (table.find? name).bind table.at?

/-- Write over the target at a position. -/
def replace (table : TargetTable) (position : Nat) (target : Target) : TargetTable :=
  { table with targets := table.targets.set position target }

/-- Add a target at the end. -/
def push (table : TargetTable) (target : Target) : TargetTable where
  targets := table.targets ++ [target]
  positions := table.positions.insert target.name table.size

/-- Write a target over the one of its name or, if there is none, at the end. The first part
of the result is where it stands. -/
def insert (table : TargetTable) (target : Target) : Nat × TargetTable :=
  match table.find? target.name with
  | some position => (position, table.replace position target)
  | none => (table.size, table.push target)

/-- Change the target at a position, which keeps its name. -/
def changeAt (table : TargetTable) (position : Nat) (change : Target → Target) : TargetTable :=
  match table.at? position with
  | none => table
  | some target => table.replace position { change target with name := target.name }

/-- Find the target of a name or add a new one, and give it a feature. The first part of the
result is where it stands. -/
def findOrCreate (table : TargetTable) (name : String) (feature : Feature) :
    Nat × TargetTable :=
  let (position, table) :=
    match table.find? name with
    | some position => (position, table)
    | none => table.insert { name, feature }
  (position, table.changeAt position fun target => { target with feature })

/-- The same table with each target changed. They keep their names. -/
def map (table : TargetTable) (change : Target → Target) : TargetTable :=
  { table with
    targets := table.targets.map fun target => { change target with name := target.name } }

/-- The index and the row agree. -/
structure Consistent (table : TargetTable) : Prop where
  /-- The index leads to a target of the name that was sought. -/
  found : ∀ {name position}, table.find? name = some position →
    ∃ target, table.at? position = some target ∧ target.name = name
  /-- Every target stands where the index says. -/
  indexed : ∀ {position target}, table.at? position = some target →
    table.find? target.name = some position

theorem size_replace (table : TargetTable) (position : Nat) (target : Target) :
    (table.replace position target).size = table.size := List.length_set

theorem at?_replace_of_ne {position other : Nat} (h : position ≠ other) (table : TargetTable)
    (target : Target) : (table.replace position target).at? other = table.at? other :=
  List.getElem?_set_ne h

theorem lt_size_of_at? {table : TargetTable} {position : Nat} {target : Target}
    (h : table.at? position = some target) : position < table.size :=
  (List.getElem?_eq_some_iff.1 h).1

theorem at?_replace_self {table : TargetTable} {position : Nat} {old : Target}
    (h : table.at? position = some old) (target : Target) :
    (table.replace position target).at? position = some target :=
  List.getElem?_set_self (lt_size_of_at? h)

theorem size_push (table : TargetTable) (target : Target) :
    (table.push target).size = table.size + 1 := List.length_append

theorem at?_push_self (table : TargetTable) (target : Target) :
    (table.push target).at? table.size = some target := List.getElem?_concat_length

theorem at?_push_of_lt {table : TargetTable} {position : Nat} (h : position < table.size)
    (target : Target) : (table.push target).at? position = table.at? position :=
  List.getElem?_append_left h

theorem find?_push (table : TargetTable) (target : Target) (name : String) :
    (table.push target).find? name =
      if target.name = name then some table.size else table.find? name :=
  KeyMap.find?_insert table.positions target.name name table.size

/-- What the end of a table holds after a target has been added. -/
theorem at?_push_eq_some_iff {table : TargetTable} {added target : Target} {position : Nat} :
    (table.push added).at? position = some target ↔
      table.at? position = some target ∨ position = table.size ∧ added = target := by
  rcases Nat.lt_trichotomy position table.size with inside | rfl | beyond
  · rw [at?_push_of_lt inside]
    constructor
    · exact .inl
    · rintro (there | ⟨rfl, -⟩)
      · exact there
      · exact absurd inside (Nat.lt_irrefl _)
  · have missing : table.at? table.size = none := List.getElem?_eq_none (Nat.le_refl _)
    simp [at?_push_self, missing]
  · have missing : table.at? position = none := List.getElem?_eq_none (Nat.le_of_lt beyond)
    have missing' : (table.push added).at? position = none := by
      refine List.getElem?_eq_none ?_
      rw [← size, size_push]
      exact beyond
    simp [missing, missing', Nat.ne_of_gt beyond]

theorem changeAt_eq {table : TargetTable} {position : Nat} {target : Target}
    (h : table.at? position = some target) (change : Target → Target) :
    table.changeAt position change =
      table.replace position { change target with name := target.name } := by
  rw [changeAt, h]

theorem insert_of_find? {table : TargetTable} {target : Target} {position : Nat}
    (h : table.find? target.name = some position) :
    table.insert target = (position, table.replace position target) := by
  rw [insert, h]

theorem insert_of_not_find? {table : TargetTable} {target : Target}
    (h : table.find? target.name = none) :
    table.insert target = (table.size, table.push target) := by
  rw [insert, h]

theorem get?_eq {table : TargetTable} {name : String} {position : Nat}
    (h : table.find? name = some position) : table.get? name = table.at? position := by
  rw [get?, h, Option.bind_some]

theorem replace_replace (table : TargetTable) (position : Nat) (old new : Target) :
    (table.replace position old).replace position new = table.replace position new :=
  congrArg (TargetTable.mk · table.positions) (List.set_set old)

/-- The target that has just been added is changed as if it had been added so. -/
theorem replace_push (table : TargetTable) {old new : Target} (h : new.name = old.name) :
    (table.push old).replace table.size new = table.push new := by
  have row : (table.targets ++ [old]).set table.size new = table.targets ++ [new] := by
    rw [List.set_append_right table.size new (Nat.le_refl _), size, Nat.sub_self]
    rfl
  rw [replace, push, push, h]
  exact congrArg (TargetTable.mk · _) row

theorem findOrCreate_of_find? {table : TargetTable} {name : String} {position : Nat}
    {target : Target} (h : table.find? name = some position)
    (there : table.at? position = some target) (feature : Feature) :
    table.findOrCreate name feature = (position, table.replace position { target with feature }) := by
  rw [findOrCreate, h]
  simp only [changeAt_eq there]

theorem findOrCreate_of_not_find? {table : TargetTable} {name : String}
    (h : table.find? name = none) (feature : Feature) :
    table.findOrCreate name feature = (table.size, table.push { name, feature }) := by
  have added : table.insert { name, feature } = (table.size, table.push { name, feature }) :=
    insert_of_not_find? h
  rw [findOrCreate, h]
  simp only [added, changeAt_eq (at?_push_self table { name, feature })]
  rw [replace_push table rfl]

namespace Consistent

variable {table : TargetTable}

theorem empty : TargetTable.empty.Consistent := ⟨nofun, nofun⟩

/-- A position is that of a name exactly when a target of this name stands there. -/
theorem find?_eq_some_iff (h : table.Consistent) {name : String} {position : Nat} :
    table.find? name = some position ↔
      ∃ target, table.at? position = some target ∧ target.name = name := by
  constructor
  · exact h.found
  · rintro ⟨target, there, rfl⟩
    exact h.indexed there

theorem find?_eq_none_iff (h : table.Consistent) {name : String} :
    table.find? name = none ↔ name ∉ table.names := by
  constructor
  · rintro missing member
    obtain ⟨target, there, rfl⟩ := List.mem_map.1 member
    obtain ⟨position, there⟩ := List.mem_iff_getElem?.1 there
    rw [h.indexed there] at missing
    cases missing
  · intro absent
    cases found : table.find? name with
    | none => rfl
    | some position =>
      obtain ⟨target, there, rfl⟩ := h.found found
      exact absurd (List.mem_map_of_mem (List.mem_of_getElem? there)) absent

/-- No two targets have one name: the index would lead to one of them only. -/
theorem nodup_names (h : table.Consistent) : table.names.Nodup := by
  rw [names, List.Nodup, List.pairwise_map, List.pairwise_iff_getElem]
  intro first second inside inside' lt same
  have here := h.indexed (List.getElem?_eq_getElem inside)
  have there := h.indexed (List.getElem?_eq_getElem inside')
  rw [same, there] at here
  exact absurd (Option.some.inj here) (Nat.ne_of_gt lt)

theorem replace (h : table.Consistent) {position : Nat} {old target : Target}
    (there : table.at? position = some old) (named : target.name = old.name) :
    (table.replace position target).Consistent := by
  have index (name : String) : (table.replace position target).find? name = table.find? name := rfl
  refine ⟨fun {name other} found => ?_, fun {other kept} place => ?_⟩
  · rw [index] at found
    obtain ⟨kept, place, rfl⟩ := h.found found
    by_cases same : position = other
    · subst same
      obtain rfl := Option.some.inj (there.symm.trans place)
      exact ⟨target, at?_replace_self there target, named⟩
    · exact ⟨kept, (at?_replace_of_ne same table target).trans place, rfl⟩
  · rw [index]
    by_cases same : position = other
    · subst same
      obtain rfl := Option.some.inj ((at?_replace_self there target).symm.trans place)
      rw [named]
      exact h.indexed there
    · rw [at?_replace_of_ne same] at place
      exact h.indexed place

theorem push (h : table.Consistent) {target : Target} (missing : table.find? target.name = none) :
    (table.push target).Consistent := by
  refine ⟨fun {name position} found => ?_, fun {position kept} place => ?_⟩
  · rw [find?_push] at found
    split at found
    · rename_i same
      obtain rfl := Option.some.inj found
      exact ⟨target, at?_push_self table target, same⟩
    · obtain ⟨kept, place, named⟩ := h.found found
      exact ⟨kept, at?_push_eq_some_iff.2 (.inl place), named⟩
  · rw [find?_push]
    rcases at?_push_eq_some_iff.1 place with old | ⟨rfl, rfl⟩
    · have indexed := h.indexed old
      rw [if_neg, indexed]
      intro same
      rw [same, indexed] at missing
      cases missing
    · exact if_pos rfl

theorem insert (h : table.Consistent) (target : Target) : (table.insert target).2.Consistent := by
  cases found : table.find? target.name with
  | some position =>
    obtain ⟨old, there, named⟩ := h.found found
    rw [insert_of_find? found]
    exact h.replace there named.symm
  | none =>
    rw [insert_of_not_find? found]
    exact h.push found

theorem changeAt (h : table.Consistent) (position : Nat) (change : Target → Target) :
    (table.changeAt position change).Consistent := by
  cases there : table.at? position with
  | none =>
    rw [TargetTable.changeAt, there]
    exact h
  | some target =>
    rw [changeAt_eq there]
    exact h.replace there rfl

theorem findOrCreate (h : table.Consistent) (name : String) (feature : Feature) :
    (table.findOrCreate name feature).2.Consistent := by
  rw [TargetTable.findOrCreate]
  cases found : table.find? name with
  | some position => exact h.changeAt position _
  | none => exact (h.insert { name, feature }).changeAt _ _

theorem map (h : table.Consistent) (change : Target → Target) :
    (table.map change).Consistent := by
  have row (position : Nat) : (table.map change).at? position =
      (table.at? position).map fun target => { change target with name := target.name } :=
    List.getElem?_map
  refine ⟨fun {name position} found => ?_, fun {position changed} place => ?_⟩
  · obtain ⟨target, there, named⟩ := h.found found
    refine ⟨{ change target with name := target.name }, ?_, named⟩
    rw [row, there, Option.map_some]
  · rw [row] at place
    obtain ⟨target, there, rfl⟩ := Option.map_eq_some_iff.1 place
    have indexed := h.indexed there
    exact indexed

/-- A target can be changed before it is written or after. -/
theorem changeAt_insert (h : table.Consistent) (target : Target) (change : Target → Target) :
    (table.insert target).2.changeAt (table.insert target).1 change =
      (table.insert { change target with name := target.name }).2 := by
  have index : table.find? { change target with name := target.name : Target }.name =
      table.find? target.name := rfl
  cases found : table.find? target.name with
  | some position =>
    obtain ⟨old, there, -⟩ := h.found found
    rw [insert_of_find? found, insert_of_find? (index.trans found)]
    rw [changeAt_eq (at?_replace_self there target), replace_replace]
  | none =>
    rw [insert_of_not_find? found, insert_of_not_find? (index.trans found)]
    rw [changeAt_eq (at?_push_self table target)]
    exact replace_push table rfl

end Consistent

end TargetTable

end Requirements
