import Requirements.Target.Table

/-!
# Handles to targets

A position that a table has given out for a name is kept by those who asked, and they change
the target behind it much later, after targets have been added, written over and given other
features. A `Session` is a table together with all positions that it has given out.
`Extends` is what one request does to what is found in a table, and `isOrderedMap_run` says
what holds after any requests: the table is a map by name in the order of insertion, and
every position given out still leads to the target of the name it was given out for.
-/

namespace Requirements

namespace TargetTable

/-- What has been found stays where it was found, and nothing is removed. -/
structure Extends (before after : TargetTable) : Prop where
  find? : ∀ {name position}, before.find? name = some position → after.find? name = some position
  size : before.size ≤ after.size

theorem Extends.refl (table : TargetTable) : table.Extends table := ⟨id, Nat.le_refl _⟩

theorem Extends.trans {first second third : TargetTable} (h : first.Extends second)
    (h' : second.Extends third) : first.Extends third :=
  ⟨fun found => h'.find? (h.find? found), Nat.le_trans h.size h'.size⟩

theorem extends_replace (table : TargetTable) (position : Nat) (target : Target) :
    table.Extends (table.replace position target) :=
  ⟨id, Nat.le_of_eq (table.size_replace position target).symm⟩

theorem extends_push {table : TargetTable} {target : Target}
    (missing : table.find? target.name = none) : table.Extends (table.push target) := by
  refine ⟨fun {name position} found => ?_, ?_⟩
  · have other : target.name ≠ name := by
      rintro rfl
      rw [missing] at found
      cases found
    rw [find?_push, if_neg other, found]
  · rw [size_push]
    exact Nat.le_succ _

theorem extends_changeAt (table : TargetTable) (position : Nat) (change : Target → Target) :
    table.Extends (table.changeAt position change) := by
  cases there : table.at? position with
  | none =>
    rw [changeAt, there]
    exact .refl table
  | some target =>
    rw [changeAt_eq there]
    exact extends_replace table position _

theorem extends_insert (table : TargetTable) (target : Target) :
    table.Extends (table.insert target).2 := by
  cases found : table.find? target.name with
  | some position =>
    rw [insert_of_find? found]
    exact extends_replace table position target
  | none =>
    rw [insert_of_not_find? found]
    exact extends_push found

theorem extends_findOrCreate (table : TargetTable) (name : String) (feature : Feature) :
    table.Extends (table.findOrCreate name feature).2 := by
  rw [findOrCreate]
  cases found : table.find? name with
  | some position => exact extends_changeAt table position _
  | none => exact (extends_insert table { name, feature }).trans (extends_changeAt _ _ _)

/-- Writing a target gives its position out. -/
theorem Consistent.find?_insert {table : TargetTable} (h : table.Consistent) (target : Target) :
    (table.insert target).2.find? target.name = some (table.insert target).1 := by
  have after := h.insert target
  cases found : table.find? target.name with
  | some position =>
    obtain ⟨old, there, -⟩ := h.found found
    rw [insert_of_find? found] at after ⊢
    exact after.indexed (at?_replace_self there target)
  | none =>
    rw [insert_of_not_find? found] at after ⊢
    exact after.indexed (at?_push_self table target)

theorem Consistent.find?_findOrCreate {table : TargetTable} (h : table.Consistent)
    (name : String) (feature : Feature) :
    (table.findOrCreate name feature).2.find? name = some (table.findOrCreate name feature).1 := by
  cases found : table.find? name with
  | some position =>
    obtain ⟨target, there, -⟩ := h.found found
    rw [findOrCreate_of_find? found there]
    exact found
  | none =>
    rw [findOrCreate_of_not_find? found, find?_push, if_pos rfl]

/-- What can be asked of a table. -/
inductive Request where
  | insert (target : Target)
  | find (name : String)
  | get (name : String)
  | findOrCreate (name : String) (feature : Feature)
  /-- Change the target behind a handle as one likes, but for its name. -/
  | change (position : Nat) (edit : Target → Target)

/-- A table, and the positions that it has given out, each with the name it was asked for. -/
structure Session where
  table : TargetTable := .empty
  handles : List (String × Nat) := []

namespace Session

/-- A session after one request. -/
def step (session : Session) : Request → Session
  | .insert target =>
    let (position, table) := session.table.insert target
    ⟨table, session.handles ++ [(target.name, position)]⟩
  | .find name =>
    match session.table.find? name with
    | none => session
    | some position => { session with handles := session.handles ++ [(name, position)] }
  | .get _ => session
  | .findOrCreate name feature =>
    let (position, table) := session.table.findOrCreate name feature
    ⟨table, session.handles ++ [(name, position)]⟩
  | .change position edit => { session with table := session.table.changeAt position edit }

/-- A session after requests. -/
def run (session : Session) (requests : List Request) : Session := requests.foldl step session

/-- What a session keeps: its table is in order, and its handles lead to what they were given
out for. -/
structure Sound (session : Session) : Prop where
  consistent : session.table.Consistent
  handles : ∀ {name position}, (name, position) ∈ session.handles →
    session.table.find? name = some position

theorem extends_step (session : Session) (request : Request) :
    session.table.Extends (session.step request).table := by
  cases request with
  | insert target => exact session.table.extends_insert target
  | find name =>
    rw [step]
    split
    · exact .refl session.table
    · exact .refl session.table
  | get name => exact .refl session.table
  | findOrCreate name feature => exact session.table.extends_findOrCreate name feature
  | change position edit => exact session.table.extends_changeAt position edit

theorem extends_run (session : Session) (requests : List Request) :
    session.table.Extends (session.run requests).table := by
  induction requests generalizing session with
  | nil => exact .refl session.table
  | cons request requests ih => exact (session.extends_step request).trans (ih _)

theorem Sound.step {session : Session} (h : session.Sound) (request : Request) :
    (session.step request).Sound := by
  -- A handle is an old one, which the request keeps, or the one that it has just given out.
  have kept {name : String} {position : Nat} (member : (name, position) ∈ session.handles) :
      (session.step request).table.find? name = some position :=
    (session.extends_step request).find? (h.handles member)
  cases request with
  | insert target =>
    refine ⟨h.consistent.insert target, fun {name position} member => ?_⟩
    rcases List.mem_append.1 member with old | new
    · exact kept old
    · obtain ⟨rfl, rfl⟩ := Prod.mk.inj (List.mem_singleton.1 new)
      exact h.consistent.find?_insert target
  | find sought =>
    rw [Session.step] at kept ⊢
    split
    · exact h
    · rename_i found
      refine ⟨h.consistent, fun {name position} member => ?_⟩
      rcases List.mem_append.1 member with old | new
      · exact h.handles old
      · obtain ⟨rfl, rfl⟩ := Prod.mk.inj (List.mem_singleton.1 new)
        exact found
  | get name => exact h
  | findOrCreate sought feature =>
    refine ⟨h.consistent.findOrCreate sought feature, fun {name position} member => ?_⟩
    rcases List.mem_append.1 member with old | new
    · exact kept old
    · obtain ⟨rfl, rfl⟩ := Prod.mk.inj (List.mem_singleton.1 new)
      exact h.consistent.find?_findOrCreate name feature
  | change position edit => exact ⟨h.consistent.changeAt position edit, kept⟩

theorem Sound.run {session : Session} (h : session.Sound) (requests : List Request) :
    (session.run requests).Sound := by
  induction requests generalizing session with
  | nil => exact h
  | cons request requests ih => exact ih (h.step request)

/-- The table of a session is a map by name in the order of insertion, now and after any
further requests. -/
structure IsOrderedMap (session : Session) : Prop where
  distinct : session.table.names.Nodup
  /-- What is found is in range and has the name that was sought. -/
  found : ∀ name position, session.table.find? name = some position ↔
    ∃ target, session.table.at? position = some target ∧ target.name = name
  missing : ∀ name, session.table.find? name = none ↔ name ∉ session.table.names
  got : ∀ name target, session.table.get? name = some target ↔
    target ∈ session.table.targets ∧ target.name = name
  /-- A target of a name that is there is written over the old one, and every name stays
  where it is. -/
  replaced : ∀ target position, session.table.find? target.name = some position →
    (session.step (.insert target)).table.targets = session.table.targets.set position target ∧
      ∀ name, (session.step (.insert target)).table.find? name = session.table.find? name
  appended : ∀ target, session.table.find? target.name = none →
    (session.step (.insert target)).table.targets = session.table.targets ++ [target]
  /-- A target that is found keeps all but its feature. -/
  retagged : ∀ name feature position target, session.table.find? name = some position →
    session.table.at? position = some target →
    (session.step (.findOrCreate name feature)).table.targets =
      session.table.targets.set position { target with feature }
  created : ∀ name feature, session.table.find? name = none →
    (session.step (.findOrCreate name feature)).table.targets =
      session.table.targets ++ [{ name := name, feature := feature }]
  /-- A position that has been given out denotes the target of its name for ever. -/
  lasting : ∀ requests name position, (name, position) ∈ session.handles →
    (session.run requests).table.find? name = some position ∧
      ∃ target, (session.run requests).table.at? position = some target ∧ target.name = name
  grows : ∀ requests, session.table.size ≤ (session.run requests).table.size

theorem Sound.isOrderedMap {session : Session} (h : session.Sound) : session.IsOrderedMap where
  distinct := h.consistent.nodup_names
  found _ _ := h.consistent.find?_eq_some_iff
  missing _ := h.consistent.find?_eq_none_iff
  got name target := by
    constructor
    · intro got
      obtain ⟨position, found, there⟩ := Option.bind_eq_some_iff.1 got
      obtain ⟨other, there', named⟩ := h.consistent.found found
      obtain rfl := Option.some.inj (there.symm.trans there')
      exact ⟨List.mem_of_getElem? there, named⟩
    · rintro ⟨member, rfl⟩
      obtain ⟨position, there⟩ := List.mem_iff_getElem?.1 member
      exact (get?_eq (h.consistent.indexed there)).trans there
  replaced target position found := by
    rw [Session.step, insert_of_find? found]
    exact ⟨rfl, fun _ => rfl⟩
  appended target missing := by
    rw [Session.step, insert_of_not_find? missing]
    rfl
  retagged name feature position target found there := by
    rw [Session.step, findOrCreate_of_find? found there]
    rfl
  created name feature missing := by
    rw [Session.step, findOrCreate_of_not_find? missing]
    rfl
  lasting requests name position member := by
    have kept := (session.extends_run requests).find? (h.handles member)
    exact ⟨kept, (h.run requests).consistent.found kept⟩
  grows requests := (session.extends_run requests).size

/-- Whatever is asked of a table that was empty at first, and however the targets behind its
handles are changed in between, it stays an ordered map whose handles last. -/
theorem isOrderedMap_run (requests : List Request) :
    (Session.run {} requests).IsOrderedMap := by
  have start : Session.Sound {} := ⟨.empty, nofun⟩
  exact (start.run requests).isOrderedMap

/-- A target that is written over or given another feature stays first. -/
example :
    let session := Session.run {} [.insert { name := "zeta", feature := .atlasLibrary },
      .findOrCreate "alpha" .atlasLibrary, .find "mid",
      .insert { name := "zeta", feature := .atlasApplication },
      .change 1 fun target => { target with sources := ["a.cxx"] },
      .findOrCreate "alpha" .atlasComponent]
    session.handles = [("zeta", 0), ("alpha", 1), ("zeta", 0), ("alpha", 1)] ∧
      session.table.targets = [{ name := "zeta", feature := .atlasApplication },
        { name := "alpha", feature := .atlasComponent, sources := ["a.cxx"] }] := by
  decide +kernel

end Session

end TargetTable

end Requirements
