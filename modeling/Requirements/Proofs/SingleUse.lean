import Requirements.Proofs.FoldOrder

/-!
# Every macro is used once

A macro is filed under every target whose name its own name starts with: one called
`Foo_pp_cppflags` is filed under `Foo` and under `Foo_pp`. Still it is folded into `Foo`
alone. `foldsApart_ofStatements` says this of all macros and targets of a file. A place is
given back for one target at most, and for that one once. The name of the macro at this
place splits into a target name and a suffix in a single way. If the macro is left out,
nothing changes but one list of one target, and that by a single block of words.
-/

namespace Requirements

namespace TargetMacro

/-- The macros without the one at a place. -/
def without (place : Nat) (macros : List TargetMacro) : List TargetMacro :=
  macros.filter fun m => m.index ≠ place

theorem mem_stepsOf {macros : List TargetMacro} {target : String} {op : MacroOp}
    {suffix : FlagSuffix} {m : TargetMacro} :
    (suffix, m) ∈ stepsOf macros target op ↔ (suffix, m) ∈ steps macros target ∧ m.op = op := by
  simp only [stepsOf, List.mem_flatMap, List.mem_map, mem_holding, mem_steps, Prod.mk.injEq]
  constructor
  · rintro ⟨suffix, known, m, ⟨member, rfl, untagged, made⟩, rfl, rfl⟩
    exact ⟨⟨known, member, untagged, made⟩, rfl⟩
  · rintro ⟨⟨known, member, untagged, made⟩, rfl⟩
    exact ⟨suffix, known, m, ⟨member, rfl, untagged, made⟩, rfl, rfl⟩

theorem stepsOf_without (place : Nat) (macros : List TargetMacro) (target : String)
    (op : MacroOp) :
    stepsOf (without place macros) target op =
      (stepsOf macros target op).filter fun (_, m) => m.index ≠ place := by
  have holds (suffix : FlagSuffix) :
      holding (without place macros) target op suffix =
        (holding macros target op suffix).filter fun m => m.index ≠ place := by
    rw [holding, holding, without, List.filter_filter, List.filter_filter]
    exact List.filter_congr fun m _ => Bool.and_comm _ _
  simp only [stepsOf, holds, List.filter_flatMap, List.filter_map]
  rfl

theorem steps_without (place : Nat) (macros : List TargetMacro) (target : String) :
    steps (without place macros) target =
      (steps macros target).filter fun (_, m) => m.index ≠ place := by
  simp only [steps_eq, stepsOf_without, List.filter_append]

/-- Leaving out a macro that makes no step on a target makes no difference to the target. -/
theorem fold_without_of_not_mem {target : Target} {macros : List TargetMacro} {place : Nat}
    (h : place ∉ (target.fold macros).2) :
    target.fold (without place macros) = target.fold macros := by
  have same : steps (without place macros) target.name = steps macros target.name := by
    rw [steps_without, List.filter_eq_self]
    rintro ⟨suffix, m⟩ member
    have elsewhere : m.index ≠ place := by
      rintro rfl
      exact h (List.mem_map_of_mem member)
    simpa using elsewhere
  rw [Target.fold, same, Target.fold]

/-- Of entries with distinct keys, leaving out the key of one leaves out this entry. -/
theorem exists_append_of_nodup_map {α : Type} {key : α → Nat} {entries : List α} {entry : α}
    (distinct : (entries.map key).Nodup) (member : entry ∈ entries) :
    ∃ front back, entries = front ++ entry :: back ∧
      (entries.filter fun other => key other ≠ key entry) = front ++ back := by
  obtain ⟨front, back, rfl⟩ := List.append_of_mem member
  simp only [List.map_append, List.map_cons, List.nodup_middle, List.nodup_cons] at distinct
  refine ⟨front, back, rfl, ?_⟩
  have others : ∀ other ∈ front ++ back, key other ≠ key entry := by
    intro other h equal
    exact distinct.1 (equal ▸ List.map_append ▸ List.mem_map_of_mem h)
  rw [List.filter_append, List.filter_cons_of_neg (by simp), ← List.filter_append,
    List.filter_eq_self]
  simpa using others

theorem nodup_stepsOf {macros : List TargetMacro} (distinct : (macros.map index).Nodup)
    (target : String) (op : MacroOp) :
    ((stepsOf macros target op).map fun (_, m) => m.index).Nodup := by
  refine (nodup_steps distinct target).sublist (List.Sublist.map _ ?_)
  rw [steps_eq]
  cases op with
  | define => exact (List.sublist_append_left _ _).trans (List.sublist_append_left _ _)
  | append => exact (List.sublist_append_right _ _).trans (List.sublist_append_left _ _)
  | remove => exact List.sublist_append_right _ _

/-- A macro holds one block of words, which are those of its operation for the list of its
suffix. -/
theorem words_without {macros : List TargetMacro} (distinct : (macros.map index).Nodup)
    {target : String} {suffix : FlagSuffix} {m : TargetMacro}
    (held : (suffix, m) ∈ steps macros target) (op : MacroOp) (list : FlagList) :
    ∃ front back,
      words macros target op list =
        front ++ (if m.op = op ∧ suffix.list = list then suffix.flags m.value else []) ++ back ∧
      words (without m.index macros) target op list = front ++ back := by
  rw [← flatMap_stepsOf, ← flatMap_stepsOf, stepsOf_without]
  by_cases same : m.op = op
  · obtain ⟨front, back, split, left⟩ :=
      exists_append_of_nodup_map (nodup_stepsOf distinct target op) (mem_stepsOf.2 ⟨held, same⟩)
    refine ⟨front.flatMap (stepWords list), back.flatMap (stepWords list), ?_, ?_⟩
    · simp [split, stepWords, same]
    · rw [left, List.flatMap_append]
  · refine ⟨(stepsOf macros target op).flatMap (stepWords list), [], by simp [same], ?_⟩
    -- The steps of another operation come from other macros, which stand at other places.
    have kept : ((stepsOf macros target op).filter fun (_, n) => n.index ≠ m.index) =
        stepsOf macros target op := by
      rw [List.filter_eq_self]
      rintro ⟨s, n⟩ member
      have elsewhere : n.index ≠ m.index := by
        intro equal
        obtain ⟨step, rfl⟩ := mem_stepsOf.1 member
        obtain rfl := List.inj_on_of_nodup_map distinct (mem_steps.1 step).2.1
          (mem_steps.1 held).2.1 equal
        exact same rfl
      simpa using elsewhere
    rw [kept, List.append_nil]

theorem words_without_of_ne {macros : List TargetMacro} (distinct : (macros.map index).Nodup)
    {target : String} {suffix : FlagSuffix} {m : TargetMacro}
    (held : (suffix, m) ∈ steps macros target) {op : MacroOp} {list : FlagList}
    (h : m.op = op → suffix.list ≠ list) :
    words (without m.index macros) target op list = words macros target op list := by
  obtain ⟨front, back, all, left⟩ := words_without distinct held op list
  rw [all, left, if_neg (not_and.2 h), List.append_nil]

/-- A macro makes a list of flags out of the one that there is without the macro: its flags
are put in at one spot, unless they are removed, or it removes them. -/
inductive Enters (flags removed : List String) : MacroOp → List String → List String → Prop where
  | add {op : MacroOp} (adds : op ≠ .remove) (front back : List String) :
      Enters flags removed op ((front ++ back).filter (· ∉ removed))
        ((front ++ flags ++ back).filter (· ∉ removed))
  | remove (old : List String) : Enters flags removed .remove old (old.filter (· ∉ flags))

theorem Enters.remove_block (removed old front flags back : List String) :
    Enters flags removed .remove (old.filter (· ∉ front ++ back))
      (old.filter (· ∉ front ++ flags ++ back)) := by
  have twice : old.filter (· ∉ front ++ flags ++ back) =
      (old.filter (· ∉ front ++ back)).filter (· ∉ flags) := by
    rw [List.filter_filter]
    apply List.filter_congr
    intro word _
    rw [Bool.eq_iff_iff]
    simp only [List.mem_append, Bool.and_eq_true, decide_eq_true_eq]
    tauto
  exact twice ▸ .remove _

/-- The list of the suffix has the words of the macro in it, or has lost them. -/
theorem enters_fold {macros : List TargetMacro} (distinct : (macros.map index).Nodup)
    {target : Target} {suffix : FlagSuffix} {m : TargetMacro}
    (held : (suffix, m) ∈ steps macros target.name) :
    Enters (suffix.flags m.value) (words macros target.name .remove suffix.list) m.op
      (suffix.list.get (target.fold (without m.index macros)).1)
      (suffix.list.get (target.fold macros).1) := by
  obtain ⟨front, back, all, left⟩ := words_without distinct held m.op suffix.list
  rw [if_pos ⟨rfl, rfl⟩] at all
  have same (op : MacroOp) (h : m.op ≠ op) :
      words (without m.index macros) target.name op suffix.list =
        words macros target.name op suffix.list :=
    words_without_of_ne distinct held fun equal => absurd equal h
  rw [get_fold_words, get_fold_words]
  generalize suffix.list.get target = old
  cases op : m.op with
  | define =>
    rw [op] at all left same
    rw [same .append (by decide), same .remove (by decide), all, left]
    simpa using Enters.add (show MacroOp.define ≠ .remove by decide) (old ++ front)
      (back ++ words macros target.name .append suffix.list)
  | append =>
    rw [op] at all left same
    rw [same .define (by decide), same .remove (by decide), all, left]
    simpa using Enters.add (show MacroOp.append ≠ .remove by decide)
      (old ++ words macros target.name .define suffix.list ++ front) back
  | remove =>
    rw [op] at all left same
    rw [same .define (by decide), same .append (by decide), left, all]
    exact .remove_block ..

/-- The other lists of the target are what they are without the macro. -/
theorem get_fold_without_of_ne {macros : List TargetMacro} (distinct : (macros.map index).Nodup)
    {target : Target} {suffix : FlagSuffix} {m : TargetMacro}
    (held : (suffix, m) ∈ steps macros target.name) {list : FlagList} (h : suffix.list ≠ list) :
    list.get (target.fold (without m.index macros)).1 = list.get (target.fold macros).1 := by
  have same (op : MacroOp) :
      words (without m.index macros) target.name op list = words macros target.name op list :=
    words_without_of_ne distinct held fun _ => h
  rw [get_fold_words, get_fold_words, same, same, same]

end TargetMacro

namespace MacroBuckets

open TargetMacro

/-- The buckets without the macro at a place. -/
def without (place : Nat) (buckets : MacroBuckets) : MacroBuckets :=
  { buckets with macros := TargetMacro.without place buckets.macros }

/-- A target with the macros of its bucket folded into it, and the places of these macros. -/
def fold (buckets : MacroBuckets) (target : Target) : Target × List Nat :=
  target.fold (buckets.get target.name)

/-- Whatever else is filed under the name of a target makes no step on it. -/
theorem fold_eq {buckets : MacroBuckets} {target : Target}
    (once : buckets.names.count target.name = 1) :
    buckets.fold target = target.fold buckets.macros := by
  rw [fold, get_of_count_eq_one once]
  simp only [Target.fold, steps_filter_belongsTo]

theorem fold_without {buckets : MacroBuckets} {target : Target}
    (once : buckets.names.count target.name = 1) (place : Nat) :
    (buckets.without place).fold target =
      target.fold (TargetMacro.without place buckets.macros) :=
  fold_eq once

/-- What comes of a macro that is folded into a target under a suffix. -/
structure UsedOnce (buckets : MacroBuckets) (targets : List Target) (target : Target)
    (suffix : FlagSuffix) (m : TargetMacro) : Prop where
  /-- Its name is made of the name of this target and of this suffix, and in no other way. -/
  name : ∀ other ∈ targets, ∀ s ∈ FlagSuffix.all,
    m.value.name = other.name ++ s.text ↔ other = target ∧ s = suffix
  /-- The words of its value stand for flags in the list of the suffix. -/
  holds : FlagSuffix.Holds (Text.wordsOf m.value.default) suffix.text suffix.list
    (suffix.flags m.value)
  /-- These flags enter the list. -/
  enters : Enters (suffix.flags m.value)
    (words buckets.macros target.name .remove suffix.list) m.op
    (suffix.list.get ((buckets.without m.index).fold target).1)
    (suffix.list.get (buckets.fold target).1)
  /-- The other lists of the target are what they are without the macro. -/
  otherLists : ∀ list, list ≠ suffix.list →
    list.get ((buckets.without m.index).fold target).1 = list.get (buckets.fold target).1
  /-- The other targets are what they are without the macro. -/
  otherTargets : ∀ other ∈ targets, other ≠ target →
    (buckets.without m.index).fold other = buckets.fold other

/-- The macros in buckets are shared out among targets. -/
structure FoldsApart (buckets : MacroBuckets) (targets : List Target) : Prop where
  /-- The suffixes are five, and say what the words of a macro stand for. -/
  table : FlagSuffix.IsTable FlagSuffix.all
  nodup : ∀ target ∈ targets, (buckets.fold target).2.Nodup
  disjoint : targets.Pairwise fun first second =>
    (buckets.fold first).2.Disjoint (buckets.fold second).2
  /-- The macros that are folded into a target are those that hold flags of it. -/
  folded : ∀ target ∈ targets, ∀ place, place ∈ (buckets.fold target).2 ↔
    ∃ m ∈ buckets.macros, m.index = place ∧ m.value.isTagged = false ∧
      ∃ suffix ∈ FlagSuffix.all, m.value.name = target.name ++ suffix.text
  /-- Each of them is used for one list. -/
  used : ∀ target ∈ targets, ∀ m ∈ buckets.macros, m.index ∈ (buckets.fold target).2 →
    ∃ suffix ∈ FlagSuffix.all, buckets.UsedOnce targets target suffix m

/-- The name of a macro leaves no choice between targets, nor between suffixes. -/
theorem usedOnce_of_mem_steps {buckets : MacroBuckets} {targets : List Target}
    (names : (targets.map Target.name).Nodup) (filed : buckets.names = targets.map Target.name)
    (places : (buckets.macros.map index).Nodup) {target : Target} (member : target ∈ targets)
    {suffix : FlagSuffix} {m : TargetMacro}
    (held : (suffix, m) ∈ steps buckets.macros target.name) :
    buckets.UsedOnce targets target suffix m := by
  obtain ⟨known, inside, -, made⟩ := mem_steps.1 held
  have once {other : Target} (h : other ∈ targets) : buckets.names.count other.name = 1 :=
    List.count_eq_one_of_mem (filed ▸ names) (filed ▸ List.mem_map_of_mem h)
  have name {other : Target} (h : other ∈ targets) {s : FlagSuffix} (hs : s ∈ FlagSuffix.all) :
      m.value.name = other.name ++ s.text ↔ other = target ∧ s = suffix := by
    constructor
    · intro madeToo
      obtain ⟨same, rfl⟩ := FlagSuffix.split_unique hs known (madeToo.symm.trans made)
      exact ⟨List.inj_on_of_nodup_map names h member same, rfl⟩
    · rintro ⟨rfl, rfl⟩
      exact made
  refine
    { name := fun other h s hs => name h hs
      holds := FlagSuffix.holds_flags known m.value
      enters := ?_
      otherLists := fun list hne => ?_
      otherTargets := fun other h hne => ?_ }
  · rw [fold_without (once member), fold_eq (once member)]
    exact enters_fold places held
  · rw [fold_without (once member), fold_eq (once member)]
    exact get_fold_without_of_ne places held hne.symm
  · rw [fold_without (once h), fold_eq (once h)]
    refine fold_without_of_not_mem fun folded => ?_
    obtain ⟨⟨s, n⟩, heldToo, equal⟩ := List.mem_map.1 folded
    obtain ⟨hs, insideToo, -, madeToo⟩ := mem_steps.1 heldToo
    obtain rfl := List.inj_on_of_nodup_map places insideToo inside equal
    exact hne ((name h hs).1 madeToo).1

/-- Of targets with different names, each macro of a file is folded into at most one, and
there it is used for one list. -/
theorem foldsApart_ofStatements (statements : List Statement) {targets : List Target}
    (names : (targets.map Target.name).Nodup) :
    (ofStatements statements (targets.map Target.name)).FoldsApart targets := by
  have folds {target : Target} (member : target ∈ targets) :
      (ofStatements statements (targets.map Target.name)).fold target =
        target.fold (TargetMacro.ofStatements statements) :=
    fold_eq (List.count_eq_one_of_mem names (List.mem_map_of_mem member))
  have distinct := nodup_index_ofStatements statements
  have apart := nodup_places statements names
  rw [places, List.nodup_flatMap, List.pairwise_map] at apart
  refine
    { table := FlagSuffix.isTable_all
      nodup := fun target member => ?_
      disjoint := ?_
      folded := fun target member place => ?_
      used := fun target member m inside folded => ?_ }
  · rw [folds member]
    exact apart.1 _ (List.mem_map_of_mem member)
  · refine apart.2.imp_of_mem fun {first second} hfirst hsecond disjoint => ?_
    rw [folds hfirst, folds hsecond]
    exact disjoint
  · rw [folds member]
    simp only [Target.fold, List.mem_map, Prod.exists, mem_steps]
    constructor
    · rintro ⟨suffix, m, ⟨known, inside, untagged, made⟩, rfl⟩
      exact ⟨m, inside, rfl, untagged, suffix, known, made⟩
    · rintro ⟨m, inside, rfl, untagged, suffix, known, made⟩
      exact ⟨suffix, m, ⟨known, inside, untagged, made⟩, rfl⟩
  · rw [folds member] at folded
    obtain ⟨⟨suffix, n⟩, held, equal⟩ := List.mem_map.1 folded
    obtain ⟨known, insideToo, -, -⟩ := mem_steps.1 held
    obtain rfl := List.inj_on_of_nodup_map distinct insideToo inside equal
    exact ⟨suffix, known, usedOnce_of_mem_steps names rfl distinct member held⟩

/-- The name of one target goes on like a suffix, and that of another one ends inside a
suffix; each macro finds its target all the same. -/
theorem foldsApart_ofStatements_prefixes :
    let targets : List Target :=
      ["Foo", "Foo_pp", "Foo_c"].map fun name => { name, feature := .atlasLibrary }
    let statements : List Statement :=
      [.setting .appendMacro { name := "Foo_pp_cppflags", default := "-DA" },
       .setting .defineMacro { name := "Foo_pplinkopts", default := "-lb -la" },
       .setting .removeMacro { name := "Foo_cflags", default := "-O2" },
       .setting .removeMacro { name := "Foo_pplinkopts", default := "-lb" },
       .setting .appendMacro { name := "Foo_c_cflags", default := "-O3" }]
    let buckets := MacroBuckets.ofStatements statements (targets.map Target.name)
    (targets.map Target.name).Nodup ∧ buckets.FoldsApart targets ∧
      targets.map (fun target => (buckets.get target.name).length) = [5, 3, 2] ∧
      targets.map (fun target => (buckets.fold target).2) = [[0, 2], [1, 3], [4]] := by
  intro targets statements buckets
  have names : (targets.map Target.name).Nodup := by decide
  exact ⟨names, foldsApart_ofStatements statements names, by decide +kernel, by decide +kernel⟩

end MacroBuckets

end Requirements
