import Requirements.Target.Flags
import Mathlib.Data.List.Nodup

/-!
# Which macros are folded, and into what

`TargetMacro.steps` lists the steps that macros make on a target. `flags` carries the
steps out on one list of flags, and `get_fold` says that folding a target does this to
each of its lists. Since no suffix ends in another one, a macro name is made of a
target name and a suffix in at most one way, so that over all targets of a file every
macro takes part in at most one step. `perm_places` counts them: the places of all
steps are those of the statements that `isFolded` describes, each once.
-/

namespace Requirements

/-- The places among statements of those that pass a test. -/
def Statement.placesOf (test : Statement → Bool) (statements : List Statement) : List Nat :=
  (statements.zipIdx.filter fun (statement, _) => test statement).map Prod.snd

theorem Statement.mem_placesOf {test : Statement → Bool} {statements : List Statement}
    {index : Nat} :
    index ∈ placesOf test statements ↔
      ∃ statement, statements[index]? = some statement ∧ test statement = true := by
  simp [placesOf, List.mem_zipIdx_iff_getElem?]

theorem Statement.nodup_places_zipIdx (statements : List Statement) :
    (statements.zipIdx.map Prod.snd).Nodup := by
  rw [List.zipIdx_map_snd]
  exact List.nodup_range'

theorem Statement.nodup_placesOf (test : Statement → Bool) (statements : List Statement) :
    (placesOf test statements).Nodup :=
  (nodup_places_zipIdx statements).sublist (List.filter_sublist.map _)

/-- Whether a statement is a macro without tags whose name is one of the given names
with one of the suffixes after it. -/
def Statement.isFolded (names : List String) : Statement → Bool
  | .setting s value =>
    (MacroOp.ofSetting? s).isSome && !value.isTagged &&
      names.any fun name => FlagSuffix.all.any fun suffix => value.name == name ++ suffix.text
  | _ => false

theorem Statement.isFolded_iff {names : List String} {statement : Statement} :
    statement.isFolded names = true ↔
      ∃ s op value name suffix, statement = .setting s value ∧
        MacroOp.ofSetting? s = some op ∧ value.isTagged = false ∧ name ∈ names ∧
        suffix ∈ FlagSuffix.all ∧ value.name = name ++ suffix.text := by
  cases statement with
  | setting s value =>
    simp only [isFolded, Bool.and_eq_true, Option.isSome_iff_exists, Bool.not_eq_true',
      List.any_eq_true, beq_iff_eq, Statement.setting.injEq]
    constructor
    · rintro ⟨⟨⟨op, hop⟩, untagged⟩, name, hname, suffix, hsuffix, made⟩
      exact ⟨s, op, value, name, suffix, ⟨rfl, rfl⟩, hop, untagged, hname, hsuffix, made⟩
    · rintro ⟨_, op, _, name, suffix, ⟨rfl, rfl⟩, hop, untagged, hname, hsuffix, made⟩
      exact ⟨⟨⟨op, hop⟩, untagged⟩, name, hname, suffix, hsuffix, made⟩
  | _ => simp [isFolded]

/-- Whether a statement is a macro without tags, of an operation and a name. -/
def Statement.isPlainMacro (op : MacroOp) (name : String) : Statement → Bool
  | .setting s value =>
    MacroOp.ofSetting? s == some op && !value.isTagged && value.name == name
  | _ => false

namespace FlagSuffix

/-- No suffix ends in another one. -/
theorem eq_of_isSuffix :
    ∀ a ∈ all, ∀ b ∈ all, a.text.toList <:+ b.text.toList → a = b := by
  decide

/-- A name is made of a front and a suffix in at most one way. -/
theorem split_unique {a b : FlagSuffix} (ha : a ∈ all) (hb : b ∈ all) {first second : String}
    (h : first ++ a.text = second ++ b.text) : first = second ∧ a = b := by
  have texts : first.toList ++ a.text.toList = second.toList ++ b.text.toList := by
    simpa using congrArg String.toList h
  have same : a = b := by
    rcases List.suffix_or_suffix_of_suffix ⟨first.toList, texts⟩
      (List.suffix_append second.toList b.text.toList) with inside | inside
    · exact eq_of_isSuffix a ha b hb inside
    · exact (eq_of_isSuffix b hb a ha inside).symm
  subst same
  exact ⟨String.toList_inj.1 (List.append_cancel_right texts), rfl⟩

end FlagSuffix

namespace TargetMacro

/-- What a macro makes of the flags in the list of its suffix. -/
def change (suffix : FlagSuffix) (m : TargetMacro) (old : List String) : List String :=
  match m.op with
  | .define | .append => old ++ suffix.flags m.value
  | .remove => old.filter fun flag => !(suffix.flags m.value).contains flag

/-- What steps make of the flags in a list. -/
def flags (list : FlagList) (steps : List (FlagSuffix × TargetMacro)) (old : List String) :
    List String :=
  steps.foldl (fun old (suffix, m) => if suffix.list = list then change suffix m old else old) old

theorem get_apply (list : FlagList) (target : Target) (suffix : FlagSuffix) (m : TargetMacro) :
    list.get (apply target suffix m) =
      if suffix.list = list then change suffix m (list.get target) else list.get target := by
  have same : apply target suffix m =
      suffix.list.set target (change suffix m (suffix.list.get target)) := by
    cases h : m.op <;> simp [apply, change, h]
  rw [same, FlagList.get_set]
  split
  · rename_i h
    rw [h]
  · rfl

/-- Folding carries out the steps on each list of the target. -/
theorem get_fold (list : FlagList) (target : Target) (macros : List TargetMacro) :
    list.get (target.fold macros).1 =
      flags list (steps macros target.name) (list.get target) := by
  unfold Target.fold
  generalize steps macros target.name = taken
  induction taken generalizing target with
  | nil => rfl
  | cons step taken ih =>
    obtain ⟨suffix, m⟩ := step
    simp only [List.foldl_cons, flags] at ih ⊢
    rw [ih, get_apply]

/-- Folding changes the flags of a target and nothing else. -/
theorem fold_eq (target : Target) (macros : List TargetMacro) :
    ∃ uses cxxFlags cFlags,
      (target.fold macros).1 = { target with uses, cxxFlags, cFlags } := by
  rw [Target.fold]
  generalize steps macros target.name = taken
  induction taken generalizing target with
  | nil => exact ⟨_, _, _, rfl⟩
  | cons step taken ih =>
    obtain ⟨uses, cxxFlags, cFlags, folded⟩ := ih (apply target step.1 step.2)
    refine ⟨uses, cxxFlags, cFlags, folded.trans ?_⟩
    simp only [apply]
    cases step.1.list <;> rfl

theorem mem_steps {macros : List TargetMacro} {name : String} {suffix : FlagSuffix}
    {m : TargetMacro} :
    (suffix, m) ∈ steps macros name ↔
      suffix ∈ FlagSuffix.all ∧ m ∈ macros ∧ m.value.isTagged = false ∧
        m.value.name = name ++ suffix.text := by
  simp only [steps, holding, List.mem_flatMap, List.mem_map, List.mem_filter, Bool.and_eq_true,
    beq_iff_eq, Bool.not_eq_true', Prod.mk.injEq]
  constructor
  · rintro ⟨_, _, suffix, hsuffix, m, ⟨hm, ⟨_, untagged⟩, made⟩, rfl, rfl⟩
    exact ⟨hsuffix, hm, untagged, made⟩
  · rintro ⟨hsuffix, hm, untagged, made⟩
    exact ⟨m.op, m.op.mem_all, suffix, hsuffix, m, ⟨hm, ⟨rfl, untagged⟩, made⟩, rfl, rfl⟩

/-- Only the macros filed under a target make steps on it. -/
theorem steps_filter_belongsTo (macros : List TargetMacro) (name : String) :
    steps (macros.filter (belongsTo name)) name = steps macros name := by
  unfold steps holding
  congr 1
  funext op
  congr 1
  funext suffix
  rw [List.filter_filter]
  congr 1
  apply List.filter_congr
  intro m _
  by_cases made : m.value.name = name ++ suffix.text
  · have filed : belongsTo name m = true := Text.startsWith_iff.2 ⟨suffix.text, made⟩
    simp [filed]
  · simp [made]

theorem mem_holding {macros : List TargetMacro} {name : String} {op : MacroOp}
    {suffix : FlagSuffix} {m : TargetMacro} :
    m ∈ holding macros name op suffix ↔
      m ∈ macros ∧ m.op = op ∧ m.value.isTagged = false ∧ m.value.name = name ++ suffix.text := by
  simp [holding, and_assoc]

/-- A macro makes at most one step on a target. -/
theorem nodup_steps {macros : List TargetMacro} (h : (macros.map index).Nodup) (name : String) :
    ((steps macros name).map fun (_, m) => m.index).Nodup := by
  -- Two steps at one place belong to one macro, which has one operation and one suffix.
  have same {op other : MacroOp} {a b : FlagSuffix} (ha : a ∈ FlagSuffix.all)
      (hb : b ∈ FlagSuffix.all) {place : Nat}
      (hplace : place ∈ (holding macros name op a).map index)
      (hother : place ∈ (holding macros name other b).map index) : op = other ∧ a = b := by
    obtain ⟨m, hm, rfl⟩ := List.mem_map.1 hplace
    obtain ⟨n, hn, equal⟩ := List.mem_map.1 hother
    obtain ⟨inm, rfl, -, made⟩ := mem_holding.1 hm
    obtain ⟨inn, rfl, -, madeToo⟩ := mem_holding.1 hn
    obtain rfl := List.inj_on_of_nodup_map h inn inm equal
    exact ⟨rfl, (FlagSuffix.split_unique ha hb (made.symm.trans madeToo)).2⟩
  simp only [steps, List.map_flatMap, List.map_map]
  change (MacroOp.all.flatMap fun op => FlagSuffix.all.flatMap fun suffix =>
    (holding macros name op suffix).map index).Nodup
  rw [List.nodup_flatMap]
  constructor
  · intro op _
    rw [List.nodup_flatMap]
    refine ⟨fun suffix _ => h.sublist (List.filter_sublist.map _), ?_⟩
    have distinct : FlagSuffix.all.Nodup := by decide
    refine distinct.imp_of_mem fun {a b} ha hb hne place hplace hother => ?_
    exact hne (same ha hb hplace hother).2
  · have distinct : MacroOp.all.Nodup := by decide
    refine distinct.imp fun {op other} hne place hplace hother => ?_
    obtain ⟨a, ha, hplace⟩ := List.mem_flatMap.1 hplace
    obtain ⟨b, hb, hother⟩ := List.mem_flatMap.1 hother
    exact hne (same ha hb hplace hother).1

/-- The macro that a statement at a place is, if it is one. -/
def ofEntry : Statement × Nat → Option TargetMacro
  | (.setting s value, index) => (MacroOp.ofSetting? s).map fun op => ⟨index, op, value⟩
  | _ => none

theorem ofStatements_eq (statements : List Statement) :
    ofStatements statements = statements.zipIdx.filterMap ofEntry := by
  unfold ofStatements
  congr 1
  funext ⟨statement, index⟩
  cases statement <;> rfl

theorem ofEntry_eq_some_iff {statement : Statement} {index : Nat} {m : TargetMacro} :
    ofEntry (statement, index) = some m ↔
      m.index = index ∧ ∃ s, statement = .setting s m.value ∧
        MacroOp.ofSetting? s = some m.op := by
  cases statement with
  | setting s value =>
    simp only [ofEntry, Option.map_eq_some_iff, Statement.setting.injEq]
    constructor
    · rintro ⟨op, hop, rfl⟩
      exact ⟨rfl, s, ⟨rfl, rfl⟩, hop⟩
    · rintro ⟨rfl, _, ⟨rfl, rfl⟩, hop⟩
      exact ⟨m.op, hop, rfl⟩
  | _ => simp [ofEntry]

/-- The macros among statements are the settings of macros, with their places. -/
theorem mem_ofStatements {statements : List Statement} {m : TargetMacro} :
    m ∈ ofStatements statements ↔
      ∃ s, statements[m.index]? = some (.setting s m.value) ∧
        MacroOp.ofSetting? s = some m.op := by
  simp only [ofStatements_eq, List.mem_filterMap, Prod.exists, List.mk_mem_zipIdx_iff_getElem?,
    ofEntry_eq_some_iff]
  constructor
  · rintro ⟨_, _, found, rfl, s, rfl, hop⟩
    exact ⟨s, found, hop⟩
  · rintro ⟨s, found, hop⟩
    exact ⟨_, m.index, found, rfl, s, rfl, hop⟩

theorem nodup_index_ofStatements (statements : List Statement) :
    ((ofStatements statements).map index).Nodup := by
  have places : statements.zipIdx.Pairwise fun entry other => entry.2 ≠ other.2 :=
    List.pairwise_map.1 (Statement.nodup_places_zipIdx statements)
  rw [List.Nodup, List.pairwise_map, ofStatements_eq]
  refine places.filterMap _ fun entry other hne m hm n hn => ?_
  rw [(ofEntry_eq_some_iff.1 hm).1, (ofEntry_eq_some_iff.1 hn).1]
  exact hne

/-- The places of the macros among statements that make steps on targets. -/
def places (statements : List Statement) (names : List String) : List Nat :=
  names.flatMap fun name => (steps (ofStatements statements) name).map fun (_, m) => m.index

theorem mem_places {statements : List Statement} {names : List String} {index : Nat} :
    index ∈ places statements names ↔
      ∃ statement, statements[index]? = some statement ∧ statement.isFolded names = true := by
  simp only [places, List.mem_flatMap, List.mem_map, Prod.exists, mem_steps, mem_ofStatements,
    Statement.isFolded_iff]
  constructor
  · rintro ⟨name, hname, suffix, m, ⟨hsuffix, ⟨s, found, hop⟩, untagged, made⟩, rfl⟩
    exact ⟨_, found, s, m.op, m.value, name, suffix, rfl, hop, untagged, hname, hsuffix, made⟩
  · rintro ⟨_, found, s, op, value, name, suffix, rfl, hop, untagged, hname, hsuffix, made⟩
    exact ⟨name, hname, suffix, ⟨index, op, value⟩,
      ⟨hsuffix, ⟨s, found, hop⟩, untagged, made⟩, rfl⟩

/-- Different targets take steps from different macros. -/
theorem nodup_places (statements : List Statement) {names : List String} (h : names.Nodup) :
    (places statements names).Nodup := by
  have macros := nodup_index_ofStatements statements
  rw [places, List.nodup_flatMap]
  refine ⟨fun name _ => nodup_steps macros name, h.imp fun {first second} hne place hf hs => ?_⟩
  obtain ⟨⟨a, m⟩, hm, rfl⟩ := List.mem_map.1 hf
  obtain ⟨⟨b, n⟩, hn, equal⟩ := List.mem_map.1 hs
  obtain ⟨ha, inm, -, made⟩ := mem_steps.1 hm
  obtain ⟨hb, inn, -, madeToo⟩ := mem_steps.1 hn
  obtain rfl := List.inj_on_of_nodup_map macros inn inm equal
  exact hne (FlagSuffix.split_unique ha hb (made.symm.trans madeToo)).1

/-- Every macro that is folded makes one step on one target. -/
theorem perm_places (statements : List Statement) {names : List String} (h : names.Nodup) :
    (places statements names).Perm (Statement.placesOf (Statement.isFolded names) statements) := by
  rw [List.perm_ext_iff_of_nodup (nodup_places statements h) (Statement.nodup_placesOf _ _)]
  intro index
  rw [mem_places, Statement.mem_placesOf]

/-- The values that macros hold for an operation and a suffix can be read off the
statements without their places. -/
theorem map_value_holding (statements : List Statement) (name : String) (op : MacroOp)
    (suffix : FlagSuffix) :
    (holding (ofStatements statements) name op suffix).map value =
      (statements.filter (Statement.isPlainMacro op (name ++ suffix.text))).filterMap
        Statement.value? := by
  rw [ofStatements_eq]
  generalize 0 = start
  induction statements generalizing start with
  | nil => rfl
  | cons statement rest ih =>
    have ih := ih (start + 1)
    cases statement with
    | setting s value =>
      cases made : MacroOp.ofSetting? s with
      | none =>
        simpa [holding, List.filterMap_cons, ofEntry, Statement.isPlainMacro, made] using ih
      | some other =>
        simp only [holding, List.zipIdx_cons, List.filterMap_cons, List.filter_cons, ofEntry,
          Statement.isPlainMacro, made, Option.map_some, Option.some_beq_some] at ih ⊢
        split
        · simp [ih, Statement.value?]
        · exact ih
    | _ => simpa [holding, List.filterMap_cons, ofEntry, Statement.isPlainMacro] using ih

/-- What folding makes of a target depends on the values that the macros hold for each
operation and suffix, and not on the places of the macros. -/
theorem fold_congr {target : Target} {macros others : List TargetMacro}
    (h : ∀ op suffix, (holding macros target.name op suffix).map value =
      (holding others target.name op suffix).map value) :
    (target.fold macros).1 = (target.fold others).1 := by
  -- Without its place, a step is a suffix, an operation and a value.
  let anonymous : FlagSuffix × TargetMacro → FlagSuffix × TargetMacro :=
    fun (suffix, m) => (suffix, { m with index := 0 })
  have drop (steps : List (FlagSuffix × TargetMacro)) (start : Target) :
      steps.foldl (fun target (suffix, m) => apply target suffix m) start =
        (steps.map anonymous).foldl (fun target (suffix, m) => apply target suffix m) start := by
    rw [List.foldl_map]
    rfl
  have values (list : List TargetMacro) (op : MacroOp) (suffix : FlagSuffix) :
      ((holding list target.name op suffix).map fun m => (suffix, m)).map anonymous =
        ((holding list target.name op suffix).map value).map fun v => (suffix, ⟨0, op, v⟩) := by
    rw [List.map_map, List.map_map]
    apply List.map_congr_left
    intro m hm
    obtain ⟨-, rfl, -, -⟩ := mem_holding.1 hm
    rfl
  have same : (steps macros target.name).map anonymous =
      (steps others target.name).map anonymous := by
    simp only [steps, List.map_flatMap, values, h]
  simp only [Target.fold]
  rw [drop, same, ← drop]

end TargetMacro

end Requirements
