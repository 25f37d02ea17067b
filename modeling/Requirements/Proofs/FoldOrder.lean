import Requirements.Proofs.FlagWords
import Requirements.Proofs.Folding

/-!
# Flags of a target in closed form

Folding goes through the macros again and again: for each operation, and for each suffix
within it. `folded_fold` says what comes of that without a word about the passes. A list of
flags is what it was, then what definitions hold for it, then what appended macros hold for
it, and of all these only the words that no removing macro holds. The places that are
given back are those of the macros that hold flags of the target, sorted by operation,
suffix and place.
-/

namespace Requirements

/-- The position of an operation in the order in which they take effect. -/
def MacroOp.rank (op : MacroOp) : Nat := all.idxOf op

namespace TargetMacro

/-- The suffix that follows the name of a target in that of a macro, if the macro depends
on no tags and the suffix is known. -/
def suffix? (target : String) (m : TargetMacro) : Option FlagSuffix :=
  if m.value.isTagged then none
  else FlagSuffix.all.find? fun suffix => m.value.name == target ++ suffix.text

/-- The position of the suffix of a macro in the table of suffixes. -/
def suffixRank (target : String) (m : TargetMacro) : Nat :=
  (m.suffix? target).elim 0 fun suffix => FlagSuffix.all.idxOf suffix

/-- Of two macros with their positions in a list, the first takes effect before the second:
it has an earlier operation or else an earlier suffix or else an earlier position. -/
def Before (target : String) (first second : TargetMacro × Nat) : Prop :=
  first.1.op.rank < second.1.op.rank ∨ first.1.op.rank = second.1.op.rank ∧
    (first.1.suffixRank target < second.1.suffixRank target ∨
      first.1.suffixRank target = second.1.suffixRank target ∧ first.2 < second.2)

/-- The words that the macros of an operation hold for a list of flags: by suffix in the
order of their table, and for each suffix in the order of the macros. -/
def words (macros : List TargetMacro) (target : String) (op : MacroOp) (list : FlagList) :
    List String :=
  (FlagSuffix.all.filter fun suffix => suffix.list = list).flatMap fun suffix =>
    (macros.filter fun m => m.op = op ∧ m.suffix? target = some suffix).flatMap fun m =>
      suffix.flags m.value

theorem suffix?_eq_some_iff {target : String} {m : TargetMacro} {suffix : FlagSuffix} :
    m.suffix? target = some suffix ↔
      suffix ∈ FlagSuffix.all ∧ m.value.isTagged = false ∧
        m.value.name = target ++ suffix.text := by
  cases tagged : m.value.isTagged with
  | true => simp [suffix?, tagged]
  | false =>
    rw [suffix?, tagged, if_neg (by simp)]
    constructor
    · intro found
      exact ⟨List.mem_of_find?_eq_some found, rfl, by simpa using List.find?_some found⟩
    · rintro ⟨known, -, made⟩
      -- The search ends at some suffix of the name, and there is only one.
      have some : (FlagSuffix.all.find? fun s => m.value.name == target ++ s.text).isSome :=
        List.find?_isSome.2 ⟨suffix, known, by simpa using made⟩
      obtain ⟨other, found⟩ := Option.isSome_iff_exists.1 some
      have madeToo : m.value.name = target ++ other.text := by simpa using List.find?_some found
      have known' := List.mem_of_find?_eq_some found
      rw [found, (FlagSuffix.split_unique known known' (made.symm.trans madeToo)).2]

theorem holding_eq {suffix : FlagSuffix} (known : suffix ∈ FlagSuffix.all)
    (macros : List TargetMacro) (target : String) (op : MacroOp) :
    holding macros target op suffix =
      macros.filter fun m => m.op = op ∧ m.suffix? target = some suffix := by
  apply List.filter_congr
  intro m _
  rw [Bool.eq_iff_iff]
  simp [suffix?_eq_some_iff, known, and_assoc]

/-- The steps that the macros of one operation make on a target. -/
def stepsOf (macros : List TargetMacro) (target : String) (op : MacroOp) :
    List (FlagSuffix × TargetMacro) :=
  FlagSuffix.all.flatMap fun suffix => (holding macros target op suffix).map fun m => (suffix, m)

theorem steps_eq (macros : List TargetMacro) (target : String) :
    steps macros target = stepsOf macros target .define ++ stepsOf macros target .append ++
      stepsOf macros target .remove := by
  simp [steps, stepsOf, MacroOp.all]

theorem op_of_mem_stepsOf {macros : List TargetMacro} {target : String} {op : MacroOp}
    {step : FlagSuffix × TargetMacro} (h : step ∈ stepsOf macros target op) : step.2.op = op := by
  obtain ⟨suffix, -, h⟩ := List.mem_flatMap.1 h
  obtain ⟨m, held, rfl⟩ := List.mem_map.1 h
  exact (mem_holding.1 held).2.1

/-- The words of a step for a list of flags. -/
def stepWords (list : FlagList) (step : FlagSuffix × TargetMacro) : List String :=
  if step.1.list = list then step.1.flags step.2.value else []

theorem flatMap_filter_eq {α β : Type} (test : α → Bool) (f : α → List β) (items : List α) :
    (items.filter test).flatMap f = items.flatMap fun item => if test item then f item else [] := by
  induction items with
  | nil => rfl
  | cons item items ih => by_cases kept : test item <;> simp [kept, ih]

theorem flatMap_stepsOf (macros : List TargetMacro) (target : String) (op : MacroOp)
    (list : FlagList) :
    (stepsOf macros target op).flatMap (stepWords list) = words macros target op list := by
  rw [words, flatMap_filter_eq, stepsOf, List.flatMap_assoc]
  apply List.flatMap_congr
  intro suffix known
  rw [List.flatMap_map, holding_eq known]
  by_cases same : suffix.list = list <;> simp [stepWords, same]

theorem flags_cons (list : FlagList) (suffix : FlagSuffix) (m : TargetMacro)
    (steps : List (FlagSuffix × TargetMacro)) (old : List String) :
    flags list ((suffix, m) :: steps) old =
      flags list steps (if suffix.list = list then change suffix m old else old) := rfl

theorem flags_append (list : FlagList) (first last : List (FlagSuffix × TargetMacro))
    (old : List String) :
    flags list (first ++ last) old = flags list last (flags list first old) :=
  List.foldl_append

/-- Steps that add words add them at the end, one after the other. -/
theorem flags_of_adding {steps : List (FlagSuffix × TargetMacro)}
    (h : ∀ step ∈ steps, step.2.op ≠ .remove) (list : FlagList) (old : List String) :
    flags list steps old = old ++ steps.flatMap (stepWords list) := by
  induction steps generalizing old with
  | nil => simp [flags]
  | cons step steps ih =>
    obtain ⟨suffix, m⟩ := step
    have rest := ih (fun other member => h other (List.mem_cons_of_mem _ member))
    have one : (if suffix.list = list then change suffix m old else old) =
        old ++ stepWords list (suffix, m) := by
      by_cases same : suffix.list = list
      · cases op : m.op with
        | remove => exact absurd op (h (suffix, m) List.mem_cons_self)
        | define | append => simp [stepWords, same, change, op]
      · simp [stepWords, same]
    rw [flags_cons, rest, one, List.flatMap_cons, List.append_assoc]

/-- Steps that remove words leave those that none of them removes. -/
theorem flags_of_removing {steps : List (FlagSuffix × TargetMacro)}
    (h : ∀ step ∈ steps, step.2.op = .remove) (list : FlagList) (old : List String) :
    flags list steps old = old.filter (· ∉ steps.flatMap (stepWords list)) := by
  induction steps generalizing old with
  | nil => simp [flags]
  | cons step steps ih =>
    obtain ⟨suffix, m⟩ := step
    have rest := ih (fun other member => h other (List.mem_cons_of_mem _ member))
    have removes : m.op = .remove := h (suffix, m) List.mem_cons_self
    have one : (if suffix.list = list then change suffix m old else old) =
        old.filter (· ∉ stepWords list (suffix, m)) := by
      by_cases same : suffix.list = list <;> simp [stepWords, same, change, removes]
    rw [flags_cons, rest, one, List.filter_filter, List.flatMap_cons]
    apply List.filter_congr
    intro word _
    rw [Bool.eq_iff_iff]
    simp [and_comm]

/-- All that is added comes before all that is removed, so what has been removed stays away. -/
theorem flags_steps (list : FlagList) (macros : List TargetMacro) (target : String)
    (old : List String) :
    flags list (steps macros target) old =
      (old ++ words macros target .define list ++ words macros target .append list).filter
        (· ∉ words macros target .remove list) := by
  have adding (op : MacroOp) (adds : op ≠ .remove) :
      ∀ step ∈ stepsOf macros target op, step.2.op ≠ .remove :=
    fun step member => op_of_mem_stepsOf member ▸ adds
  have removing : ∀ step ∈ stepsOf macros target .remove, step.2.op = .remove :=
    fun step member => op_of_mem_stepsOf member
  rw [steps_eq, flags_append, flags_append, flags_of_adding (adding .define (by decide)),
    flags_of_adding (adding .append (by decide)), flags_of_removing removing]
  simp only [flatMap_stepsOf]

theorem get_fold_words (list : FlagList) (target : Target) (macros : List TargetMacro) :
    list.get (target.fold macros).1 =
      (list.get target ++ words macros target.name .define list ++
        words macros target.name .append list).filter
          (· ∉ words macros target.name .remove list) := by
  rw [get_fold, flags_steps]

/-- The macros that hold flags of a target, with their positions in a list, in the order in
which they take effect. -/
def inOrder (macros : List TargetMacro) (target : String) : List (TargetMacro × Nat) :=
  MacroOp.all.flatMap fun op => FlagSuffix.all.flatMap fun suffix =>
    macros.zipIdx.filter fun (m, _) => m.op = op ∧ m.suffix? target = some suffix

theorem map_index_steps (macros : List TargetMacro) (target : String) :
    (steps macros target).map (fun (_, m) => m.index) =
      (inOrder macros target).map fun (m, _) => m.index := by
  rw [steps, inOrder, List.map_flatMap, List.map_flatMap]
  apply List.flatMap_congr
  intro op _
  rw [List.map_flatMap, List.map_flatMap]
  apply List.flatMap_congr
  intro suffix known
  have listed : macros = macros.zipIdx.map Prod.fst := (List.zipIdx_map_fst 0 macros).symm
  rw [holding_eq known, List.map_map]
  conv_lhs => rw [listed, List.filter_map, List.map_map]
  rfl

theorem Before.irrefl {target : String} (entry : TargetMacro × Nat) :
    ¬ Before target entry entry := by
  simp [Before]

/-- The passes go by operation, and within one by suffix, and within one by position. -/
theorem pairwise_inOrder (macros : List TargetMacro) (target : String) :
    (inOrder macros target).Pairwise (Before target) := by
  have rank_of {op : MacroOp} {suffix : FlagSuffix} {entry : TargetMacro × Nat}
      (h : entry ∈ macros.zipIdx.filter fun (m, _) =>
        m.op = op ∧ m.suffix? target = some suffix) :
      entry.1.op = op ∧ entry.1.suffixRank target = FlagSuffix.all.idxOf suffix := by
    have held := (List.mem_filter.1 h).2
    simp only [decide_eq_true_eq] at held
    exact ⟨held.1, by rw [suffixRank, held.2, Option.elim_some]⟩
  rw [inOrder, List.pairwise_flatMap]
  constructor
  · intro op _
    rw [List.pairwise_flatMap]
    constructor
    · intro suffix _
      have positions : macros.zipIdx.Pairwise fun first second => first.2 < second.2 := by
        have sorted : (macros.zipIdx.map Prod.snd).Pairwise (· < ·) := by
          rw [List.zipIdx_map_snd]
          exact List.pairwise_lt_range'
        exact List.pairwise_map.1 sorted
      refine (positions.filter _).imp_of_mem fun {first second} mem₁ mem₂ lt => ?_
      obtain ⟨rfl, rank⟩ := rank_of mem₁
      obtain ⟨op, rank'⟩ := rank_of mem₂
      exact .inr ⟨by rw [op], .inr ⟨rank.trans rank'.symm, lt⟩⟩
    · have suffixes : FlagSuffix.all.Pairwise fun a b =>
          FlagSuffix.all.idxOf a < FlagSuffix.all.idxOf b := by decide
      refine suffixes.imp fun {a b} lt first mem₁ second mem₂ => ?_
      obtain ⟨rfl, rank⟩ := rank_of mem₁
      obtain ⟨op, rank'⟩ := rank_of mem₂
      exact .inr ⟨by rw [op], .inl (by rw [rank, rank']; exact lt)⟩
  · have operations : MacroOp.all.Pairwise fun a b => a.rank < b.rank := by decide
    refine operations.imp fun {a b} lt first mem₁ second mem₂ => ?_
    obtain ⟨_, -, mem₁⟩ := List.mem_flatMap.1 mem₁
    obtain ⟨_, -, mem₂⟩ := List.mem_flatMap.1 mem₂
    exact .inl (by rw [(rank_of mem₁).1, (rank_of mem₂).1]; exact lt)

/-- The passes meet every macro that holds flags of the target, each once. -/
theorem perm_inOrder (macros : List TargetMacro) (target : String) :
    (inOrder macros target).Perm
      (macros.zipIdx.filter fun (m, _) => (m.suffix? target).isSome) := by
  have distinct : (inOrder macros target).Nodup := by
    refine (pairwise_inOrder macros target).imp fun {first second} before => ?_
    rintro rfl
    exact Before.irrefl first before
  have distinct' : macros.zipIdx.Nodup := by
    refine List.Nodup.of_map Prod.snd ?_
    rw [List.zipIdx_map_snd]
    exact List.nodup_range'
  rw [List.perm_ext_iff_of_nodup distinct (distinct'.filter _)]
  rintro ⟨m, position⟩
  simp only [inOrder, List.mem_flatMap, List.mem_filter, decide_eq_true_eq,
    Option.isSome_iff_exists]
  constructor
  · rintro ⟨_, -, suffix, -, member, -, held⟩
    exact ⟨member, suffix, held⟩
  · rintro ⟨member, suffix, held⟩
    exact ⟨m.op, m.op.mem_all, suffix, (suffix?_eq_some_iff.1 held).1, member, rfl, held⟩

/-- What folding macros into a target comes to. -/
structure Folded (target : Target) (macros : List TargetMacro) (result : Target × List Nat) :
    Prop where
  /-- What is defined takes effect first, and what is removed last. -/
  operations : MacroOp.all = [.define, .append, .remove]
  /-- The suffixes are five, and say what the words of a macro stand for. -/
  table : FlagSuffix.IsTable FlagSuffix.all
  /-- A macro holds flags of the target if it has one branch, and its name is that of the target
  with a suffix after it. -/
  holds : ∀ (m : TargetMacro) suffix, m.suffix? target.name = some suffix ↔
    suffix ∈ FlagSuffix.all ∧ m.value.branches.length = 1 ∧
      m.value.name = target.name ++ suffix.text
  /-- What is defined comes after what was there, and what is appended after that; of all
  these only the words stay that no macro removes. -/
  flags : ∀ list : FlagList, list.get result.1 =
    (list.get target ++ words macros target.name .define list ++
      words macros target.name .append list).filter
        (· ∉ words macros target.name .remove list)
  name : result.1.name = target.name
  feature : result.1.feature = target.feature
  sources : result.1.sources = target.sources
  kwargs : result.1.kwargs = target.kwargs
  /-- The places are those of the macros that hold flags of the target, each once. -/
  places : ∃ order : List (TargetMacro × Nat),
    order.Perm (macros.zipIdx.filter fun (m, _) => (m.suffix? target.name).isSome) ∧
      order.Pairwise (Before target.name) ∧ result.2 = order.map fun (m, _) => m.index

/-- Folding changes the three lists of flags as its macros say, in the order of operations,
suffixes and macros, and changes nothing else. -/
theorem folded_fold (target : Target) (macros : List TargetMacro) :
    Folded target macros (target.fold macros) := by
  obtain ⟨uses, cxxFlags, cFlags, rest⟩ := fold_eq target macros
  exact
    { operations := rfl
      table := FlagSuffix.isTable_all
      holds := fun m suffix => by rw [suffix?_eq_some_iff, Conditional.isTagged_eq_false_iff]
      flags := fun list => get_fold_words list target macros
      name := by rw [rest]
      feature := by rw [rest]
      sources := by rw [rest]
      kwargs := by rw [rest]
      places := ⟨inOrder macros target.name, perm_inOrder macros target.name,
        pairwise_inOrder macros target.name, map_index_steps macros target.name⟩ }

/-- A word that is removed under one suffix does not come back under the other one of its
list, wherever the macros stand. -/
example :
    let m (index : Nat) (op : MacroOp) (name value : String) : TargetMacro :=
      ⟨index, op, { name, default := value }⟩
    let (target, places) := ({ name := "Foo", feature := .atlasLibrary, uses := ["c"] } : Target).fold
      [m 0 .remove "Foolinkopts" "-lb c", m 1 .append "Foolinkopts" "-la",
       m 4 .append "Foo_shlibflags" "-lb -ld", m 7 .define "Foo_shlibflags" "e -lb"]
    target.uses = ["e", "a", "d"] ∧ places = [7, 1, 4, 0] := by
  decide +kernel

end TargetMacro

end Requirements
