import Requirements.Graph.Analysis
import Requirements.Proofs.FirstPlaces
import Requirements.Proofs.Folding

/-!
# Declared targets

Declarations are taken in one at a time: the first one of a name makes a target and
folds its macros, every further one adds sources and switches. `Declared.Follows` is
what a declaration keeps, and `follows_declare` what holds of all declarations of a
file. The targets stand in the order of their first declarations, have the flags that
their steps make, and the places that they fold are those of their steps.
-/

namespace Requirements

namespace Graph

theorem mem_declarations {kind : TargetKind} {decl : TargetDecl} {statements : List Statement} :
    (kind, decl) ∈ declarations statements ↔ .target kind decl ∈ statements := by
  rw [declarations, List.mem_filterMap]
  constructor
  · rintro ⟨statement, member, same⟩
    cases statement with
    | target =>
      obtain ⟨rfl, rfl⟩ := Prod.mk.inj (Option.some.inj same)
      exact member
    | _ => cases same
  · exact fun member => ⟨_, member, rfl⟩

theorem mem_declaredNames {name : String} {statements : List Statement} :
    name ∈ declaredNames statements ↔
      ∃ kind sources, .target kind ⟨name, sources⟩ ∈ statements := by
  rw [declaredNames, List.mem_eraseDups, List.mem_map]
  constructor
  · rintro ⟨⟨kind, name, sources⟩, member, rfl⟩
    exact ⟨kind, sources, mem_declarations.1 member⟩
  · rintro ⟨kind, sources, member⟩
    exact ⟨(kind, ⟨name, sources⟩), mem_declarations.2 member, rfl⟩

/-- The source words of a declaration, sorted. -/
def sourceList (decl : TargetDecl) : SourceList :=
  SourceList.ofWords (some SourceList.defaultDir) decl.sources

/-- The sorted source words of the declarations of a name, in order. -/
def sourceLists (declarations : List (TargetKind × TargetDecl)) (name : String) :
    List SourceList :=
  (declarations.filter fun (_, decl) => decl.name == name).map fun (_, decl) => sourceList decl

/-- A target is made of source words and of steps on its flags: nothing of them is missing
and nothing else has come in. -/
structure Declared.MadeOf (target : Target) (lists : List SourceList)
    (steps : List (FlagSuffix × TargetMacro)) : Prop where
  sources : target.sources = lists.flatMap SourceList.sources
  switches : (target.kwarg? Target.switchesKey).getD [] = lists.flatMap SourceList.switches
  flags : ∀ list : FlagList, list.get target = TargetMacro.flags list steps []

/-- What is true of the declared targets after some declarations, given the macros that
are filed under names. -/
structure Declared.Follows (buckets : MacroBuckets) (declarations : List (TargetKind × TargetDecl))
    (declared : Declared) : Prop where
  names : declared.targets.names = (declarations.map fun (_, decl) => decl.name).eraseDups
  folded : declared.folded = declared.targets.names.flatMap fun name =>
    (TargetMacro.steps (buckets.get name) name).map fun (_, m) => m.index
  made : ∀ name target, declared.targets.get? name = some target →
    Declared.MadeOf target (sourceLists declarations name)
      (TargetMacro.steps (buckets.get name) name)

theorem sourceLists_concat (declarations : List (TargetKind × TargetDecl)) (kind : TargetKind)
    (decl : TargetDecl) (name : String) :
    sourceLists (declarations ++ [(kind, decl)]) name =
      if decl.name = name then sourceLists declarations name ++ [sourceList decl]
      else sourceLists declarations name := by
  by_cases h : decl.name = name <;> simp [sourceLists, h]

theorem sourceLists_of_not_mem {declarations : List (TargetKind × TargetDecl)} {name : String}
    (h : name ∉ declarations.map fun (_, decl) => decl.name) :
    sourceLists declarations name = [] := by
  rw [sourceLists, List.map_eq_nil_iff, List.filter_eq_nil_iff]
  intro declaration member same
  exact h (List.mem_map.2 ⟨declaration, member, eq_of_beq same⟩)

@[simp] theorem get_extendKwarg (list : FlagList) (target : Target) (key : String)
    (values : List String) : list.get (target.extendKwarg key values) = list.get target := by
  unfold Target.extendKwarg
  split
  · rfl
  · cases list <;> rfl

namespace Declared

@[simp] theorem sources_extendKwarg (target : Target) (key : String) (values : List String) :
    (target.extendKwarg key values).sources = target.sources := by
  unfold Target.extendKwarg
  split <;> rfl

/-- Extending an argument by nothing does not even create it. -/
theorem getD_kwarg?_extendKwarg (target : Target) (key : String) (values : List String) :
    ((target.extendKwarg key values).kwarg? key).getD [] =
      (target.kwarg? key).getD [] ++ values := by
  rw [Target.extendKwarg]
  split
  · rename_i empty
    rw [List.isEmpty_iff.1 empty, List.append_nil]
  · simp [Target.kwarg?]

/-- The target of a name that is declared for the first time, before its macros. -/
def fresh (profile : Profile) (kind : TargetKind) (decl : TargetDecl) : Target :=
  { name := decl.name, feature := profile.defaultFeature kind,
    sources := (sourceList decl).sources : Target }.extendKwarg Target.switchesKey
      (sourceList decl).switches

/-- The target of a name that is declared again. -/
def extended (decl : TargetDecl) (target : Target) : Target :=
  { target with sources := target.sources ++ (sourceList decl).sources }.extendKwarg
    Target.switchesKey (sourceList decl).switches

@[simp] theorem name_fresh (profile : Profile) (kind : TargetKind) (decl : TargetDecl) :
    (fresh profile kind decl).name = decl.name := by
  simp [fresh]

theorem madeOf_fresh (profile : Profile) (kind : TargetKind) (decl : TargetDecl) :
    MadeOf (fresh profile kind decl) [sourceList decl] [] := by
  refine ⟨?_, ?_, fun list => ?_⟩
  · simp [fresh]
  · rw [fresh, getD_kwarg?_extendKwarg]
    simp [Target.kwarg?]
  · rw [fresh, get_extendKwarg]
    cases list <;> rfl

/-- Folding adds the steps of the macros, and leaves the sources alone. -/
theorem MadeOf.fold {target : Target} {lists : List SourceList} (h : MadeOf target lists [])
    (macros : List TargetMacro) :
    MadeOf (target.fold macros).1 lists (TargetMacro.steps macros target.name) := by
  obtain ⟨uses, cxxFlags, cFlags, folded⟩ := TargetMacro.fold_eq target macros
  refine ⟨?_, ?_, fun list => ?_⟩
  · rw [folded]
    exact h.sources
  · rw [folded]
    exact h.switches
  · rw [TargetMacro.get_fold, h.flags]
    rfl

/-- A further declaration adds its source words, and leaves the flags alone. -/
theorem MadeOf.extended {target : Target} {lists : List SourceList}
    {steps : List (FlagSuffix × TargetMacro)} (h : MadeOf target lists steps)
    (decl : TargetDecl) :
    MadeOf (extended decl target) (lists ++ [sourceList decl]) steps := by
  refine ⟨?_, ?_, fun list => ?_⟩
  · simp [Declared.extended, h.sources]
  · have switches := h.switches
    rw [Target.kwarg?] at switches
    rw [Declared.extended, getD_kwarg?_extendKwarg, Target.kwarg?]
    simp [switches]
  · rw [Declared.extended, get_extendKwarg, ← h.flags list]
    cases list <;> rfl

variable {profile : Profile} {buckets : MacroBuckets} {declared : Declared} {kind : TargetKind}
variable {decl : TargetDecl}

theorem add_of_mem (h : decl.name ∈ declared.targets.names) :
    declared.add profile buckets (kind, decl) =
      { declared with targets := declared.targets.modify decl.name (extended decl) } := by
  obtain ⟨target, found⟩ := TargetSet.get?_of_mem_names h
  simp only [add, found]
  rfl

theorem add_of_not_mem (h : decl.name ∉ declared.targets.names) :
    declared.add profile buckets (kind, decl) =
      { targets := declared.targets.insert
          ((fresh profile kind decl).fold (buckets.get decl.name)).1
        folded := declared.folded ++
          ((fresh profile kind decl).fold (buckets.get decl.name)).2 } := by
  simp only [add, TargetSet.get?_eq_none_iff.2 h]
  rfl

variable {declarations : List (TargetKind × TargetDecl)}

/-- A further declaration keeps what is true of the declared targets. -/
theorem Follows.add (h : declared.Follows buckets declarations) (profile : Profile)
    (kind : TargetKind) (decl : TargetDecl) :
    (declared.add profile buckets (kind, decl)).Follows buckets
      (declarations ++ [(kind, decl)]) := by
  have names : ((declarations ++ [(kind, decl)]).map fun (_, decl) => decl.name).eraseDups =
      if decl.name ∈ declared.targets.names then declared.targets.names
      else declared.targets.names ++ [decl.name] := by
    rw [h.names]
    simp only [List.map_append, List.map_cons, List.map_nil, eraseDups_concat, List.mem_eraseDups]
  by_cases present : decl.name ∈ declared.targets.names
  · rw [add_of_mem present]
    refine ⟨?_, by simpa using h.folded, ?_⟩
    · rw [names, if_pos present, TargetSet.names_modify]
    intro name target found
    rw [TargetSet.get?_modify] at found
    rw [sourceLists_concat]
    split at found
    · rename_i same
      obtain ⟨old, hold, rfl⟩ := Option.map_eq_some_iff.1 found
      have made := (h.made name old (same ▸ hold)).extended decl
      rw [if_pos same]
      exact ⟨made.sources, made.switches, fun list => by rw [← made.flags]; cases list <;> rfl⟩
    · rename_i other
      rw [if_neg other]
      exact h.made name target found
  · rw [add_of_not_mem present]
    refine ⟨?_, ?_, ?_⟩
    · rw [names, if_neg present]
      simp [present]
    · rw [TargetSet.names_insert, Target.name_fold, name_fresh, if_neg present,
        List.flatMap_append, h.folded]
      simp [Target.fold]
    · intro name target found
      rw [TargetSet.get?_insert, Target.name_fold, name_fresh] at found
      rw [sourceLists_concat]
      split at found
      · rename_i same
        subst same
        obtain rfl := Option.some.inj found
        rw [h.names, List.mem_eraseDups] at present
        rw [if_pos rfl, sourceLists_of_not_mem present, List.nil_append]
        have made := (madeOf_fresh profile kind decl).fold (buckets.get decl.name)
        rwa [name_fresh] at made
      · rename_i other
        rw [if_neg other]
        exact h.made name target found

theorem follows_foldl (profile : Profile) (buckets : MacroBuckets)
    (declarations : List (TargetKind × TargetDecl)) :
    (declarations.foldl (Declared.add profile buckets) {}).Follows buckets declarations := by
  induction declarations using List.reverseRecOn with
  | nil => exact ⟨rfl, rfl, fun name target found => by cases found⟩
  | append_singleton declarations declaration ih =>
    rw [List.foldl_append]
    exact ih.add profile declaration.1 declaration.2

end Declared

theorem follows_declare (profile : Profile) (statements : List Statement) :
    (declare profile statements).Follows
      (MacroBuckets.ofStatements statements (declaredNames statements))
      (declarations statements) :=
  Declared.follows_foldl profile _ _

/-- The declared targets stand in the order of the first declarations of their names. -/
theorem names_declare (profile : Profile) (statements : List Statement) :
    (declare profile statements).targets.names = declaredNames statements :=
  (follows_declare profile statements).names

theorem nodup_declaredNames (statements : List Statement) :
    (declaredNames statements).Nodup :=
  nodup_eraseDups _

/-- The bucket of a declared name makes the steps that all macros of the file make. -/
theorem steps_get_ofStatements {statements : List Statement} {name : String}
    (h : name ∈ declaredNames statements) :
    TargetMacro.steps
      ((MacroBuckets.ofStatements statements (declaredNames statements)).get name) name =
      TargetMacro.steps (TargetMacro.ofStatements statements) name := by
  have once : (declaredNames statements).count name = 1 :=
    List.count_eq_one_of_mem (nodup_declaredNames statements) h
  rw [MacroBuckets.get_of_count_eq_one once]
  exact TargetMacro.steps_filter_belongsTo _ _

/-- The places that the declared targets fold are those of their steps. -/
theorem folded_declare (profile : Profile) (statements : List Statement) :
    (declare profile statements).folded =
      TargetMacro.places statements (declaredNames statements) := by
  rw [(follows_declare profile statements).folded, names_declare, TargetMacro.places]
  apply List.flatMap_congr
  intro name h
  rw [steps_get_ofStatements h]

/-- A declared target is made of all its declarations and of all steps on it. -/
theorem madeOf_declare (profile : Profile) (statements : List Statement) {name : String}
    (h : name ∈ declaredNames statements) :
    ∃ target, (declare profile statements).targets.get? name = some target ∧
      Declared.MadeOf target (sourceLists (declarations statements) name)
        (TargetMacro.steps (TargetMacro.ofStatements statements) name) := by
  obtain ⟨target, found⟩ := TargetSet.get?_of_mem_names (names_declare profile statements ▸ h)
  have made := (follows_declare profile statements).made name target found
  rw [steps_get_ofStatements h] at made
  exact ⟨target, found, made⟩

theorem fold_get_ofStatements {statements : List Statement} {target : Target}
    (h : target.name ∈ declaredNames statements) :
    target.fold
      ((MacroBuckets.ofStatements statements (declaredNames statements)).get target.name) =
      target.fold (TargetMacro.ofStatements statements) := by
  simp only [Target.fold, steps_get_ofStatements h]

theorem Declared.targets_add_congr {profile : Profile} {buckets others : MacroBuckets}
    {declared other : Declared} {declaration : TargetKind × TargetDecl}
    (targets : declared.targets = other.targets)
    (folds : ∀ target : Target, target.name = declaration.2.name →
      (target.fold (buckets.get target.name)).1 = (target.fold (others.get target.name)).1) :
    (declared.add profile buckets declaration).targets =
      (other.add profile others declaration).targets := by
  obtain ⟨kind, decl⟩ := declaration
  by_cases present : decl.name ∈ declared.targets.names
  · rw [add_of_mem present, add_of_mem (targets ▸ present)]
    simp only [targets]
  · rw [add_of_not_mem present, add_of_not_mem (targets ▸ present)]
    have same := folds (fresh profile kind decl) (name_fresh profile kind decl)
    rw [name_fresh] at same
    simp only [targets, same]

/-- The declared targets depend on the declarations, and on the untagged macros of each
operation and name. How these stand among each other does not matter. -/
theorem targets_declare_congr (profile : Profile) {first second : List Statement}
    (same : declarations first = declarations second)
    (macros : ∀ op name, first.filter (Statement.isPlainMacro op name) =
      second.filter (Statement.isPlainMacro op name)) :
    (declare profile first).targets = (declare profile second).targets := by
  have names : declaredNames first = declaredNames second := by
    rw [declaredNames, same, declaredNames]
  have folds (target : Target) (h : target.name ∈ declaredNames first) :
      (target.fold ((MacroBuckets.ofStatements first (declaredNames first)).get target.name)).1 =
        (target.fold
          ((MacroBuckets.ofStatements second (declaredNames second)).get target.name)).1 := by
    rw [fold_get_ofStatements h, fold_get_ofStatements (names ▸ h)]
    apply TargetMacro.fold_congr
    intro op suffix
    rw [TargetMacro.map_value_holding, TargetMacro.map_value_holding, macros]
  have run : ∀ (rest : List (TargetKind × TargetDecl)),
      (∀ declaration ∈ rest, declaration.2.name ∈ declaredNames first) →
      ∀ declared other : Declared, declared.targets = other.targets →
        (rest.foldl (Declared.add profile
          (MacroBuckets.ofStatements first (declaredNames first))) declared).targets =
        (rest.foldl (Declared.add profile
          (MacroBuckets.ofStatements second (declaredNames second))) other).targets := by
    intro rest
    induction rest with
    | nil => exact fun _ _ _ targets => targets
    | cons declaration rest ih =>
      intro known declared other targets
      refine ih (fun d hd => known d (List.mem_cons_of_mem _ hd)) _ _ ?_
      refine Declared.targets_add_congr targets fun target name => folds target ?_
      exact name ▸ known declaration List.mem_cons_self
  unfold declare
  rw [← same]
  refine run _ (fun declaration h => ?_) _ _ rfl
  exact List.mem_eraseDups.2 (List.mem_map.2 ⟨declaration, h, rfl⟩)

end Graph

end Requirements
