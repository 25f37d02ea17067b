import Requirements.Proofs.Folding

/-!
# Macros filed in a table

The macros of a file can be filed while its statements are gone through: each is put at the end of
the bucket of every target name that its own name starts with. A bucket that is found in this
table is the one that `MacroBuckets.get` picks out of all macros (`bucket_collect`). Filing keeps
every macro that a target has a use for, so that `fold_bucket_collect` can leave the table out: a
target that is folded with its bucket is the one that is folded with all macros of the file.
-/

namespace Requirements

/-- Macros filed under target names. -/
abbrev MacroTable := KeyMap (List TargetMacro)

namespace MacroTable

/-- The macros that are filed under a name, in order. -/
def bucket (table : MacroTable) (name : String) : List TargetMacro := (table.find? name).getD []

/-- Put a macro at the end of the bucket of a name. -/
def push (table : MacroTable) (name : String) (m : TargetMacro) : MacroTable :=
  table.insert name (table.bucket name ++ [m])

/-- File a macro under each of the names that its own name starts with. -/
def file (names : List String) (table : MacroTable) (m : TargetMacro) : MacroTable :=
  (names.filter fun name => m.belongsTo name).foldl (fun table name => table.push name m) table

/-- Take in the statement at a place, which is filed if it is a macro. -/
def take (names : List String) (table : MacroTable) (entry : Statement × Nat) : MacroTable :=
  match TargetMacro.ofEntry entry with
  | some m => table.file names m
  | none => table

/-- The macros among statements, filed under names. -/
def collect (statements : List Statement) (names : List String) : MacroTable :=
  statements.zipIdx.foldl (take names) .empty

variable {names : List String}

theorem bucket_push (table : MacroTable) (name other : String) (m : TargetMacro) :
    (table.push name m).bucket other = table.bucket other ++ if name = other then [m] else [] := by
  by_cases same : name = other
  · subst same
    simp [push, bucket]
  · simp [push, bucket, same]

/-- A macro that is put under names is put under a name as often as it is among them. -/
theorem bucket_foldl_push (names : List String) (table : MacroTable) (m : TargetMacro)
    (name : String) :
    (names.foldl (fun table name => table.push name m) table).bucket name =
      table.bucket name ++ List.replicate (names.count name) m := by
  induction names generalizing table with
  | nil => simp
  | cons first names ih =>
    rw [List.foldl_cons, ih, bucket_push, List.append_assoc]
    by_cases same : first = name
    · rw [if_pos same, same, List.count_cons_self, List.replicate_succ]
      rfl
    · rw [if_neg same, List.count_cons_of_ne same]
      rfl

theorem bucket_file (table : MacroTable) (m : TargetMacro) (name : String) :
    (table.file names m).bucket name =
      table.bucket name ++
        if m.belongsTo name then List.replicate (names.count name) m else [] := by
  rw [file, bucket_foldl_push]
  by_cases belongs : m.belongsTo name = true
  · have all : (names.filter fun name => m.belongsTo name).count name = names.count name :=
      List.count_filter belongs
    rw [if_pos belongs, all]
  · have none : name ∉ names.filter fun name => m.belongsTo name := by
      simp [belongs]
    rw [if_neg belongs, List.count_eq_zero.2 none, List.replicate_zero]

/-- Going through statements adds to a bucket what belongs to its name, in order. -/
theorem bucket_foldl_take (table : MacroTable) (entries : List (Statement × Nat))
    (name : String) :
    (entries.foldl (take names) table).bucket name =
      table.bucket name ++ (entries.filterMap TargetMacro.ofEntry).flatMap fun m =>
        if m.belongsTo name then List.replicate (names.count name) m else [] := by
  induction entries generalizing table with
  | nil => simp
  | cons entry entries ih =>
    rw [List.foldl_cons, ih, take]
    cases read : TargetMacro.ofEntry entry with
    | none => rw [List.filterMap_cons_none read]
    | some m =>
      rw [bucket_file, List.filterMap_cons_some read, List.flatMap_cons, List.append_assoc]

/-- A look-up in the table finds what is picked out of the macros without it. -/
theorem bucket_collect (statements : List Statement) (names : List String) (name : String) :
    (collect statements names).bucket name =
      (MacroBuckets.ofStatements statements names).get name := by
  rw [collect, bucket_foldl_take, ← TargetMacro.ofStatements_eq]
  rfl

/-- Of different names, each has the macros whose names start with it for its bucket, and for a
target of this name these are as good as all macros. -/
theorem fold_bucket_collect (statements : List Statement) (distinct : names.Nodup)
    {target : Target} (listed : target.name ∈ names) :
    let macros := TargetMacro.ofStatements statements
    let bucket := (collect statements names).bucket target.name
    bucket = (MacroBuckets.ofStatements statements names).get target.name ∧
      bucket = macros.filter (fun m => Text.startsWith m.value.name target.name) ∧
      target.fold bucket = target.fold macros := by
  intro macros bucket
  have same := bucket_collect statements names target.name
  have once := List.count_eq_one_of_mem distinct listed
  have picked : bucket = macros.filter (TargetMacro.belongsTo target.name) :=
    same.trans (MacroBuckets.get_of_count_eq_one once)
  refine ⟨same, picked, ?_⟩
  rw [picked, Target.fold, TargetMacro.steps_filter_belongsTo, Target.fold]

/-- One name goes on like a suffix behind another one, and one is empty and so begins all macros. -/
theorem fold_bucket_collect_prefixes :
    let names := ["Foo_pp", "", "Foo"]
    let statements : List Statement :=
      [.setting .appendMacro { name := "Foo_pp_cppflags", default := "-DA" },
       .author "Foo",
       .setting .prependMacro { name := "Foolinkopts", default := "-la" },
       .setting .removeMacro { name := "linkopts", default := "-lb" },
       .setting .defineMacro { name := "Foo_pplinkopts", default := "-lb -la" },
       .setting .defineMacro { name := "Foolinkopts", default := "-lc" }]
    let target : Target := { name := "Foo", feature := .atlasLibrary, uses := ["b"] }
    let macros := TargetMacro.ofStatements statements
    let bucket := (collect statements names).bucket target.name
    names.Nodup ∧ target.name ∈ names ∧ macros.map TargetMacro.index = [0, 3, 4, 5] ∧
      bucket.map TargetMacro.index = [0, 4, 5] ∧ target.fold bucket = target.fold macros ∧
      (target.fold bucket).1.uses = ["b", "c"] ∧ (target.fold bucket).2 = [5, 0] := by
  intro names statements target macros bucket
  have distinct : names.Nodup := by decide
  have listed : target.name ∈ names := by decide
  exact ⟨distinct, listed, by decide +kernel, by decide +kernel,
    (fold_bucket_collect statements distinct listed).2.2, by decide +kernel, by decide +kernel⟩

end MacroTable

end Requirements
