import Requirements.Statement.Basic
import Requirements.Target.Basic
import Requirements.Target.Reference

/-!
# Flags from macros

A macro whose name is a target name followed by one of five suffixes holds flags or
libraries of that target, unless it depends on build tags. All definitions take
effect first, then what is appended, then what is removed; within each of these the
suffixes go in the order of their table, and then the macros in the order in which
they were written. Removing takes away every equal flag.
-/

namespace Requirements

/-- How a macro changes a list of flags. -/
inductive MacroOp where
  | define
  | append
  | remove
  deriving DecidableEq, Repr

/-- The list of a target that a macro changes. -/
inductive FlagList where
  | uses
  | cxxFlags
  | cFlags
  deriving DecidableEq, Repr

/-- A macro, and its place among the statements. -/
structure TargetMacro where
  index : Nat
  op : MacroOp
  value : Conditional
  deriving DecidableEq, Repr

/-- A suffix of macro names, the list that it stands for, and whether the words are
those of linker flags. -/
structure FlagSuffix where
  text : String
  list : FlagList
  linked : Bool
  deriving DecidableEq, Repr

namespace MacroOp

/-- The word for an operation. -/
def name : MacroOp → String
  | .define => "set"
  | .append => "append"
  | .remove => "remove"

/-- The operations in the order in which they take effect. -/
def all : List MacroOp := [.define, .append, .remove]

theorem mem_all (op : MacroOp) : op ∈ all := by
  cases op <;> decide

/-- The operation of a setting, if it is one that flags are made of. -/
def ofSetting? : Setting → Option MacroOp
  | .defineMacro => some .define
  | .appendMacro => some .append
  | .removeMacro => some .remove
  | _ => none

end MacroOp

namespace FlagList

/-- The flags of a target in a list. -/
def get (list : FlagList) (target : Target) : List String :=
  match list with
  | .uses => target.uses
  | .cxxFlags => target.cxxFlags
  | .cFlags => target.cFlags

/-- A target with another list. -/
def set (list : FlagList) (target : Target) (flags : List String) : Target :=
  match list with
  | .uses => { target with uses := flags }
  | .cxxFlags => { target with cxxFlags := flags }
  | .cFlags => { target with cFlags := flags }

theorem get_set (list other : FlagList) (target : Target) (flags : List String) :
    other.get (list.set target flags) = if list = other then flags else other.get target := by
  cases list <;> cases other <;> rfl

@[simp] theorem name_set (list : FlagList) (target : Target) (flags : List String) :
    (list.set target flags).name = target.name := by
  cases list <;> rfl

end FlagList

namespace FlagSuffix

/-- The suffixes, in the order in which they take effect. -/
def all : List FlagSuffix :=
  [⟨"linkopts", .uses, true⟩,
   ⟨"_shlibflags", .uses, true⟩,
   ⟨"_pp_cppflags", .cxxFlags, false⟩,
   ⟨"_cxxflags", .cxxFlags, false⟩,
   ⟨"_cflags", .cFlags, false⟩]

/-- The flags that a value holds. -/
def flags (suffix : FlagSuffix) (value : Conditional) : List String :=
  let words := Text.wordsOf value.default
  if suffix.linked then words.map Reference.ofLinkWord else words

end FlagSuffix

namespace TargetMacro

/-- The macros among the statements from which flags are made, in order. -/
def ofStatements (statements : List Statement) : List TargetMacro :=
  statements.zipIdx.filterMap fun (statement, index) =>
    match statement with
    | .setting s value => (MacroOp.ofSetting? s).map fun op => ⟨index, op, value⟩
    | _ => none

/-- Whether a macro is filed under a target: its name starts with that of the target. -/
def belongsTo (target : String) (m : TargetMacro) : Bool := Text.startsWith m.value.name target

/-- The macros that hold flags of a target for an operation and a suffix. -/
def holding (macros : List TargetMacro) (target : String) (op : MacroOp) (suffix : FlagSuffix) :
    List TargetMacro :=
  macros.filter fun m =>
    m.op == op && !m.value.isTagged && m.value.name == target ++ suffix.text

/-- The steps that the macros make on a target, in the order in which they take effect. -/
def steps (macros : List TargetMacro) (target : String) : List (FlagSuffix × TargetMacro) :=
  MacroOp.all.flatMap fun op =>
    FlagSuffix.all.flatMap fun suffix =>
      (holding macros target op suffix).map fun m => (suffix, m)

/-- Change a target by one macro. -/
def apply (target : Target) (suffix : FlagSuffix) (m : TargetMacro) : Target :=
  let flags := suffix.flags m.value
  let old := suffix.list.get target
  suffix.list.set target <|
    match m.op with
    | .define | .append => old ++ flags
    | .remove => old.filter fun flag => !flags.contains flag

end TargetMacro

namespace Target

/-- A target with the flags that macros hold for it, and the places of these macros
in the order in which they took effect. -/
def fold (target : Target) (macros : List TargetMacro) : Target × List Nat :=
  let steps := TargetMacro.steps macros target.name
  (steps.foldl (fun target (suffix, m) => TargetMacro.apply target suffix m) target,
    steps.map fun (_, m) => m.index)

@[simp] theorem name_apply (target : Target) (suffix : FlagSuffix) (m : TargetMacro) :
    (TargetMacro.apply target suffix m).name = target.name := by
  simp [TargetMacro.apply]

/-- Folding keeps the name of a target. -/
@[simp] theorem name_fold (target : Target) (macros : List TargetMacro) :
    (target.fold macros).1.name = target.name := by
  have key : ∀ (steps : List (FlagSuffix × TargetMacro)) (t : Target),
      (steps.foldl (fun target (suffix, m) => TargetMacro.apply target suffix m) t).name =
        t.name := by
    intro steps
    induction steps with
    | nil => intro t; rfl
    | cons step steps ih => intro t; simp [ih]
  exact key _ _

end Target

/-- The macros of a file filed under the names of its targets. A name that is listed
more than once has each of its macros as often. -/
structure MacroBuckets where
  names : List String
  macros : List TargetMacro
  deriving DecidableEq, Repr

namespace MacroBuckets

/-- File the macros among statements under target names. -/
def ofStatements (statements : List Statement) (names : List String) : MacroBuckets :=
  ⟨names, TargetMacro.ofStatements statements⟩

/-- The macros filed under a name, in order. -/
def get (buckets : MacroBuckets) (name : String) : List TargetMacro :=
  buckets.macros.flatMap fun m =>
    if m.belongsTo name then List.replicate (buckets.names.count name) m else []

/-- Whether nothing is filed under any name. -/
def isEmpty (buckets : MacroBuckets) : Bool :=
  buckets.names.all fun name => (buckets.get name).isEmpty

/-- Under a name that is listed once stand the macros that belong to it. -/
theorem get_of_count_eq_one {buckets : MacroBuckets} {name : String}
    (h : buckets.names.count name = 1) :
    buckets.get name = buckets.macros.filter (TargetMacro.belongsTo name) := by
  simp only [get, h, List.replicate_one]
  induction buckets.macros with
  | nil => rfl
  | cons m macros ih =>
    by_cases hm : m.belongsTo name = true
    · simp [hm, ih]
    · simp [hm, ih]

end MacroBuckets

end Requirements
