import Requirements.Text.Words

/-!
# Values that depend on build tags

A conditional value has a default and branches for tag expressions. Each branch is
kept under its expression as written; the word `default` names the default. A
second value for the same expression replaces the first in its place, so no
expression occurs twice and the others stand in the order in which they came.
-/

namespace Requirements

/-- A value for a tag expression. -/
structure Branch where
  tag : String
  value : String
  deriving DecidableEq, Repr

namespace Branch

/-- The expression that names the default. -/
def defaultTag : String := "default"

/-- Whether a branch is the default. -/
def isDefault (branch : Branch) : Bool := branch.tag == defaultTag

/-- The build tags that an expression joins by `&`. -/
def terms (branch : Branch) : List String :=
  ((branch.tag.toList.splitOn '&').map Text.trim).filterMap fun term =>
    if term.isEmpty then none else some (.ofList term)

/-- Set the value of a tag: in its place if it has one, else at the end. -/
def setIn (tag value : String) : List Branch → List Branch
  | [] => [⟨tag, value⟩]
  | branch :: rest =>
    if branch.tag = tag then ⟨tag, value⟩ :: rest else branch :: setIn tag value rest

/-- Setting a value adds at most its own tag, at the end. -/
theorem map_tag_setIn (tag value : String) (branches : List Branch) :
    (setIn tag value branches).map Branch.tag =
      if tag ∈ branches.map Branch.tag then branches.map Branch.tag
      else branches.map Branch.tag ++ [tag] := by
  induction branches with
  | nil => simp [setIn]
  | cons branch rest ih =>
    by_cases h : branch.tag = tag
    · simp [setIn, h]
    · have hne : ¬ tag = branch.tag := fun heq => h heq.symm
      simp only [setIn, h, if_false, List.map_cons, ih, List.mem_cons, hne, false_or]
      split <;> simp

end Branch

/-- A named value: its default, and the branches for other tag expressions. -/
structure Conditional where
  name : String
  default : String
  tagged : List Branch := []
  deriving DecidableEq, Repr

namespace Conditional

/-- The branches, the default first. -/
def branches (value : Conditional) : List Branch :=
  ⟨Branch.defaultTag, value.default⟩ :: value.tagged

/-- Set the value for a tag expression. -/
def set (value : Conditional) (tag text : String) : Conditional :=
  if tag = Branch.defaultTag then { value with default := text }
  else { value with tagged := Branch.setIn tag text value.tagged }

/-- The value for a tag expression. -/
def get? (value : Conditional) (tag : String) : Option String :=
  (value.branches.find? (·.tag == tag)).map (·.value)

/-- Whether the value depends on build tags. -/
def isTagged (value : Conditional) : Bool := !value.tagged.isEmpty

/-- Set values from words taken two by two. A last word without a partner is left. -/
def setPairs (value : Conditional) : List String → Conditional
  | tag :: text :: rest => (value.set tag text).setPairs rest
  | _ => value

/-- The last word, if the words do not pair up. -/
def unpaired? : List String → Option String
  | _ :: _ :: rest => unpaired? rest
  | [tag] => some tag
  | [] => none

theorem isTagged_iff_two_le {value : Conditional} :
    value.isTagged = true ↔ 2 ≤ value.branches.length := by
  cases tagged : value.tagged <;> simp [isTagged, branches, tagged]

theorem isTagged_eq_false_iff {value : Conditional} :
    value.isTagged = false ↔ value.branches.length = 1 := by
  simp [isTagged, branches]

@[simp] theorem name_set (value : Conditional) (tag text : String) :
    (value.set tag text).name = value.name := by
  unfold set
  split <;> rfl

/-- The branch list behaves as if the default were one branch among others. -/
theorem branches_set (value : Conditional) (tag text : String) :
    (value.set tag text).branches = Branch.setIn tag text value.branches := by
  by_cases h : tag = Branch.defaultTag
  · simp [set, branches, Branch.setIn, h]
  · simp [set, branches, Branch.setIn, h, Ne.symm h]

end Conditional

end Requirements
