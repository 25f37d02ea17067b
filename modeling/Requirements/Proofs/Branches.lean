import Requirements.Proofs.Arity
import Requirements.Proofs.FirstPlaces

/-!
# Branches of a conditional value

A value may be set for one tag again and again, and for the tag of the default too. What comes
of it is a map in the order of insertion in which the last value of a tag counts, and the default
stays first. `get?_set` and `tags_set` are the one step, and `lastWins_setAll` is about any
number of them. A directive takes its words two by two, and `read_setting_iff` says which values
it makes.
-/

namespace Requirements

namespace Branch

/-- What was set is found under its tag, and no other tag is touched. -/
theorem find?_setIn (tag value other : String) (branches : List Branch) :
    (setIn tag value branches).find? (·.tag == other) =
      if tag = other then some ⟨tag, value⟩ else branches.find? (·.tag == other) := by
  induction branches with
  | nil => by_cases h : tag = other <;> simp [setIn, h]
  | cons branch rest ih =>
    by_cases first : branch.tag = tag
    · by_cases h : tag = other <;> simp [setIn, first, h]
    · by_cases h : tag = other
      · subst h
        simp [setIn, first, ih]
      · simp [setIn, first, List.find?_cons, ih, h]

/-- Of branches with different tags, each is the one that is found under its tag. -/
theorem find?_eq_some_iff {branches : List Branch} (distinct : (branches.map tag).Nodup)
    {branch : Branch} : branches.find? (·.tag == branch.tag) = some branch ↔ branch ∈ branches := by
  refine ⟨List.mem_of_find?_eq_some, fun member => ?_⟩
  induction branches with
  | nil => cases member
  | cons first rest ih =>
    obtain ⟨fresh, distinct⟩ := List.nodup_cons.1 distinct
    rcases List.mem_cons.1 member with rfl | member
    · simp
    · have other : first.tag ≠ branch.tag := fun same => fresh (same ▸ List.mem_map_of_mem member)
      rw [List.find?_cons_of_neg (by simpa using other), ih distinct member]

end Branch

namespace Conditional

/-- Set a value for tag expressions, one after the other. -/
def setAll (value : Conditional) (pairs : List (String × String)) : Conditional :=
  pairs.foldl (fun value (tag, text) => value.set tag text) value

/-- The last of the values that pairs give for a tag. -/
def lastValue? (pairs : List (String × String)) (tag : String) : Option String :=
  pairs.reverse.lookup tag

/-- The tags of pairs other than that of the default, at their first places. -/
def otherTags (pairs : List (String × String)) : List String :=
  ((pairs.map Prod.fst).filter (· ≠ "default")).eraseDups

/-- A value is an ordered map of its default and of pairs, in which the last value of a tag
counts. -/
structure LastWins (name text : String) (pairs : List (String × String)) (value : Conditional) :
    Prop where
  name : value.name = name
  /-- The default comes first, and then the other tags in the order of their first pairs. -/
  tags : value.branches.map Branch.tag = "default" :: otherTags pairs
  distinct : (value.branches.map Branch.tag).Nodup
  default : value.default = (lastValue? pairs "default").getD text
  get? : ∀ tag, value.get? tag =
    (lastValue? pairs tag).or (if tag = "default" then some text else none)
  /-- The branches are what is found under their tags. -/
  held : ∀ branch, branch ∈ value.branches ↔ value.get? branch.tag = some branch.value
  length : value.branches.length = 1 + (otherTags pairs).length
  isTagged : value.isTagged = true ↔ ∃ pair ∈ pairs, pair.1 ≠ "default"

theorem get?_set (value : Conditional) (tag text other : String) :
    (value.set tag text).get? other = if tag = other then some text else value.get? other := by
  rw [get?, branches_set, Branch.find?_setIn, get?]
  split <;> rfl

theorem tags_set (value : Conditional) (tag text : String) :
    (value.set tag text).branches.map Branch.tag =
      if tag ∈ value.branches.map Branch.tag then value.branches.map Branch.tag
      else value.branches.map Branch.tag ++ [tag] := by
  rw [branches_set, Branch.map_tag_setIn]

theorem setAll_concat (value : Conditional) (pairs : List (String × String)) (tag text : String) :
    value.setAll (pairs ++ [(tag, text)]) = (value.setAll pairs).set tag text :=
  List.foldl_append

theorem name_setAll (value : Conditional) (pairs : List (String × String)) :
    (value.setAll pairs).name = value.name := by
  induction pairs using List.reverseRecOn with
  | nil => rfl
  | append_singleton pairs pair ih => rw [setAll_concat, name_set, ih]

theorem get?_setAll (value : Conditional) (pairs : List (String × String)) (tag : String) :
    (value.setAll pairs).get? tag = (lastValue? pairs tag).or (value.get? tag) := by
  induction pairs using List.reverseRecOn with
  | nil => rfl
  | append_singleton pairs pair ih =>
    obtain ⟨last, text⟩ := pair
    rw [setAll_concat, get?_set, ih, lastValue?, lastValue?, List.reverse_append,
      List.reverse_singleton, List.singleton_append, List.lookup_cons]
    by_cases same : last = tag
    · simp [same]
    · have other : (tag == last) = false := by simpa using Ne.symm same
      rw [if_neg same, other]

/-- Of branches with different tags, each is what is found under its tag. -/
theorem mem_branches_iff {value : Conditional} (distinct : (value.branches.map Branch.tag).Nodup)
    {branch : Branch} :
    branch ∈ value.branches ↔ value.get? branch.tag = some branch.value := by
  rw [← Branch.find?_eq_some_iff distinct, get?, Option.map_eq_some_iff]
  constructor
  · intro found
    exact ⟨branch, found, rfl⟩
  · rintro ⟨⟨tag, value⟩, found, rfl⟩
    obtain rfl : tag = branch.tag := by simpa using List.find?_some found
    exact found

theorem isTagged_iff {value : Conditional} : value.isTagged = true ↔ value.tagged ≠ [] := by
  simp [isTagged]

theorem mem_otherTags {pairs : List (String × String)} {tag : String} :
    tag ∈ otherTags pairs ↔ (∃ text, (tag, text) ∈ pairs) ∧ tag ≠ "default" := by
  simp [otherTags]

theorem otherTags_ne_nil_iff {pairs : List (String × String)} :
    otherTags pairs ≠ [] ↔ ∃ pair ∈ pairs, pair.1 ≠ "default" := by
  constructor
  · intro some
    obtain ⟨tag, member⟩ := List.exists_mem_of_ne_nil _ some
    obtain ⟨⟨text, there⟩, other⟩ := mem_otherTags.1 member
    exact ⟨(tag, text), there, other⟩
  · rintro ⟨⟨tag, text⟩, there, other⟩
    exact List.ne_nil_of_mem (mem_otherTags.2 ⟨⟨text, there⟩, other⟩)

variable (name text : String) (pairs : List (String × String))

/-- Setting adds the tags that are not there yet. -/
theorem tags_setAll :
    ((Conditional.mk name text []).setAll pairs).branches.map Branch.tag =
      "default" :: otherTags pairs := by
  -- The default is there from the start, as if it had been set before all others.
  have all : ((Conditional.mk name text []).setAll pairs).branches.map Branch.tag =
      ("default" :: pairs.map Prod.fst).eraseDups := by
    induction pairs using List.reverseRecOn with
    | nil => rfl
    | append_singleton pairs pair ih =>
      rw [setAll_concat, tags_set, ih, List.map_append, List.map_singleton, ← List.cons_append,
        eraseDups_concat]
      simp only [List.mem_eraseDups]
  rw [all, List.eraseDups_cons, otherTags]
  congr 2
  apply List.filter_congr
  intro tag _
  rw [Bool.eq_iff_iff]
  simp

theorem get?_mk (tag : String) :
    (Conditional.mk name text []).get? tag = if tag = "default" then some text else none := by
  by_cases same : tag = "default"
  · subst same
    rfl
  · simp [get?, branches, Branch.defaultTag, same, Ne.symm same]

/-- However a value with a default is set for tags, it is an ordered map in which the last value
of a tag counts. -/
theorem lastWins_setAll :
    LastWins name text pairs ((Conditional.mk name text []).setAll pairs) := by
  have tags := tags_setAll name text pairs
  have found := get?_setAll (Conditional.mk name text []) pairs
  have named := name_setAll (Conditional.mk name text []) pairs
  generalize (Conditional.mk name text []).setAll pairs = value at tags found named ⊢
  have distinct : (value.branches.map Branch.tag).Nodup := by
    rw [tags, List.nodup_cons]
    exact ⟨by simp [otherTags], nodup_eraseDups _⟩
  have others : value.tagged.map Branch.tag = otherTags pairs := (List.cons.inj tags).2
  have default : some value.default = (lastValue? pairs "default").or (some text) :=
    found "default"
  exact
    { name := named
      tags
      distinct
      default := by
        rw [Option.or_some] at default
        exact Option.some.inj default
      get? := fun tag => by rw [found, get?_mk]
      held := fun branch => mem_branches_iff distinct
      length := by
        have count := congrArg List.length tags
        rw [List.length_map, List.length_cons] at count
        rw [count, Nat.add_comm]
      isTagged := by
        rw [isTagged_iff, ← otherTags_ne_nil_iff, ← others, ne_eq, ne_eq, List.map_eq_nil_iff] }

/-- Words are pairs and at most one word more. -/
theorem exists_pairs (words : List String) : ∃ (pairs : List (String × String)) (left : List String),
    left.length ≤ 1 ∧ words = pairs.flatMap (fun pair => [pair.1, pair.2]) ++ left := by
  match words with
  | [] => exact ⟨[], [], by simp⟩
  | [tag] => exact ⟨[], [tag], by simp⟩
  | tag :: text :: rest =>
    obtain ⟨pairs, left, few, rfl⟩ := exists_pairs rest
    exact ⟨(tag, text) :: pairs, left, few, rfl⟩

/-- A word that is left over is dropped. -/
theorem setPairs_flatMap (value : Conditional) {left : List String} (few : left.length ≤ 1) :
    value.setPairs (pairs.flatMap (fun pair => [pair.1, pair.2]) ++ left) =
      value.setAll pairs := by
  induction pairs generalizing value with
  | nil =>
    match left with
    | [] | [_] => rfl
    | _ :: _ :: _ => simp at few
  | cons pair pairs ih => exact ih (value.set pair.1 pair.2)

end Conditional

/-- A setting is read from a name, a default and pairs of a tag and a value. One word more is
dropped. -/
theorem Directive.read_setting_iff (setting : Setting) (visibility : Visibility)
    (words : List String) (result : Option Statement) :
    (Directive.setting setting).read visibility words = .ok result ↔
      ∃ name text pairs left, left.length ≤ 1 ∧
        words = name :: text :: (pairs.flatMap (fun pair => [pair.1, pair.2]) ++ left) ∧
        result = some (.setting setting ((Conditional.mk name text []).setAll pairs)) := by
  constructor
  · intro read
    rcases words with _ | ⟨name, _ | ⟨text, rest⟩⟩
    · cases read
    · cases read
    · obtain ⟨pairs, left, few, rfl⟩ := Conditional.exists_pairs rest
      refine ⟨name, text, pairs, left, few, rfl, ?_⟩
      rw [← Conditional.setPairs_flatMap pairs _ few]
      exact (Except.ok.inj read).symm
  · rintro ⟨name, text, pairs, left, few, rfl, rfl⟩
    rw [← Conditional.setPairs_flatMap pairs _ few]
    rfl

/-- A value with a default that is set for tags, in whatever order and however often, is an
ordered map in which the last value of a tag counts. The values that settings are read with are
those that the pairs of words after the default make, and one word more is dropped. -/
theorem Conditional.lastWins :
    (∀ (name text : String) (pairs : List (String × String)),
      LastWins name text pairs ((Conditional.mk name text []).setAll pairs)) ∧
    ∀ (setting : Setting) (visibility : Visibility) (words : List String)
      (result : Option Statement),
      (Directive.setting setting).read visibility words = .ok result ↔
        ∃ name text pairs left, left.length ≤ 1 ∧
          words = name :: text :: (pairs.flatMap (fun pair => [pair.1, pair.2]) ++ left) ∧
          result = some (.setting setting ((Conditional.mk name text []).setAll pairs)) :=
  ⟨lastWins_setAll, Directive.read_setting_iff⟩

/-- The default is set in its place, a tag is set twice, and the last word has no partner. -/
example :
    (Directive.setting .defineMacro).read .exported
      ["lib", "a", "gcc43", "b", "default", "c", "opt&dbg", "d", "gcc43", "e", "slc5"] =
        .ok (some (.setting .defineMacro ⟨"lib", "c", [⟨"gcc43", "e"⟩, ⟨"opt&dbg", "d"⟩]⟩)) := by
  decide +kernel

end Requirements
