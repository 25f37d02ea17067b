import Requirements.Proofs.Builder

/-!
# Regular names of libraries

Two spellings are irregular. One is deleted from the name of a library and then the other one
is replaced, each by a single pass from the left, so that a deletion may join what stood around
it to a further match. No irregular spelling is left nevertheless. The end of what is put in
for the second spelling occurs in neither of them, and the first spelling holds the second one.
`regular_names` says this of every name, and of the libraries in a graph wherever they have
come from.
-/

namespace Requirements

namespace Text

/-- Every match of `old` in a text has been replaced by `new`. A match begins at the first place
where there can be one, and what it covers takes part in no other match. -/
inductive Replaced (old new : List Char) : List Char → List Char → Prop
  | nil : Replaced old new [] []
  | found {text result : List Char} (later : Replaced old new text result) :
    Replaced old new (old ++ text) (new ++ result)
  | kept {c : Char} {text result : List Char} (here : ¬ old <+: c :: text)
    (later : Replaced old new text result) : Replaced old new (c :: text) (c :: result)

section

variable {old new text result : List Char}

theorem replaced_replaceFrom (filled : old ≠ []) (new : List Char) (skip : Nat)
    (text : List Char) :
    Replaced old new (text.drop skip) (replaceFrom old new skip text) := by
  fun_induction replaceFrom old new skip text with
  | case1 skip => simpa using Replaced.nil
  | case2 skip c text ih => exact ih
  | case3 c text found ih =>
    obtain ⟨rest, split⟩ := List.isPrefixOf_iff_prefix.1 found
    obtain ⟨first, more, rfl⟩ := List.exists_cons_of_ne_nil filled
    obtain ⟨rfl, rfl⟩ := List.cons.inj split
    simpa using ih.found
  | case4 c text missed ih =>
    exact .kept (fun found => missed (List.isPrefixOf_iff_prefix.2 found)) ih

theorem replaced_replaceAll (filled : old ≠ []) (new text : List Char) :
    Replaced old new text (replaceAll old new text) :=
  replaced_replaceFrom filled new 0 text

/-- Where there is no match, nothing is replaced. -/
theorem Replaced.eq_self (h : Replaced old new text result) (none : ¬ old <:+: text) :
    result = text := by
  induction h with
  | nil => rfl
  | found later => exact absurd (List.prefix_append _ _).isInfix none
  | kept here later ih => rw [ih fun there => none (there.trans (List.suffix_cons _ _).isInfix)]

end

section

variable {front rest text result : List Char} {last : Char}

/-- What is put in is a front of what was there, and a character after it. A text that begins the
result and does not hold this character has begun the text before. -/
theorem Replaced.prefix_of_clean (h : Replaced (front ++ rest) (front ++ [last]) text result)
    {piece : List Char} (clean : last ∉ piece) (begins : piece <+: result) : piece <+: text := by
  induction h generalizing piece with
  | nil => exact begins
  | @found text result later ih =>
    have inside : piece <+: front := by
      rcases List.prefix_or_prefix_of_prefix begins (List.prefix_append _ result) with
        within | beyond
      · rcases List.prefix_concat_iff.1 within with rfl | inside
        · simp at clean
        · exact inside
      · exact absurd (beyond.subset (by simp)) clean
    -- The piece lies in the part that is the same before and after.
    rw [List.append_assoc]
    exact inside.trans (List.prefix_append _ _)
  | @kept c text result here later ih =>
    cases piece with
    | nil => exact List.nil_prefix
    | cons d piece =>
      obtain ⟨same, begins⟩ := List.cons_prefix_cons.1 begins
      rw [List.mem_cons, not_or] at clean
      exact List.cons_prefix_cons.2 ⟨same, ih clean.2 begins⟩

/-- Nothing is left to replace if what is put in ends with a character that what was there does
not hold: a match would have to reach over this character, or would have been one before. -/
theorem Replaced.not_infix (h : Replaced (front ++ rest) (front ++ [last]) text result)
    (longer : rest ≠ []) (clean : last ∉ front ++ rest) : ¬ front ++ rest <:+: result := by
  induction h with
  | nil => simp [longer]
  | @found text result later ih =>
    intro there
    rcases List.infix_append_iff_ne_nil.1 there with
      inside | after | ⟨left, right, some, -, split, ends, -⟩
    · have long : (front ++ [last]).length ≤ (front ++ rest).length := by
        have := List.length_pos_iff.2 longer
        simp only [List.length_append, List.length_singleton]
        omega
      have same := inside.eq_of_length_le long
      simp [same] at clean
    · exact ih after
    -- A match across the end of what was put in holds the last character of it.
    · rcases List.suffix_concat_iff.1 ends with none | ⟨left, rfl, -⟩
      · exact some none
      · simp [split] at clean
  | @kept c text result here later ih =>
    intro there
    rcases List.infix_cons_iff.1 there with begins | after
    · exact here ((Replaced.kept here later).prefix_of_clean clean begins)
    · exact ih after

end

end Text

namespace Reference

/-- Neither irregular spelling stands in the name of a library. -/
structure IsRegular (library : String) : Prop where
  underscore : ¬ "boost_".toList <:+: library.toList
  suffix : ¬ "-$\x7bboost_libsuffix\x7d".toList <:+: library.toList

/-- The longer spelling holds the shorter one. -/
theorem isRegular_iff {library : String} :
    IsRegular library ↔ ¬ "boost_".toList <:+: library.toList := by
  have inside : "boost_".toList <:+: "-$\x7bboost_libsuffix\x7d".toList :=
    ⟨"-$\x7b".toList, "libsuffix\x7d".toList, by simp⟩
  exact ⟨IsRegular.underscore, fun none => ⟨none, fun there => none (inside.trans there)⟩⟩

/-- The longer spelling is deleted, and in what comes of that the shorter one is replaced. -/
theorem exists_replaced_regular (library : String) :
    ∃ middle, Text.Replaced "-$\x7bboost_libsuffix\x7d".toList "".toList library.toList middle ∧
      Text.Replaced "boost_".toList "boost-".toList middle (regular library).toList := by
  refine ⟨_, Text.replaced_replaceAll (by simp) _ _, ?_⟩
  simp only [regular, irregular, List.foldl_cons, List.foldl_nil, String.toList_ofList]
  exact Text.replaced_replaceAll (by simp) _ _

theorem isRegular_regular (library : String) : IsRegular (regular library) := by
  obtain ⟨middle, -, second⟩ := exists_replaced_regular library
  have old : "boost_".toList = "boost".toList ++ ['_'] := by simp
  have new : "boost-".toList = "boost".toList ++ ['-'] := by simp
  rw [old, new] at second
  rw [isRegular_iff, old]
  exact second.not_infix (by simp) (by simp)

/-- The deletion joins what stood around it to the spelling that has just been deleted. -/
example : regular "-$\x7bboost_l-$\x7bboost_libsuffix\x7dibsuffix\x7d" =
    "-$\x7bboost-libsuffix\x7d" := by
  decide +kernel

/-- A regular name is left as it is. -/
theorem IsRegular.regular_eq {library : String} (h : IsRegular library) :
    regular library = library := by
  obtain ⟨middle, first, second⟩ := exists_replaced_regular library
  obtain rfl := first.eq_self h.suffix
  exact String.toList_inj.1 (second.eq_self h.underscore)

end Reference

namespace Graph

/-- The libraries in the graph of a file have regular names. -/
structure NamesRegular (profile : Profile) (file : File) (graph : Graph) : Prop where
  regular : ∀ target ∈ graph.targets.toList, ∀ library ∈ target.uses,
    Reference.IsRegular library
  /-- These are the libraries from the macros, the dependencies and the patterns, in their
  places and each written regularly. -/
  written : ∃ targets, targetsOf profile file = .ok targets ∧ graph.targets.toList =
    targets.toList.map fun target => { target with uses := target.uses.map Reference.regular }

theorem namesRegular_withTargets {profile : Profile} {file : File} {targets : TargetSet}
    (h : targetsOf profile file = .ok targets) :
    NamesRegular profile file (withTargets profile file targets) := by
  refine ⟨fun target member library used => ?_, targets, h, rfl⟩
  rw [withTargets, TargetSet.toList_map] at member
  obtain ⟨old, -, rfl⟩ := List.mem_map.1 member
  obtain ⟨name, -, rfl⟩ := List.mem_map.1 used
  exact Reference.isRegular_regular name

/-- A name that has been written regularly is regular, and writing it so again changes nothing.
Only the names that are not regular change. So all libraries in the graph of a file have regular
names. -/
theorem regular_names :
    (∀ library : String, Reference.IsRegular (Reference.regular library) ∧
      Reference.regular (Reference.regular library) = Reference.regular library ∧
      (Reference.regular library = library ↔ Reference.IsRegular library)) ∧
    ∀ (profile : Profile) (file : File) (graph : Graph), ofFile profile file = .ok graph →
      NamesRegular profile file graph := by
  constructor
  · intro library
    have made := Reference.isRegular_regular library
    exact ⟨made, made.regular_eq, fun same => same ▸ made, Reference.IsRegular.regular_eq⟩
  · intro profile file graph h
    obtain ⟨targets, ran, rfl⟩ := ofFile_ok h
    exact namesRegular_withTargets ran

/-- A folded macro, a dependency and a pattern each bring in an irregular name. In that of the
macro the spelling to replace arises when the other one is deleted. -/
theorem regular_names_boost :
    let file : File := ⟨⟨"Control/boost_tools/cmt/requirements"⟩, "Control/boost_tools",
      [.target .library ⟨"Foo", ["*.cxx"]⟩,
       .setting .appendMacro ⟨"Foolinkopts", "-lboost-$(boost_libsuffix)_thread", []⟩,
       .use ⟨"boost_python", none, none, [], .exported⟩,
       .applyPattern ⟨"installed_library", [], ["library=Bar"]⟩,
       .applyPattern ⟨"athenarun_test", [], ["name=all"]⟩]⟩
    ∃ graph, ofFile .atlasoff file = .ok graph ∧
      graph.targets.toList.map Target.uses =
        [["boost-thread"], ["boost-python"], ["boost-tools"]] ∧
      NamesRegular .atlasoff file graph := by
  intro file
  have made : (ofFile .atlasoff file).toOption.map
      (fun graph => graph.targets.toList.map Target.uses) =
        some [["boost-thread"], ["boost-python"], ["boost-tools"]] := by
    decide +kernel
  cases h : ofFile .atlasoff file with
  | error error =>
    rw [h] at made
    cases made
  | ok graph =>
    rw [h] at made
    exact ⟨graph, rfl, Option.some.inj made, regular_names.2 .atlasoff file graph h⟩

end Graph

end Requirements
