import Requirements.Proofs.References
import Requirements.Target.Flags
import Mathlib.Data.List.Forall2

/-!
# What macros hold under a suffix

Macros are read with a table of five suffixes. `Holds` says without the table what there is to
know: under which suffix a macro holds flags for which list, and which flags the words of its value
stand for. The words under the two suffixes for libraries name one library each, and all others
stand for themselves. `isTable_all` says that the table and the flags that are made of a value
come to the same.
-/

namespace Requirements.FlagSuffix

/-- A word of linker flags names a library: it loses one `-l` in front, and in what is left the
matches of the pattern of a reference are replaced from the left. -/
def NamesLibrary (word library : String) : Prop :=
  ∃ rest, Text.Without "-l" word rest ∧
    Text.ReplacesMatches Reference.IsMatch rest.toList library.toList

/-- Under a suffix, words stand for flags in a list. -/
inductive Holds (words : List String) (suffix : String) : FlagList → List String → Prop
  | libraries {flags : List String} (known : suffix ∈ ["linkopts", "_shlibflags"])
    (named : List.Forall₂ NamesLibrary words flags) : Holds words suffix .uses flags
  | cxxFlags (known : suffix ∈ ["_pp_cppflags", "_cxxflags"]) :
    Holds words suffix .cxxFlags words
  | cFlags (known : suffix = "_cflags") : Holds words suffix .cFlags words

/-- A table lists the five suffixes in the order in which they take effect. Its list for a suffix,
and the flags that it makes of a value, are those that the words of the value stand for. -/
structure IsTable (suffixes : List FlagSuffix) : Prop where
  texts : suffixes.map text =
    ["linkopts", "_shlibflags", "_pp_cppflags", "_cxxflags", "_cflags"]
  holds : ∀ suffix ∈ suffixes, ∀ (value : Conditional) list words,
    Holds (Text.wordsOf value.default) suffix.text list words ↔
      list = suffix.list ∧ words = suffix.flags value

theorem namesLibrary_iff {word library : String} :
    NamesLibrary word library ↔ library = Reference.ofLinkWord word := by
  simp only [NamesLibrary, Text.without_iff, exists_eq_left, Reference.replaces_iff,
    ← Reference.toList_ofLinkWord, String.toList_inj]

theorem forall₂_namesLibrary_iff {words libraries : List String} :
    List.Forall₂ NamesLibrary words libraries ↔ libraries = words.map Reference.ofLinkWord := by
  have named : NamesLibrary = fun word library => library = Reference.ofLinkWord word := by
    funext word library
    exact propext namesLibrary_iff
  rw [named, eq_comm, ← List.forall₂_eq_eq_eq, List.forall₂_map_left_iff]
  simp only [eq_comm]

theorem holds_iff {words flags : List String} {suffix : String} {list : FlagList} :
    Holds words suffix list flags ↔
      suffix ∈ ["linkopts", "_shlibflags"] ∧ list = .uses ∧
          flags = words.map Reference.ofLinkWord ∨
        suffix ∈ ["_pp_cppflags", "_cxxflags"] ∧ list = .cxxFlags ∧ flags = words ∨
        suffix = "_cflags" ∧ list = .cFlags ∧ flags = words := by
  constructor
  · rintro (⟨known, named⟩ | known | known)
    · exact .inl ⟨known, rfl, forall₂_namesLibrary_iff.1 named⟩
    · exact .inr (.inl ⟨known, rfl, rfl⟩)
    · exact .inr (.inr ⟨known, rfl, rfl⟩)
  · rintro (⟨known, rfl, named⟩ | ⟨known, rfl, rfl⟩ | ⟨known, rfl, rfl⟩)
    · exact .libraries known (forall₂_namesLibrary_iff.2 named)
    · exact .cxxFlags known
    · exact .cFlags known

/-- The table holds what is known of the suffixes. -/
theorem isTable_all : IsTable all where
  texts := rfl
  holds suffix known value list words := by
    simp only [all, List.mem_cons, List.not_mem_nil, or_false] at known
    rw [holds_iff]
    obtain rfl | rfl | rfl | rfl | rfl := known <;> simp [flags]

/-- In a macro of a suffix of the table, the words of the value stand for the flags. -/
theorem holds_flags {suffix : FlagSuffix} (known : suffix ∈ all) (value : Conditional) :
    Holds (Text.wordsOf value.default) suffix.text suffix.list (suffix.flags value) :=
  (isTable_all.holds suffix known value _ _).2 ⟨rfl, rfl⟩

end Requirements.FlagSuffix
