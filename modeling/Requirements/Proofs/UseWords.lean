import Requirements.Proofs.Sections

/-!
# Words of a dependency

Of the words after the name of a package, the first two that are no switches are the version and
the path. Whether a word is one of them depends on how many have been found before it, so the
words are sorted in runs: `sortUseWords_append` goes on after a run, and `sortUseWords_kept` is
about a run that has neither version nor path in it. `reads_use` says that all other words are
kept in their order, and that the place of a switch makes no difference.
-/

namespace Requirements

namespace Statement

/-- The version and the path among some words, and the words that are kept as switches. -/
inductive SortsUse : List String → Option String → Option String → List String → Prop
  | bare {words : List String} (only : ∀ word ∈ words, isSwitch word = true) :
    SortsUse words none none words
  | versioned {before after : List String} {version : String}
    (first : ∀ word ∈ before, isSwitch word = true) (here : isSwitch version = false)
    (only : ∀ word ∈ after, isSwitch word = true) :
    SortsUse (before ++ version :: after) (some version) none (before ++ after)
  /-- All words after the path are kept, whatever they are. -/
  | placed {before between after : List String} {version path : String}
    (first : ∀ word ∈ before, isSwitch word = true) (here : isSwitch version = false)
    (second : ∀ word ∈ between, isSwitch word = true) (there : isSwitch path = false) :
    SortsUse (before ++ version :: (between ++ path :: after)) (some version) (some path)
      (before ++ (between ++ after))

/-- A switch has been moved to another place. -/
def MovesSwitch (words moved : List String) : Prop :=
  ∃ switch before after before' after', isSwitch switch = true ∧
    before ++ after = before' ++ after' ∧ words = before ++ switch :: after ∧
    moved = before' ++ switch :: after'

/-- The words that are no switches. -/
def positional (words : List String) : List String := words.filter fun word => !isSwitch word

variable {visibility : Visibility} {package : String} {words moved switches : List String}
  {version path : Option String} {dependency : Use}

theorem sortUseWords_append (first last : List String) (dependency : Use) :
    sortUseWords (first ++ last) dependency =
      sortUseWords last (sortUseWords first dependency) := by
  induction first generalizing dependency with
  | nil => rfl
  | cons word first ih => rw [List.cons_append, sortUseWords, sortUseWords, ih]

/-- Switches are kept, and after a path all words are. -/
theorem sortUseWords_kept
    (kept : ∀ word ∈ words, isSwitch word = true ∨ dependency.path.isSome = true) :
    sortUseWords words dependency =
      { dependency with switches := dependency.switches ++ words } := by
  induction words generalizing dependency with
  | nil => simp [sortUseWords]
  | cons word words ih =>
    have here : (isSwitch word || dependency.path.isSome) = true := by
      simpa using kept word List.mem_cons_self
    have later : ∀ other ∈ words, isSwitch other = true ∨ dependency.path.isSome = true :=
      fun other member => kept other (List.mem_cons_of_mem _ member)
    rw [sortUseWords, if_pos here]
    refine Eq.trans (ih later) ?_
    rw [List.append_assoc, List.singleton_append]

/-- There is a first word that is no switch, or there is none. -/
theorem exists_positional (words : List String) :
    (∀ word ∈ words, isSwitch word = true) ∨
      ∃ before word after, words = before ++ word :: after ∧
        (∀ other ∈ before, isSwitch other = true) ∧ isSwitch word = false := by
  cases found : words.find? fun word => !isSwitch word with
  | none => exact .inl fun word member => by simpa using List.find?_eq_none.1 found word member
  | some word =>
    obtain ⟨here, before, after, split, first⟩ := List.find?_eq_some_iff_append.1 found
    exact .inr ⟨before, word, after, split, fun other member => by simpa using first other member,
      by simpa using here⟩

/-- Sorting the words after a package name. -/
theorem exists_sortsUse (visibility : Visibility) (package : String) (words : List String) :
    ∃ version path switches, SortsUse words version path switches ∧
      sortUseWords words ⟨package, none, none, [], visibility⟩ =
        ⟨package, version, path, switches, visibility⟩ := by
  rcases exists_positional words with only | ⟨before, version, rest, rfl, first, here⟩
  · refine ⟨none, none, words, .bare only, ?_⟩
    rw [sortUseWords_kept fun word member => .inl (only word member)]
    rfl
  · have start : sortUseWords (before ++ version :: rest) ⟨package, none, none, [], visibility⟩ =
        sortUseWords rest ⟨package, some version, none, before, visibility⟩ := by
      rw [sortUseWords_append, sortUseWords_kept fun word member => .inl (first word member),
        sortUseWords]
      simp [here]
    rw [start]
    rcases exists_positional rest with only | ⟨between, path, after, rfl, second, there⟩
    · refine ⟨some version, none, before ++ rest, .versioned first here only, ?_⟩
      rw [sortUseWords_kept fun word member => .inl (only word member)]
    · refine ⟨some version, some path, before ++ (between ++ after),
        .placed first here second there, ?_⟩
      rw [sortUseWords_append, sortUseWords_kept fun word member => .inl (second word member),
        sortUseWords]
      simp only [there, Option.isSome_none, Bool.or_self, Option.isSome_some, Bool.false_eq_true,
        if_false, if_true]
      rw [sortUseWords_kept fun _ _ => .inr rfl, List.append_assoc]

theorem positional_eq_nil (only : ∀ word ∈ words, isSwitch word = true) :
    positional words = [] := by
  simpa [positional] using only

theorem positional_append (first last : List String) :
    positional (first ++ last) = positional first ++ positional last :=
  List.filter_append ..

theorem positional_cons {word : String} (here : isSwitch word = false) (words : List String) :
    positional (word :: words) = word :: positional words := by
  simp [positional, here]

theorem positional_cons_switch {word : String} (here : isSwitch word = true) (words : List String) :
    positional (word :: words) = positional words := by
  simp [positional, here]

namespace SortsUse

theorem version_eq (h : SortsUse words version path switches) :
    version = (positional words)[0]? := by
  cases h with
  | bare only => simp [positional_eq_nil only]
  | versioned first here | placed first here =>
    simp [positional_append, positional_eq_nil first, positional_cons here]

theorem path_eq (h : SortsUse words version path switches) : path = (positional words)[1]? := by
  cases h with
  | bare only => simp [positional_eq_nil only]
  | versioned first here only =>
    simp [positional_append, positional_eq_nil first, positional_cons here, positional_eq_nil only]
  | placed first here second there =>
    simp [positional_append, positional_eq_nil first, positional_cons here,
      positional_eq_nil second, positional_cons there]

/-- No word is lost, and none is used twice. -/
theorem perm (h : SortsUse words version path switches) :
    words.Perm (version.toList ++ path.toList ++ switches) := by
  cases h with
  | bare => exact .refl _
  | versioned => exact List.perm_middle
  | placed =>
    -- The version comes to the front first, and then the path.
    refine List.perm_middle.trans (.cons _ ?_)
    rw [← List.append_assoc, ← List.append_assoc]
    exact List.perm_middle

theorem sublist (h : SortsUse words version path switches) : switches.Sublist words := by
  cases h with
  | bare => exact .refl _
  | versioned => exact (List.sublist_cons_self _ _).append_left _
  | placed =>
    refine .append_left (.cons _ ?_) _
    exact (List.sublist_cons_self _ _).append_left _

/-- A switch is kept wherever it stands. -/
theorem mem_switches_iff (h : SortsUse words version path switches) {switch : String}
    (hyphen : isSwitch switch = true) : switch ∈ switches ↔ switch ∈ words := by
  have other {word : String} (here : isSwitch word = false) : switch ≠ word := by
    rintro rfl
    rw [hyphen] at here
    cases here
  cases h with
  | bare => rfl
  | versioned first here => simp [other here]
  | placed first here second there => simp [other here, other there]

end SortsUse

/-- The place of a switch makes no difference to the words that are none. -/
theorem MovesSwitch.positional_eq (h : MovesSwitch words moved) :
    positional moved = positional words := by
  obtain ⟨switch, before, after, before', after', hyphen, same, rfl, rfl⟩ := h
  simp only [positional_append, positional_cons_switch hyphen]
  rw [← positional_append, ← same, positional_append]

theorem MovesSwitch.perm (h : MovesSwitch words moved) : moved.Perm words := by
  obtain ⟨switch, before, after, before', after', -, same, rfl, rfl⟩ := h
  refine List.perm_middle.trans (.trans ?_ List.perm_middle.symm)
  rw [same]

/-- What the words after the name of a package come to. -/
structure ReadsUse (visibility : Visibility) (package : String) (words : List String)
    (dependency : Use) : Prop where
  package : dependency.package = package
  visibility : dependency.visibility = visibility
  sorted : SortsUse words dependency.version dependency.path dependency.switches
  version : dependency.version = (positional words)[0]?
  path : dependency.path = (positional words)[1]?
  once : words.Perm (dependency.version.toList ++ dependency.path.toList ++ dependency.switches)
  order : dependency.switches.Sublist words
  isRuntime : dependency.isRuntime = true ↔ "-no_auto_imports" ∈ dependency.switches
  /-- The switch is found in whatever place it was written. -/
  anywhere : dependency.isRuntime = true ↔ "-no_auto_imports" ∈ words

theorem SortsUse.readsUse {version path : Option String}
    (h : SortsUse words version path switches) (visibility : Visibility) (package : String) :
    ReadsUse visibility package words ⟨package, version, path, switches, visibility⟩ := by
  have runtime : (⟨package, version, path, switches, visibility⟩ : Use).isRuntime = true ↔
      "-no_auto_imports" ∈ switches := List.contains_iff_mem
  exact
    { package := rfl
      visibility := rfl
      sorted := h
      version := h.version_eq
      path := h.path_eq
      once := h.perm
      order := h.sublist
      isRuntime := runtime
      anywhere := runtime.trans (h.mem_switches_iff (by decide)) }

/-- A line with a package and any words after it is read as a dependency. -/
theorem exists_readsUse (visibility : Visibility) (package : String) (words : List String) :
    ∃ dependency, Reader.statementOf visibility ("use" :: package :: words) =
      .ok (some (.use dependency)) ∧ ReadsUse visibility package words dependency := by
  obtain ⟨version, path, switches, sorted, made⟩ := exists_sortsUse visibility package words
  refine ⟨_, (Reader.statementOf_word_eq_ok_iff .use).2 ?_,
    sorted.readsUse visibility package⟩
  rw [← made]
  rfl

/-- A dependency is sorted from the words after the name of its package, of which none is lost.
Moving a switch changes neither the version nor the path, nor when the dependency is needed. -/
theorem reads_use (visibility : Visibility) (package : String) (words : List String) :
    ∃ dependency,
      Reader.statementOf visibility ("use" :: package :: words) = .ok (some (.use dependency)) ∧
      ReadsUse visibility package words dependency ∧
      ∀ moved, MovesSwitch words moved → ∃ other,
        Reader.statementOf visibility ("use" :: package :: moved) = .ok (some (.use other)) ∧
        other.version = dependency.version ∧ other.path = dependency.path ∧
        other.isRuntime = dependency.isRuntime := by
  obtain ⟨dependency, made, reads⟩ := exists_readsUse visibility package words
  refine ⟨dependency, made, reads, fun moved moves => ?_⟩
  obtain ⟨other, made', reads'⟩ := exists_readsUse visibility package moved
  refine ⟨other, made', ?_, ?_, ?_⟩
  · rw [reads'.version, reads.version, moves.positional_eq]
  · rw [reads'.path, reads.path, moves.positional_eq]
  · rw [Bool.eq_iff_iff, reads'.anywhere, reads.anywhere]
    exact moves.perm.mem_iff

/-- A switch in front of the version has been moved behind the path and a third word, and is still
what makes the package needed at run time only. -/
theorem reads_use_moved :
    let words := ["-no_auto_imports", "PyROOT-*", "-quiet", "External", "more", "-last"]
    let moved := ["PyROOT-*", "-quiet", "External", "more", "-no_auto_imports", "-last"]
    MovesSwitch words moved ∧ ∃ dependency other,
      Reader.statementOf .internal ("use" :: "AtlasPyROOT" :: words) =
        .ok (some (.use dependency)) ∧
      Reader.statementOf .internal ("use" :: "AtlasPyROOT" :: moved) = .ok (some (.use other)) ∧
      other.version = some "PyROOT-*" ∧ other.path = some "External" ∧ other.isRuntime = true := by
  intro words moved
  have moves : MovesSwitch words moved :=
    ⟨"-no_auto_imports", [], ["PyROOT-*", "-quiet", "External", "more", "-last"],
      ["PyROOT-*", "-quiet", "External", "more"], ["-last"], by decide, rfl, rfl, rfl⟩
  obtain ⟨dependency, made, reads, same⟩ := reads_use .internal "AtlasPyROOT" words
  obtain ⟨other, made', version, path, runtime⟩ := same moved moves
  refine ⟨moves, dependency, other, made, made', ?_, ?_, ?_⟩
  · rw [version, reads.version]
    decide
  · rw [path, reads.path]
    decide
  · rw [runtime, reads.anywhere]
    exact List.mem_cons_self

end Statement

end Requirements
