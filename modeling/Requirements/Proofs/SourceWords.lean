import Requirements.Target.Sources
import Mathlib.Data.List.DropRight

/-!
# What source words come to

A source word is one of three things once a leading step to the parent has been taken off: a
directory for the words after it, a switch, or a source. Which of them it is depends on the word
alone, and only where a source is found depends on the words before it, through the last
directory among them. `sorts_ofWords` says what comes of any list of words. Every word that is
not a directory gives one item, at its place, and a list can be sorted in parts if each part is
started with the directory that the parts before it leave.
-/

namespace Requirements

namespace Text

/-- A text less one `lead` in front. A text that does not start so is left as it is. -/
def Without (lead text rest : String) : Prop :=
  text = lead ++ rest ∨ rest = text ∧ ∀ more, text ≠ lead ++ more

/-- A text less all of `c` at its end. -/
def WithoutTrailing (c : Char) (text rest : String) : Prop :=
  (∃ count, text.toList = rest.toList ++ List.replicate count c) ∧ rest.toList.getLast? ≠ some c

theorem without_iff {lead text rest : String} :
    Without lead text rest ↔ rest = withoutLead text lead := by
  rw [Without, withoutLead]
  cases found : afterLead? text lead with
  | some more =>
    obtain rfl := afterLead?_eq_some_iff.1 found
    simp [eq_comm]
  | none =>
    have other := afterLead?_eq_none_iff.1 found
    simp [other]

theorem Without.unique {lead text first second : String} (h : Without lead text first)
    (h' : Without lead text second) : first = second :=
  (without_iff.1 h).trans (without_iff.1 h').symm

theorem dropTrailing_append_replicate {c : Char} {path : List Char} (h : path.getLast? ≠ some c)
    (count : Nat) : dropTrailing c (path ++ List.replicate count c) = path := by
  have clean : path.reverse.dropWhile (· == c) = path.reverse := by
    rw [List.getLast?_eq_head?_reverse] at h
    cases reversed : path.reverse with
    | nil => rfl
    | cons last front => simpa [reversed] using h
  rw [dropTrailing, List.reverse_append, List.reverse_replicate, List.dropWhile_append]
  simp [clean]

theorem exists_eq_dropTrailing_append (c : Char) (text : List Char) :
    ∃ count, text = dropTrailing c text ++ List.replicate count c := by
  have run : ∀ d ∈ text.rtakeWhile (· == c), d = c := fun d member => by
    simpa using List.mem_rtakeWhile_imp member
  refine ⟨(text.rtakeWhile (· == c)).length, ?_⟩
  rw [← List.eq_replicate_of_mem run]
  exact List.rdropWhile_append_rtakeWhile.symm

theorem getLast?_dropTrailing (c : Char) (text : List Char) :
    (dropTrailing c text).getLast? ≠ some c := by
  intro last
  obtain ⟨front, split⟩ := List.getLast?_eq_some_iff.1 last
  have filled : text.rdropWhile (· == c) ≠ [] := by
    rw [show text.rdropWhile (· == c) = front ++ [c] from split]
    simp
  have stops := List.rdropWhile_last_not (· == c) text filled
  simp [show text.rdropWhile (· == c) = front ++ [c] from split] at stops

theorem withoutTrailing_iff {c : Char} {text rest : String} :
    WithoutTrailing c text rest ↔ rest = .ofList (dropTrailing c text.toList) := by
  rw [← String.toList_inj, String.toList_ofList]
  constructor
  · rintro ⟨⟨count, split⟩, last⟩
    rw [split, dropTrailing_append_replicate last]
  · intro same
    rw [WithoutTrailing, same]
    exact ⟨exists_eq_dropTrailing_append c _, getLast?_dropTrailing c _⟩

theorem WithoutTrailing.unique {c : Char} {text first second : String}
    (h : WithoutTrailing c text first) (h' : WithoutTrailing c text second) : first = second :=
  (withoutTrailing_iff.1 h).trans (withoutTrailing_iff.1 h').symm

end Text

/-- What a source word is. -/
inductive SourceWord where
  | directory (path : String)
  | switch (name : String)
  | source (name : String)
  deriving DecidableEq, Repr

namespace SourceWord

/-- What a source word is read as. -/
inductive Reads : String → SourceWord → Prop
  | directory {word value rest path : String} (step : Text.Without "../" word ("-s=" ++ value))
    (inner : Text.Without "../" value rest) (clean : Text.WithoutTrailing '/' rest path) :
    Reads word (.directory path)
  | switch {word name : String} (step : Text.Without "../" word ("-" ++ name))
    (other : ∀ value, "-" ++ name ≠ "-s=" ++ value) : Reads word (.switch ("-" ++ name))
  | source {word name : String} (step : Text.Without "../" word name)
    (other : ∀ rest, name ≠ "-" ++ rest) : Reads word (.source name)

/-- Where a source is found, given the directory for names without a slash. -/
inductive Placed : Option String → String → String → Prop
  | inside {dir name : String} (filled : dir ≠ "") (bare : '/' ∉ name.toList) :
    Placed (some dir) name (dir ++ "/" ++ name)
  | asWritten {dir : Option String} {name : String}
    (h : ∀ path, dir = some path → path = "" ∨ '/' ∈ name.toList) : Placed dir name name

/-- A source word, read when the step to the parent is off. -/
def ofStripped (word : String) : SourceWord :=
  match Text.afterLead? word "-s=" with
  | some value => .directory (SourceList.dirOfSwitch value)
  | none => if Text.startsWith word "-" then .switch word else .source word

/-- A source word, read. -/
def ofWord (word : String) : SourceWord := ofStripped (SourceList.withoutParent word)

/-- The directory that a word gives to those after it. -/
def directory? : SourceWord → Option String
  | .directory path => some path
  | _ => none

/-- The switch that a word is. -/
def switch? : SourceWord → Option String
  | .switch name => some name
  | _ => none

/-- The source that a word names. -/
def source? : SourceWord → Option String
  | .source name => some name
  | _ => none

theorem reads_ofWord (word : String) : Reads word (ofWord word) := by
  have stripped : Text.Without "../" word (SourceList.withoutParent word) := Text.without_iff.2 rfl
  rw [ofWord, ofStripped]
  cases found : Text.afterLead? (SourceList.withoutParent word) "-s=" with
  | some value =>
    rw [Text.afterLead?_eq_some_iff.1 found] at stripped
    exact .directory stripped (Text.without_iff.2 rfl) (Text.withoutTrailing_iff.2 rfl)
  | none =>
    have other := Text.afterLead?_eq_none_iff.1 found
    by_cases hyphen : Text.startsWith (SourceList.withoutParent word) "-" = true
    · obtain ⟨name, same⟩ := Text.startsWith_iff.1 hyphen
      rw [if_pos hyphen]
      rw [same] at stripped other ⊢
      exact .switch stripped other
    · rw [if_neg hyphen]
      exact .source stripped fun rest same => hyphen (Text.startsWith_iff.2 ⟨rest, same⟩)

/-- What stands at the front of a word, once the step to the parent is off, decides how the word
is read. -/
theorem Reads.unique {word : String} {first second : SourceWord} (h : Reads word first)
    (h' : Reads word second) : first = second := by
  -- A word that gives a directory starts with a hyphen too, so it must not be read as a source.
  have hyphen (value : String) : "-s=" ++ value = "-" ++ ("s=" ++ value) := by
    rw [← String.append_assoc]
    rfl
  cases h with
  | directory step inner clean =>
    cases h' with
    | directory step' inner' clean' =>
      obtain rfl := (String.append_right_inj _).1 (step.unique step')
      obtain rfl := inner.unique inner'
      rw [clean.unique clean']
    | switch step' other => exact absurd (step'.unique step) (other _)
    | source step' other => exact absurd ((step'.unique step).trans (hyphen _)) (other _)
  | switch step other =>
    cases h' with
    | directory step' => exact absurd (step.unique step') (other _)
    | switch step' => rw [step.unique step']
    | source step' other' => exact absurd (step'.unique step) (other' _)
  | source step other =>
    cases h' with
    | directory step' => exact absurd ((step.unique step').trans (hyphen _)) (other _)
    | switch step' => exact absurd (step.unique step') (other _)
    | source step' => rw [step.unique step']

/-- Every word is read in one way. -/
theorem reads_iff {word : String} {reading : SourceWord} :
    Reads word reading ↔ reading = ofWord word :=
  ⟨fun h => h.unique (reads_ofWord word), fun same => same ▸ reads_ofWord word⟩

theorem placed_iff {dir : Option String} {name path : String} :
    Placed dir name path ↔ path = SourceList.sourcePath dir name := by
  constructor
  · rintro (⟨filled, bare⟩ | h)
    · simp [SourceList.sourcePath, filled, bare]
    · cases dir with
      | none => rfl
      | some dir =>
        rw [SourceList.sourcePath, if_pos]
        simpa using h dir rfl
  · rintro rfl
    cases dir with
    | none => exact .asWritten nofun
    | some dir =>
      rw [SourceList.sourcePath]
      split
      · rename_i outside
        refine .asWritten fun path same => ?_
        obtain rfl := Option.some.inj same
        simpa using outside
      · rename_i inside
        rw [Bool.or_eq_true, not_or] at inside
        exact .inside (by simpa using inside.1) (by simpa using inside.2)

/-- What a word gives to the sorted list, in the directory that the words before it leave. -/
def items (dir : Option String) : SourceWord → SourceList
  | .directory _ => {}
  | .switch name => { switches := [name] }
  | .source name => { sources := [SourceList.sourcePath dir name] }

end SourceWord

namespace SourceList

/-- Sorted source words, and others after them. -/
def append (first last : SourceList) : SourceList :=
  ⟨first.sources ++ last.sources, first.switches ++ last.switches⟩

/-- The directories that words give to those after them. -/
def directories (words : List String) : List String :=
  words.filterMap fun word => (SourceWord.ofWord word).directory?

/-- The directory for names without a slash after some words: the last one that a word gives, or
else the one before them. -/
def dirAfter (dir : Option String) (words : List String) : Option String :=
  (directories words).getLast?.or dir

variable (dir : Option String) (word : String) (words : List String)

theorem append_assoc (first middle last : SourceList) :
    (first.append middle).append last = first.append (middle.append last) := by
  simp [append, List.append_assoc]

/-- A word gives its items, and perhaps a directory to the words after it. -/
theorem ofWords_cons :
    ofWords dir (word :: words) = ((SourceWord.ofWord word).items dir).append
      (ofWords ((SourceWord.ofWord word).directory?.or dir) words) := by
  -- One turn of the loop, with the step to the parent taken off in every place.
  have step : ofWords dir (word :: words) =
      match Text.afterLead? (withoutParent word) "-s=" with
      | some value => ofWords (some (dirOfSwitch value)) words
      | none =>
        let rest := ofWords dir words
        if Text.startsWith (withoutParent word) "-" then
          { rest with switches := withoutParent word :: rest.switches }
        else { rest with sources := sourcePath dir (withoutParent word) :: rest.sources } := rfl
  rw [step, SourceWord.ofWord, SourceWord.ofStripped]
  cases Text.afterLead? (withoutParent word) "-s=" with
  | some value => rfl
  | none =>
    by_cases hyphen : Text.startsWith (withoutParent word) "-" = true
    · simp only [hyphen, if_true]
      rfl
    · simp only [hyphen]
      rfl

theorem dirAfter_cons :
    dirAfter dir (word :: words) = dirAfter ((SourceWord.ofWord word).directory?.or dir) words := by
  rw [dirAfter, dirAfter, directories, directories, List.filterMap_cons]
  cases (SourceWord.ofWord word).directory? with
  | none => rfl
  | some path =>
    rw [List.getLast?_cons, Option.some_or]
    cases (List.filterMap _ words).getLast? <;> rfl

/-- A list of words may be sorted in two parts. -/
theorem ofWords_append (first last : List String) :
    ofWords dir (first ++ last) =
      (ofWords dir first).append (ofWords (dirAfter dir first) last) := by
  induction first generalizing dir with
  | nil => rfl
  | cons word first ih =>
    rw [List.cons_append, ofWords_cons, ofWords_cons, ih, dirAfter_cons, append_assoc]

theorem switches_ofWords :
    (ofWords dir words).switches =
      words.filterMap fun word => (SourceWord.ofWord word).switch? := by
  induction words generalizing dir with
  | nil => rfl
  | cons word words ih =>
    rw [ofWords_cons, append, ih, List.filterMap_cons]
    cases SourceWord.ofWord word <;> rfl

/-- Each source is found in the directory that the words before it leave. -/
theorem sources_ofWords :
    (ofWords dir words).sources = words.zipIdx.filterMap fun (word, place) =>
      (SourceWord.ofWord word).source?.map (sourcePath (dirAfter dir (words.take place))) := by
  induction words generalizing dir with
  | nil => rfl
  | cons word words ih =>
    -- The directory at a later place is that of the rest of the words, started after this one.
    have later (place : Nat) : dirAfter dir ((word :: words).take (place + 1)) =
        dirAfter ((SourceWord.ofWord word).directory?.or dir) (words.take place) := by
      rw [List.take_succ_cons, dirAfter_cons]
    rw [ofWords_cons, append, ih, List.zipIdx_cons', List.filterMap_cons, List.filterMap_map]
    simp only [Function.comp_def, Prod.map, id, later, List.take_zero]
    cases SourceWord.ofWord word <;> rfl

theorem length_ofWords :
    (ofWords dir words).sources.length + (ofWords dir words).switches.length +
      (directories words).length = words.length := by
  induction words generalizing dir with
  | nil => rfl
  | cons word words ih =>
    have rest := ih ((SourceWord.ofWord word).directory?.or dir)
    rw [ofWords_cons, append, directories, List.filterMap_cons, List.length_cons, ← rest,
      directories]
    cases SourceWord.ofWord word <;> simp [SourceWord.items, SourceWord.directory?] <;> omega

/-- A switch gives no source, and leaves the directory as it is. -/
theorem sources_ofWords_switch {dir : Option String} {word name : String}
    (h : SourceWord.Reads word (.switch name)) (before after : List String) :
    (ofWords dir (before ++ word :: after)).sources = (ofWords dir (before ++ after)).sources := by
  rw [ofWords_append, ofWords_append, ofWords_cons, ← SourceWord.reads_iff.1 h]
  rfl

/-- What source words come to if names without a slash are at first found in a directory. -/
structure Sorts (dir : Option String) (words : List String) (list : SourceList) : Prop where
  /-- Every word is read in one way. -/
  reads : ∀ word ∈ words, ∀ reading,
    SourceWord.Reads word reading ↔ reading = SourceWord.ofWord word
  switches : list.switches = words.filterMap fun word => (SourceWord.ofWord word).switch?
  /-- A source is placed in the directory that the words before it leave. -/
  sources : list.sources = words.zipIdx.filterMap fun (word, index) =>
    (SourceWord.ofWord word).source?.map (sourcePath (dirAfter dir (words.take index)))
  placed : ∀ current name path,
    SourceWord.Placed current name path ↔ path = sourcePath current name
  /-- No word is lost and none is used twice. -/
  count : list.sources.length + list.switches.length + (directories words).length = words.length
  /-- The words can be sorted in two parts, wherever they are split. -/
  split : ∀ first last, first ++ last = words →
    list = (ofWords dir first).append (ofWords (dirAfter dir first) last)
  /-- A switch can be put in anywhere, and therefore be taken out as well. -/
  switched : ∀ before word name after, before ++ after = words →
    SourceWord.Reads word (.switch name) →
    (ofWords dir (before ++ word :: after)).sources = list.sources

/-- Words are sorted into switches and sources in their order, each source under the directory
that is current at its place. -/
theorem sorts_ofWords (dir : Option String) (words : List String) :
    Sorts dir words (ofWords dir words) where
  reads _ _ _ := SourceWord.reads_iff
  switches := switches_ofWords dir words
  sources := sources_ofWords dir words
  placed _ _ _ := SourceWord.placed_iff
  count := length_ofWords dir words
  split first last same := same ▸ ofWords_append dir first last
  switched before _ _ after same h := same ▸ sources_ofWords_switch h before after

/-- A step to the parent hides neither a directory nor a switch, and a directory of slashes only
is none. -/
example :
    ofWords (some "src")
      ["a.cxx", "../-s=../lib//", "b.cxx", "../-O2", "../c/d.cxx", "-s=/", "e.cxx"] =
        ⟨["src/a.cxx", "lib/b.cxx", "c/d.cxx", "e.cxx"], ["-O2"]⟩ := by
  decide +kernel

end SourceList

end Requirements
