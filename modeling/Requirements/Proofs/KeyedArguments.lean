import Requirements.Pattern.Args
import Requirements.Proofs.SourceWords

/-!
# Arguments with keys

An argument of a pattern is cut at its first equals sign, whatever else stands in it. Behind the
sign the quotes come off first and a step to the parent after that, so that it makes no
difference to a value whether it is quoted. `split_eq_ok_iff` and `split_eq_error_iff` are about
one argument. `reads_arguments` says which lists of arguments are read, which argument is at
fault in any other, and that of several arguments with one key the last one counts.
-/

namespace Requirements

theorem Text.withoutLead_eq (text lead : String) :
    withoutLead text lead = .ofList (dropLead lead.toList text.toList) := by
  rw [withoutLead, afterLead?, dropLead]
  cases dropLead? lead.toList text.toList <;> simp

namespace PatternArgs

/-- An argument has a key, and a text behind its first equals sign. -/
def Keyed (arg key raw : String) : Prop := arg = key ++ "=" ++ raw ∧ '=' ∉ key.toList

/-- An argument in which neither of the two is empty. -/
def Complete (arg : String) : Prop := ∃ key raw, Keyed arg key raw ∧ key ≠ "" ∧ raw ≠ ""

/-- What is first found to be missing in an argument. -/
inductive Lacks : String → ArgFault → Prop
  | noEquals {arg : String} (plain : '=' ∉ arg.toList) : Lacks arg .noEquals
  | emptyKey {arg raw : String} (keyed : Keyed arg "" raw) : Lacks arg .emptyKey
  | emptyValue {arg key : String} (keyed : Keyed arg key "") (named : key ≠ "") :
    Lacks arg .emptyValue

/-- A text less one quote in front and, if that is there, less one at its end. -/
inductive Unquotes : String → String → Prop
  | bare {raw : String} (h : ∀ rest, raw ≠ "\"" ++ rest) : Unquotes raw raw
  | closed (inner : String) : Unquotes ("\"" ++ inner ++ "\"") inner
  | opened {inner : String} (h : ∀ front, inner ≠ front ++ "\"") : Unquotes ("\"" ++ inner) inner

/-- The value that the text behind an equals sign stands for: it is less its quotes, and then
less one step to the parent. -/
def Cleans (raw value : String) : Prop :=
  ∃ inner, Unquotes raw inner ∧ Text.Without "../" inner value

/-- The last argument with a key has a text behind its equals sign. -/
inductive Last (key raw : String) : List String → Prop
  | here {arg : String} {args : List String} (keyed : Keyed arg key raw)
    (final : ∀ later ∈ args, ∀ other, ¬ Keyed later key other) : Last key raw (arg :: args)
  | later (arg : String) {args : List String} (last : Last key raw args) :
    Last key raw (arg :: args)

/-- The value that the text behind an equals sign stands for, computed. -/
def clean (raw : String) : String := .ofList (cleanValue raw.toList)

variable {arg key raw value pattern package : String} {args : List String} {fault : ArgFault}
  {start result : PatternArgs}

theorem exists_keyed (h : '=' ∈ arg.toList) : ∃ key raw, Keyed arg key raw := by
  obtain ⟨key, raw, split, plain⟩ := List.eq_append_cons_of_mem h
  refine ⟨.ofList key, .ofList raw, ?_, by rwa [String.toList_ofList]⟩
  rw [← String.toList_inj, split]
  simp

theorem ne_of_plain (plain : '=' ∉ arg.toList) : ∀ c ∈ arg.toList, (c != '=') = true :=
  fun c member => by simpa using fun (same : c = '=') => plain (same ▸ member)

theorem Keyed.toList_eq (h : Keyed arg key raw) :
    arg.toList = key.toList ++ '=' :: raw.toList := by
  rw [h.1]
  simp

/-- An argument is cut in one way. -/
theorem Keyed.unique {key' raw' : String} (h : Keyed arg key raw) (h' : Keyed arg key' raw') :
    key = key' ∧ raw = raw' := by
  have front {key : String} (plain : '=' ∉ key.toList) (raw : String) :
      (key.toList ++ '=' :: raw.toList).takeWhile (· != '=') = key.toList := by
    rw [List.takeWhile_append_of_pos (ne_of_plain plain)]
    simp
  have same := h.toList_eq.symm.trans h'.toList_eq
  have keys : key.toList = key'.toList := by
    rw [← front h.2 raw, same, front h'.2 raw']
  rw [keys, List.append_cancel_left_eq, List.cons.injEq] at same
  exact ⟨String.toList_inj.1 keys, String.toList_inj.1 same.2⟩

/-- What is done with an argument once it is cut. -/
theorem split_of_keyed (h : Keyed arg key raw) :
    split arg = if key = "" then .error .emptyKey else if raw = "" then .error .emptyValue
      else .ok (key, clean raw) := by
  rw [split, h.toList_eq, List.takeWhile_append_of_pos (ne_of_plain h.2),
    List.dropWhile_append_of_pos (ne_of_plain h.2)]
  simp [clean]

theorem split_of_plain (plain : '=' ∉ arg.toList) : split arg = .error .noEquals := by
  rw [split, ← List.append_nil arg.toList, List.dropWhile_append_of_pos (ne_of_plain plain)]
  rfl

theorem Unquotes.unquote_eq {inner : String} (h : Unquotes raw inner) :
    unquote raw.toList = inner.toList := by
  cases h with
  | bare h =>
    cases letters : raw.toList with
    | nil => rfl
    | cons c rest =>
      have other : c ≠ '"' := fun same => h (.ofList rest) <| by
        rw [← String.toList_inj, letters, same]
        simp
      simp [unquote, other]
  | closed =>
    have found : Text.dropTail? ['"'] (inner.toList ++ ['"']) = some inner.toList :=
      Text.dropTail?_eq_some_iff.2 rfl
    simp [unquote, found]
  | opened h =>
    have found : Text.dropTail? ['"'] inner.toList = none := by
      rw [Option.eq_none_iff_forall_ne_some]
      intro front ends
      refine h (.ofList front) ?_
      rw [← String.toList_inj, Text.dropTail?_eq_some_iff.1 ends]
      simp
    simp [unquote, found]

theorem exists_unquotes (raw : String) : ∃ inner, Unquotes raw inner := by
  by_cases quoted : ∃ rest, raw = "\"" ++ rest
  · obtain ⟨rest, rfl⟩ := quoted
    by_cases ends : ∃ inner, rest = inner ++ "\""
    · obtain ⟨inner, rfl⟩ := ends
      exact ⟨inner, by rw [← String.append_assoc]; exact .closed inner⟩
    · exact ⟨rest, .opened fun front same => ends ⟨front, same⟩⟩
  · exact ⟨raw, .bare fun rest same => quoted ⟨rest, same⟩⟩

theorem cleans_iff : Cleans raw value ↔ value = clean raw := by
  have cleaned {inner : String} (h : Unquotes raw inner) :
      clean raw = Text.withoutLead inner "../" := by
    rw [clean, cleanValue, h.unquote_eq, Text.withoutLead_eq]
    rfl
  constructor
  · rintro ⟨inner, unquotes, without⟩
    rw [cleaned unquotes, Text.without_iff.1 without]
  · rintro rfl
    obtain ⟨inner, unquotes⟩ := exists_unquotes raw
    exact ⟨inner, unquotes, Text.without_iff.2 (cleaned unquotes)⟩

/-- Quotes around a value that does not begin with one change nothing. -/
theorem clean_quoted (h : ∀ rest, raw ≠ "\"" ++ rest) :
    clean ("\"" ++ raw ++ "\"") = clean raw := by
  obtain ⟨inner, unquotes, without⟩ := cleans_iff.2 (Eq.refl (clean raw))
  have bare : inner = raw := by
    rw [← String.toList_inj, ← unquotes.unquote_eq, (Unquotes.bare h).unquote_eq]
  exact (cleans_iff.1 ⟨raw, .closed raw, bare ▸ without⟩).symm

theorem split_eq_ok_iff :
    split arg = .ok (key, value) ↔
      ∃ raw, Keyed arg key raw ∧ key ≠ "" ∧ raw ≠ "" ∧ Cleans raw value := by
  constructor
  · intro read
    by_cases equals : '=' ∈ arg.toList
    · obtain ⟨key', raw, keyed⟩ := exists_keyed equals
      rw [split_of_keyed keyed] at read
      split at read
      · cases read
      · split at read
        · cases read
        · rename_i named filled
          obtain ⟨rfl, rfl⟩ := Prod.mk.inj (Except.ok.inj read)
          exact ⟨raw, keyed, named, filled, cleans_iff.2 rfl⟩
    · rw [split_of_plain equals] at read
      cases read
  · rintro ⟨raw, keyed, named, filled, cleans⟩
    rw [split_of_keyed keyed, if_neg named, if_neg filled, cleans_iff.1 cleans]

theorem split_eq_error_iff : split arg = .error fault ↔ Lacks arg fault := by
  constructor
  · intro failed
    by_cases equals : '=' ∈ arg.toList
    · obtain ⟨key, raw, keyed⟩ := exists_keyed equals
      rw [split_of_keyed keyed] at failed
      split at failed
      · rename_i unnamed
        obtain rfl := Except.error.inj failed
        exact .emptyKey (unnamed ▸ keyed)
      · split at failed
        · rename_i named hollow
          obtain rfl := Except.error.inj failed
          exact .emptyValue (hollow ▸ keyed) named
        · cases failed
    · rw [split_of_plain equals] at failed
      obtain rfl := Except.error.inj failed
      exact .noEquals equals
  · rintro (plain | keyed | ⟨keyed, named⟩)
    · exact split_of_plain plain
    · rw [split_of_keyed keyed, if_pos rfl]
    · rw [split_of_keyed keyed, if_neg named, if_pos rfl]

theorem complete_iff : Complete arg ↔ ∃ key value, split arg = .ok (key, value) := by
  constructor
  · rintro ⟨key, raw, keyed, named, filled⟩
    exact ⟨key, clean raw, split_eq_ok_iff.2 ⟨raw, keyed, named, filled, cleans_iff.2 rfl⟩⟩
  · rintro ⟨key, value, read⟩
    obtain ⟨raw, keyed, named, filled, -⟩ := split_eq_ok_iff.1 read
    exact ⟨key, raw, keyed, named, filled⟩

/-- Reading stops at the first argument that lacks something. -/
theorem readFrom_eq_error_iff {error : PatternError} :
    readFrom pattern package start args = .error error ↔
      ∃ before arg after fault, args = before ++ arg :: after ∧
        (∀ other ∈ before, Complete other) ∧ Lacks arg fault ∧
        error = .malformed pattern package arg fault := by
  induction args generalizing start with
  | nil => simp [readFrom]
  | cons arg args ih =>
    rw [readFrom]
    cases read : split arg with
    | error fault =>
      constructor
      · intro failed
        exact ⟨[], arg, args, fault, rfl, nofun, split_eq_error_iff.1 read,
          (Except.error.inj failed).symm⟩
      · rintro ⟨before, other, after, fault', cut, fine, lacks, rfl⟩
        cases before with
        | nil =>
          obtain ⟨rfl, -⟩ := List.cons.inj cut
          rw [split_eq_error_iff.2 lacks] at read
          rw [Except.error.inj read]
        | cons first before =>
          -- An argument at fault would be complete.
          obtain ⟨rfl, -⟩ := List.cons.inj cut
          obtain ⟨key, value, ok⟩ := complete_iff.1 (fine arg List.mem_cons_self)
          rw [ok] at read
          cases read
    | ok pair =>
      obtain ⟨key, value⟩ := pair
      have complete : Complete arg := complete_iff.2 ⟨key, value, read⟩
      simp only
      rw [ih]
      constructor
      · rintro ⟨before, other, after, fault, rfl, fine, rest⟩
        exact ⟨arg :: before, other, after, fault, rfl,
          List.forall_mem_cons.2 ⟨complete, fine⟩, rest⟩
      · rintro ⟨before, other, after, fault, cut, fine, lacks, same⟩
        cases before with
        | nil =>
          obtain ⟨rfl, -⟩ := List.cons.inj cut
          rw [split_eq_error_iff.2 lacks] at read
          cases read
        | cons first before =>
          obtain ⟨-, rfl⟩ := List.cons.inj cut
          exact ⟨before, other, after, fault, rfl, (List.forall_mem_cons.1 fine).2, lacks, same⟩

theorem exists_readFrom_iff :
    (∃ result, readFrom pattern package start args = .ok result) ↔
      ∀ arg ∈ args, Complete arg := by
  induction args generalizing start with
  | nil => simp [readFrom]
  | cons arg args ih =>
    rw [readFrom, List.forall_mem_cons, complete_iff]
    cases split arg with
    | error fault => simp
    | ok pair =>
      obtain ⟨key, value⟩ := pair
      simpa using ih

theorem last_cons_iff :
    Last key raw (arg :: args) ↔
      Keyed arg key raw ∧ (∀ later ∈ args, ∀ other, ¬ Keyed later key other) ∨
        Last key raw args := by
  constructor
  · rintro (⟨keyed, final⟩ | ⟨_, last⟩)
    · exact .inl ⟨keyed, final⟩
    · exact .inr last
  · rintro (⟨keyed, final⟩ | last)
    · exact .here keyed final
    · exact .later arg last

theorem Last.exists_mem (h : Last key raw args) : ∃ arg ∈ args, Keyed arg key raw := by
  induction h with
  | @here arg args keyed final => exact ⟨arg, List.mem_cons_self, keyed⟩
  | later arg last ih =>
    obtain ⟨other, member, keyed⟩ := ih
    exact ⟨other, List.mem_cons_of_mem _ member, keyed⟩

/-- Some argument has a key exactly if there is a last one with it. -/
theorem exists_last_iff : (∃ raw, Last key raw args) ↔ ∃ arg ∈ args, ∃ raw, Keyed arg key raw := by
  constructor
  · rintro ⟨raw, last⟩
    obtain ⟨arg, member, keyed⟩ := last.exists_mem
    exact ⟨arg, member, raw, keyed⟩
  · induction args with
    | nil => exact nofun
    | cons arg args ih =>
      rintro ⟨other, member, raw, keyed⟩
      by_cases later : ∃ arg ∈ args, ∃ raw, Keyed arg key raw
      · obtain ⟨raw, last⟩ := ih later
        exact ⟨raw, .later arg last⟩
      · rcases List.mem_cons.1 member with rfl | member
        · exact ⟨raw, .here keyed fun arg member raw keyed => later ⟨arg, member, raw, keyed⟩⟩
        · exact absurd ⟨other, member, raw, keyed⟩ later

/-- What is found under a key: the value of the last argument with that key, or else what was
there before. -/
theorem find?_readFrom (read : readFrom pattern package start args = .ok result) :
    result.find? key = some value ↔
      (∃ raw, Last key raw args ∧ Cleans raw value) ∨
        start.find? key = some value ∧ ∀ arg ∈ args, ∀ raw, ¬ Keyed arg key raw := by
  induction args generalizing start with
  | nil =>
    obtain rfl := Except.ok.inj read
    refine ⟨fun found => .inr ⟨found, nofun⟩, ?_⟩
    rintro (⟨raw, ⟨⟩, -⟩ | ⟨found, -⟩)
    exact found
  | cons arg args ih =>
    rw [readFrom] at read
    cases cut : split arg with
    | error fault =>
      rw [cut] at read
      cases read
    | ok pair =>
      obtain ⟨key', value'⟩ := pair
      rw [cut] at read
      obtain ⟨raw, keyed, -, -, cleans⟩ := split_eq_ok_iff.1 cut
      rw [ih read, KeyMap.find?_insert, List.forall_mem_cons]
      simp only [last_cons_iff, or_and_right, exists_or]
      by_cases same : key' = key
      · -- The value of this argument counts if there is no later one with its key.
        subst same
        have own : (∃ other, (Keyed arg key' other ∧
            ∀ later ∈ args, ∀ other, ¬ Keyed later key' other) ∧ Cleans other value) ↔
            value' = value ∧ ∀ later ∈ args, ∀ other, ¬ Keyed later key' other := by
          constructor
          · rintro ⟨other, ⟨keyed', final⟩, cleans'⟩
            obtain ⟨-, rfl⟩ := keyed.unique keyed'
            exact ⟨(cleans_iff.1 cleans).trans (cleans_iff.1 cleans').symm, final⟩
          · rintro ⟨rfl, final⟩
            exact ⟨raw, ⟨keyed, final⟩, cleans⟩
        have taken : ¬ ∀ other, ¬ Keyed arg key' other := fun none => none raw keyed
        simp only [own, taken, if_pos, Option.some.injEq, false_and, and_false, or_false]
        exact or_comm
      · have other : ∀ raw, ¬ Keyed arg key raw := fun raw keyed' =>
          same (keyed.unique keyed').1
        simp [same, other]

theorem find?_read {application : Application} (accepted : read package application = .ok result) :
    result.find? key = some value ↔ ∃ raw, Last key raw application.args ∧ Cleans raw value := by
  rw [find?_readFrom accepted, KeyMap.find?_empty]
  simp

/-- What is read does not tell apart arguments that are cut in the same way. -/
theorem readFrom_congr {arg' : String} (complete : Complete arg) (same : split arg' = split arg)
    (before after : List String) :
    readFrom pattern package start (before ++ arg' :: after) =
      readFrom pattern package start (before ++ arg :: after) := by
  induction before generalizing start with
  | nil =>
    obtain ⟨key, value, read⟩ := complete_iff.1 complete
    rw [List.nil_append, List.nil_append, readFrom, readFrom, same, read]
  | cons first before ih =>
    rw [List.cons_append, List.cons_append, readFrom, readFrom]
    cases split first with
    | error fault => rfl
    | ok pair => exact ih

/-- What comes of the arguments of a pattern. -/
structure ReadsArguments (package : String) (application : Application) : Prop where
  accepts : (∃ args, read package application = .ok args) ↔
    ∀ arg ∈ application.args, Complete arg
  /-- The first argument that lacks something is named, with the first thing that it lacks. -/
  rejects : ∀ error, read package application = .error error ↔
    ∃ before arg after fault, application.args = before ++ arg :: after ∧
      (∀ other ∈ before, Complete other) ∧ Lacks arg fault ∧
      error = .malformed application.name package arg fault
  contains : ∀ args, read package application = .ok args → ∀ key,
    args.contains key = true ↔ ∃ arg ∈ application.args, ∃ raw, Keyed arg key raw
  found : ∀ args, read package application = .ok args → ∀ key value,
    args.find? key = some value ↔ ∃ raw, Last key raw application.args ∧ Cleans raw value
  /-- It makes no difference whether a value is quoted. -/
  quoted : ∀ before key value after, '=' ∉ key.toList → key ≠ "" → value ≠ "" →
    (∀ rest, value ≠ "\"" ++ rest) →
    read package
        { application with args := before ++ (key ++ "=\"" ++ value ++ "\"") :: after } =
      read package { application with args := before ++ (key ++ "=" ++ value) :: after }

theorem reads_arguments (package : String) (application : Application) :
    ReadsArguments package application := by
  refine
    { accepts := exists_readFrom_iff
      rejects := fun error => readFrom_eq_error_iff
      contains := fun args read key => ?_
      found := fun args read key value => find?_read read
      quoted := fun before key value after plain named filled bare => ?_ }
  · rw [KeyMap.contains, Option.isSome_iff_exists, ← exists_last_iff]
    constructor
    · rintro ⟨value, there⟩
      obtain ⟨raw, last, -⟩ := (find?_read read).1 there
      exact ⟨raw, last⟩
    · rintro ⟨raw, last⟩
      exact ⟨clean raw, (find?_read read).2 ⟨raw, last, cleans_iff.2 rfl⟩⟩
  · have keyed : Keyed (key ++ "=" ++ value) key value := ⟨rfl, plain⟩
    have keyed' : Keyed (key ++ "=\"" ++ value ++ "\"") key ("\"" ++ value ++ "\"") := by
      refine ⟨?_, plain⟩
      rw [← String.toList_inj]
      simp
    have filled' : "\"" ++ value ++ "\"" ≠ "" := by simp [← String.toList_inj]
    refine readFrom_congr ⟨key, value, keyed, named, filled⟩ ?_ before after
    rw [split_of_keyed keyed, split_of_keyed keyed', clean_quoted bare, if_neg filled,
      if_neg filled']

end PatternArgs

end Requirements
