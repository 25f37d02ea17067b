import Requirements.Proofs.Sections

/-!
# Switches in front of a name

A switch may be written before the name of a pattern or of a tag, and then changes places with it.
`swaps_iff` says what this does to any words. After it the words are a name, the longest run of
switches behind the name, and arguments: `readApplication_eq_ok_iff` reads them in this way, and
`reads_applied` says for each of the three directives that a switch counts alike on both sides of
the name and that no word is lost.
-/

namespace Requirements

namespace Statement

/-- A switch in front of another word has changed places with it. Other words are as written. -/
inductive Swaps : List String → List String → Prop
  | leading {switch name : String} (hyphen : isSwitch switch = true) (rest : List String) :
    Swaps (switch :: name :: rest) (name :: switch :: rest)
  | asWritten {words : List String} (h : ∀ first second rest, words = first :: second :: rest →
      isSwitch first = false) :
    Swaps words words

/-- The words after a directive are a name, the switches that belong to it, and arguments. -/
structure Applies (words : List String) (name : String) (switches args : List String) :
    Prop where
  swapped : Swaps words (name :: (switches ++ args))
  run : ∀ word ∈ switches, isSwitch word = true
  /-- No longer run of switches stands behind the name. -/
  stops : ∀ word, args.head? = some word → isSwitch word = false
  once : words.Perm (name :: (switches ++ args))
  order : args <:+ words

variable {words swapped switches args : List String} {name : String}

theorem swaps_iff : Swaps words swapped ↔ swapped = swapLeadingSwitch words := by
  constructor
  · rintro (⟨hyphen, rest⟩ | h)
    · rw [swapLeadingSwitch_switch hyphen]
    · match words with
      | [] | [_] => rfl
      | first :: second :: rest => rw [swapLeadingSwitch_name (h first second rest rfl)]
  · rintro rfl
    match words with
    | [] => exact .asWritten nofun
    | [word] => exact .asWritten nofun
    | first :: second :: rest =>
      cases hyphen : isSwitch first with
      | true =>
        rw [swapLeadingSwitch_switch hyphen]
        exact .leading hyphen rest
      | false =>
        rw [swapLeadingSwitch_name hyphen]
        refine .asWritten fun other _ _ same => ?_
        rwa [← (List.cons.inj same).1]

theorem Swaps.perm (h : Swaps words swapped) : words.Perm swapped := by
  cases h with
  | leading => exact .swap ..
  | asWritten => exact .refl _

/-- What comes after the run of switches has not been moved. -/
theorem Swaps.suffix (h : Swaps words (name :: (switches ++ args)))
    (stops : ∀ word, args.head? = some word → isSwitch word = false) : args <:+ words := by
  generalize same : name :: (switches ++ args) = swapped at h
  cases h with
  | asWritten => exact ⟨name :: switches, by simpa using same⟩
  | @leading switch other hyphen rest =>
    obtain ⟨rfl, run⟩ := List.cons.inj same
    cases switches with
    | nil =>
      -- The switch would be the first argument.
      have first := stops switch (by rw [List.nil_append] at run; rw [run]; rfl)
      rw [hyphen] at first
      cases first
    | cons next switches =>
      obtain ⟨rfl, rfl⟩ := List.cons.inj run
      exact ⟨next :: name :: switches, by simp⟩

theorem takeWhile_append_of_stops (run : ∀ word ∈ switches, isSwitch word = true)
    (stops : ∀ word, args.head? = some word → isSwitch word = false) :
    (switches ++ args).takeWhile isSwitch = switches := by
  rw [List.takeWhile_append_of_pos run]
  cases args with
  | nil => simp
  | cons word args => simp [stops word rfl]

theorem dropWhile_append_of_stops (run : ∀ word ∈ switches, isSwitch word = true)
    (stops : ∀ word, args.head? = some word → isSwitch word = false) :
    (switches ++ args).dropWhile isSwitch = args := by
  rw [List.dropWhile_append_of_pos run]
  cases args with
  | nil => rfl
  | cons word args => simp [stops word rfl]

/-- Once a switch in front is out of the way, the words are a name, a run of switches and the
rest. -/
theorem applies_of_front {rest : List String} (front : swapLeadingSwitch words = name :: rest) :
    Applies words name (rest.takeWhile isSwitch) (rest.dropWhile isSwitch) := by
  have split : rest.takeWhile isSwitch ++ rest.dropWhile isSwitch = rest :=
    List.takeWhile_append_dropWhile
  have swaps : Swaps words (name :: (rest.takeWhile isSwitch ++ rest.dropWhile isSwitch)) := by
    rw [split]
    exact swaps_iff.2 front.symm
  have stops : ∀ word, (rest.dropWhile isSwitch).head? = some word → isSwitch word = false := by
    intro word head
    have first := List.head?_dropWhile_not isSwitch rest
    rwa [head] at first
  exact
    { swapped := swaps
      run := List.all_eq_true.1 List.all_takeWhile
      stops
      once := swaps.perm
      order := swaps.suffix stops }

theorem readApplication_eq_ok_iff (missing : Missing) :
    readApplication missing words = .ok ⟨name, switches, args⟩ ↔
      Applies words name switches args := by
  rw [readApplication]
  constructor
  · intro read
    cases front : swapLeadingSwitch words with
    | nil =>
      rw [front] at read
      cases read
    | cons first rest =>
      rw [front] at read
      obtain ⟨rfl, rfl, rfl⟩ := Application.mk.inj (Except.ok.inj read)
      exact applies_of_front front
  · intro h
    rw [← swaps_iff.1 h.swapped]
    show Except.ok (Application.mk name ((switches ++ args).takeWhile isSwitch)
      ((switches ++ args).dropWhile isSwitch)) = _
    rw [takeWhile_append_of_stops h.run h.stops, dropWhile_append_of_stops h.run h.stops]

/-- A directive reads a name, switches and arguments, and makes a statement of them. -/
structure ReadsApplied (word : String)
    (make : String → List String → List String → Statement) : Prop where
  /-- A switch may stand on either side of the name. -/
  leading : ∀ visibility switch name rest, isSwitch switch = true → isSwitch name = false →
    ∃ switches args, rest = switches ++ args ∧
      Reader.statementOf visibility (word :: switch :: name :: rest) =
        .ok (some (make name (switch :: switches) args)) ∧
      Reader.statementOf visibility (word :: name :: switch :: rest) =
        .ok (some (make name (switch :: switches) args))
  reads : ∀ visibility words statement,
    Reader.statementOf visibility (word :: words) = .ok (some statement) ↔
      ∃ name switches args, Applies words name switches args ∧
        statement = make name switches args

theorem readsApplied_of_read (directive : Directive) (missing : Missing)
    {make : String → List String → List String → Statement}
    (read : ∀ visibility words, directive.read visibility words =
      (readApplication missing words).map fun application =>
        some (make application.name application.switches application.args)) :
    ReadsApplied directive.word make := by
  have reads : ∀ visibility words statement,
      Reader.statementOf visibility (directive.word :: words) = .ok (some statement) ↔
        ∃ name switches args, Applies words name switches args ∧
          statement = make name switches args := by
    intro visibility words statement
    rw [Reader.statementOf_word_eq_ok_iff, read]
    constructor
    · intro made
      cases found : readApplication missing words with
      | error what =>
        rw [found] at made
        cases made
      | ok application =>
        rw [found] at made
        obtain ⟨name, switches, args⟩ := application
        exact ⟨name, switches, args, (readApplication_eq_ok_iff missing).1 found,
          (Option.some.inj (Except.ok.inj made)).symm⟩
    · rintro ⟨name, switches, args, applies, rfl⟩
      rw [(readApplication_eq_ok_iff missing).2 applies]
      rfl
  refine ⟨fun visibility switch name rest hyphen plain => ?_, reads⟩
  -- Either way the name comes first, and the switch begins the run behind it.
  have applies : ∀ words, swapLeadingSwitch words = name :: switch :: rest →
      Applies words name (switch :: rest.takeWhile isSwitch) (rest.dropWhile isSwitch) := by
    intro words front
    have applied := applies_of_front front
    rwa [List.takeWhile_cons_of_pos hyphen, List.dropWhile_cons_of_pos hyphen] at applied
  refine ⟨rest.takeWhile isSwitch, rest.dropWhile isSwitch,
    List.takeWhile_append_dropWhile.symm, ?_, ?_⟩
  · exact (reads _ _ _).2 ⟨_, _, _, applies _ (swapLeadingSwitch_switch hyphen name rest), rfl⟩
  · exact (reads _ _ _).2 ⟨_, _, _, applies _ (swapLeadingSwitch_name plain _), rfl⟩

/-- A pattern is defined, and a pattern or a tag is applied, by a name with switches on either side
of it and words after them. No word is lost, and the words after the switches keep their order. -/
theorem reads_applied :
    ReadsApplied "pattern" (fun name switches args =>
      .pattern ⟨name, switches, " ".intercalate args⟩) ∧
    ReadsApplied "apply_pattern" (fun name switches args =>
      .applyPattern ⟨name, switches, args⟩) ∧
    ReadsApplied "apply_tag" (fun name switches args =>
      .applyTag ⟨name, switches, args⟩) := by
  refine ⟨readsApplied_of_read .pattern .pattern ?_,
    readsApplied_of_read .applyPattern .pattern ?_, readsApplied_of_read .applyTag .tag ?_⟩
  all_goals
    intro visibility words
    rw [Directive.read]
    cases readApplication _ words <;> rfl

/-- Of two switches in front of a name, the second one is read as the name. -/
example : Reader.statementOf .exported ["apply_tag", "-all", "-first", "opt", "-dbg"] =
    .ok (some (.applyTag ⟨"-first", ["-all"], ["opt", "-dbg"]⟩)) := by
  decide

end Statement

end Requirements
