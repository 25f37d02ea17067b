import Requirements.Proofs.Lines
import Requirements.Proofs.Quoting
import Requirements.Proofs.Remarks

/-!
# Continued lines

A line may be broken at any of its blanks: its front then ends in a backslash after a space,
and its back stands on the next line. The parts of a logical line are joined by single spaces,
which need not be the blanks that were there, but they separate the same words, and tokens are
made of words alone. So the same is read, also where the break is inside a quoted span, in a
line that continues another, or in front of backslashes that continue the line themselves.
`reading_join_cut` says this of the significant lines, and `ofSource_breakLine` of sources.
-/

namespace Requirements

namespace Text

theorem trimStart_eq_self {text : List Char}
    (first : ∀ c, text.head? = some c → isBlank c = false) : trimStart text = text := by
  cases text with
  | nil => rfl
  | cons c rest => exact trimStart_cons_of_not_blank (first c rfl) rest

theorem trimEnd_eq_self {text : List Char}
    (last : ∀ c, text.getLast? = some c → isBlank c = false) : trimEnd text = text := by
  have back : trimStart text.reverse = text.reverse :=
    trimStart_eq_self fun c h => last c (by rw [← h, List.head?_reverse])
  have whole : trimEnd text = (trimStart text.reverse).reverse := rfl
  rw [whole, back, List.reverse_reverse]

/-- A text between two solid characters is trimmed. -/
theorem trim_eq_self {text : List Char} (first : ∀ c, text.head? = some c → isBlank c = false)
    (last : ∀ c, text.getLast? = some c → isBlank c = false) : trim text = text := by
  rw [trim, trimStart_eq_self first, trimEnd_eq_self last]

theorem trimEnd_append_blanks (text : List Char) {blanks : List Char}
    (gap : ∀ c ∈ blanks, isBlank c = true) : trimEnd (text ++ blanks) = trimEnd text := by
  have back : ∀ c ∈ blanks.reverse, isBlank c = true := by simpa using gap
  rw [trimEnd, List.reverse_append, List.dropWhile_append_of_pos back, trimEnd]

/-- A text that is trimmed at the end ends in a solid character. -/
theorem isBlank_getLast?_trimEnd {text : List Char} {c : Char}
    (h : (trimEnd text).getLast? = some c) : isBlank c = false := by
  have back : trimEnd text = (trimStart text.reverse).reverse := rfl
  rw [back, List.getLast?_reverse] at h
  exact head?_trimStart_not_blank h

theorem isBlank_getLast?_trim {text : List Char} {c : Char} (h : (trim text).getLast? = some c) :
    isBlank c = false := isBlank_getLast?_trimEnd h

theorem mem_of_mem_trim {text : List Char} {c : Char} (h : c ∈ trim text) : c ∈ text := by
  have front : c ∈ trimStart text :=
    List.mem_reverse.1 ((List.dropWhile_sublist _).subset (List.mem_reverse.1 h))
  exact (List.dropWhile_sublist _).subset front

theorem trimEnd_append (text : List Char) :
    trimEnd text ++ (text.reverse.takeWhile isBlank).reverse = text := by
  rw [trimEnd, ← List.reverse_append, List.takeWhile_append_dropWhile, List.reverse_reverse]

/-- The blanks that are trimmed at the end separate nothing. -/
theorem words_trimEnd (text : List Char) : words (trimEnd text) = words text := by
  have parts := trimEnd_append text
  by_cases none : text.reverse.takeWhile isBlank = []
  · rw [none, List.reverse_nil, List.append_nil] at parts
    rw [parts]
  · have gap : IsGap (text.reverse.takeWhile isBlank).reverse :=
      ⟨by simpa using none, fun c h => List.mem_takeWhile_imp (List.mem_reverse.1 h)⟩
    have split := words_append_gap gap (trimEnd text) []
    rw [List.append_nil, parts, words_nil, List.append_nil] at split
    exact split.symm

end Text

namespace Line

/-- A line that counts is cut at some of its blanks into two texts, of which the second could
stand by itself. -/
structure Cut (line front back : List Char) : Prop where
  counts : isSignificant (Text.trim line) = true
  apart : ∃ gap, Text.IsGap gap ∧ Text.trim line = front ++ gap ++ back
  filled : front ≠ []
  starts : ∃ c, back.head? = some c ∧ Text.isBlank c = false ∧ c ≠ '#'

/-- The front of a line that is continued on the next one. -/
def unfinished (front : List Char) : List Char := front ++ [' ', '\\']

/-- A source in which the line at a place is broken into a front and a back. -/
def breakLine (source : String) (position : Nat) (front back : String) : String :=
  .ofList (['\n'].intercalate ((physical source.toList).take position ++
    unfinished front.toList :: back.toList :: (physical source.toList).drop (position + 1)))

theorem words_glue (text more : List Char) :
    Text.words (glue text more) = Text.words text ++ Text.words more := by
  rcases more with _ | ⟨c, rest⟩
  · simp
  · rcases text with _ | ⟨d, text⟩
    · simp
    · exact Text.words_append_blank Text.isBlank_space (d :: text) (c :: rest)

theorem glue_ne_nil {text : List Char} (filled : text ≠ []) (more : List Char) :
    glue text more ≠ [] := by
  rcases more with _ | ⟨c, rest⟩
  · rwa [glue_nil_right]
  · simp [glue, filled]

/-- Only the backslashes at the end decide whether a line is continued. -/
theorem isContinued_append_cons {c : Char} (other : c ≠ '\\') (before after : List Char) :
    isContinued (before ++ c :: after) = isContinued after := by
  have run : (before ++ c :: after).reverse.takeWhile (· == '\\') =
      after.reverse.takeWhile (· == '\\') := by
    rw [List.reverse_append, List.reverse_cons, List.append_assoc, List.takeWhile_append]
    split
    · rename_i whole
      have all := (List.takeWhile_prefix (· == '\\')).eq_of_length whole
      simp [other, all]
    · rfl
  rw [isContinued, isContinued, run]

theorem words_body (line : List Char) :
    Text.words (body line) = Text.words (if isContinued line then line.dropLast else line) := by
  rw [body]
  split
  · exact Text.words_trimEnd _
  · rfl

theorem isSignificant_of_head? {line : List Char} {c : Char} (first : line.head? = some c)
    (other : c ≠ '#') : isSignificant line = true := by
  simp [isSignificant, first, other]

theorem isContinued_unfinished (front : List Char) : isContinued (unfinished front) = true := by
  rw [unfinished, isContinued_append_cons (by decide)]
  decide

theorem words_body_unfinished (front : List Char) :
    Text.words (body (unfinished front)) = Text.words front := by
  have whole : unfinished front = (front ++ [' ']) ++ ['\\'] := by simp [unfinished]
  rw [words_body, isContinued_unfinished, if_pos rfl, whole, List.dropLast_concat,
    Text.words_append_blank Text.isBlank_space, Text.words_nil, List.append_nil]

namespace Cut

variable {line front back : List Char}

/-- The front begins as the line does. -/
theorem front_starts (cut : Cut line front back) :
    ∃ c, front.head? = some c ∧ Text.isBlank c = false ∧ c ≠ '#' := by
  obtain ⟨c, rest, rfl⟩ := List.exists_cons_of_ne_nil cut.filled
  obtain ⟨gap, -, whole⟩ := cut.apart
  have first : (Text.trim line).head? = some c := by rw [whole]; rfl
  refine ⟨c, rfl, ?_, ?_⟩
  · rw [Text.head?_trim] at first
    simpa using List.find?_some first
  · rintro rfl
    simpa [isSignificant, first] using cut.counts

/-- The back ends as the line does. -/
theorem back_ends (cut : Cut line front back) {c : Char} (last : back.getLast? = some c) :
    Text.isBlank c = false := by
  obtain ⟨gap, -, whole⟩ := cut.apart
  have final : (Text.trim line).getLast? = some c := by
    rw [whole, List.getLast?_append, last, Option.some_or]
  exact Text.isBlank_getLast?_trim final

theorem significant?_front (cut : Cut line front back) (number : Nat) :
    significant? (unfinished front, number) = some (number, unfinished front) := by
  obtain ⟨c, first, solid, other⟩ := cut.front_starts
  have starts : (unfinished front).head? = some c := by
    rw [unfinished, List.head?_append, first, Option.some_or]
  have trimmed : Text.trim (unfinished front) = unfinished front := by
    refine Text.trim_eq_self (fun d h => ?_) (fun d h => ?_)
    · rw [Option.some.inj (h.symm.trans starts), solid]
    · rw [unfinished, List.getLast?_append, List.getLast?_cons_cons, List.getLast?_singleton,
        Option.some_or, Option.some.injEq] at h
      subst h
      decide
  simp [significant?, trimmed, isSignificant_of_head? starts other]

theorem significant?_back (cut : Cut line front back) (number : Nat) :
    significant? (back, number) = some (number, back) := by
  obtain ⟨c, first, solid, other⟩ := cut.starts
  have trimmed : Text.trim back = back := by
    refine Text.trim_eq_self (fun d h => ?_) (fun d h => cut.back_ends h)
    rw [Option.some.inj (h.symm.trans first), solid]
  simp [significant?, trimmed, isSignificant_of_head? first other]

/-- The back is continued where the line is: a blank stands before its backslashes. -/
theorem isContinued_eq (cut : Cut line front back) :
    isContinued (Text.trim line) = isContinued back := by
  obtain ⟨gap, between, whole⟩ := cut.apart
  obtain rfl | ⟨blanks, c, rfl⟩ := List.eq_nil_or_concat gap
  · exact absurd rfl between.filled
  · have blank : Text.isBlank c = true := between.blank c (by simp)
    have other : c ≠ '\\' := by
      rintro rfl
      exact absurd blank (by decide)
    have split : front ++ blanks.concat c ++ back = (front ++ blanks) ++ c :: back := by simp
    rw [whole, split, isContinued_append_cons other]

/-- Front and back have the words of the line. -/
theorem words_body_eq (cut : Cut line front back) :
    Text.words (body (Text.trim line)) =
      Text.words (body (unfinished front)) ++ Text.words (body back) := by
  obtain ⟨gap, between, whole⟩ := cut.apart
  have filled : back ≠ [] := by
    obtain ⟨c, first, -⟩ := cut.starts
    rintro rfl
    cases first
  rw [words_body_unfinished, words_body, words_body, cut.isContinued_eq]
  split
  · rw [whole, List.dropLast_append_of_ne_nil filled, Text.words_append_gap between]
  · rw [whole, Text.words_append_gap between]

theorem words_front_ne_nil (cut : Cut line front back) : Text.words front ≠ [] := by
  obtain ⟨c, first, solid, -⟩ := cut.front_starts
  exact Text.words_ne_nil (List.mem_of_head? first) solid

theorem body_front_ne_nil (cut : Cut line front back) : body (unfinished front) ≠ [] := by
  intro none
  apply cut.words_front_ne_nil
  rw [← words_body_unfinished, none, Text.words_nil]

theorem body_ne_nil (cut : Cut line front back) : body (Text.trim line) ≠ [] := by
  intro none
  have parts := cut.words_body_eq
  rw [none, Text.words_nil, words_body_unfinished] at parts
  exact cut.words_front_ne_nil (List.append_eq_nil_iff.1 parts.symm).1

end Cut

/-- Of the text of a logical line only the words are read. -/
theorem reading_emit {text other : List Char} (same : Text.words other = Text.words text)
    (filled : text ≠ []) (filled' : other ≠ []) (number : Nat) :
    (emit number other).map LogicalLine.reading = (emit number text).map LogicalLine.reading := by
  simp [emit, filled, filled', LogicalLine.reading, tokenize, same]

theorem glue_ne_nil_of_right {more : List Char} (filled : more ≠ []) (text : List Char) :
    glue text more ≠ [] := by
  rcases text with _ | ⟨c, rest⟩
  · rwa [glue_nil_left]
  · exact glue_ne_nil (by simp) more

/-- After parts of the same words, lines proceed alike. -/
theorem reading_proceed {text other : List Char} (same : Text.words other = Text.words text)
    (filled : text ≠ []) (filled' : other ≠ []) (continued : Bool) (start : Nat)
    (rest : List (Nat × List Char)) :
    (proceed continued start other rest).map LogicalLine.reading =
      (proceed continued start text rest).map LogicalLine.reading := by
  induction rest generalizing text other continued with
  | nil =>
    have ended := reading_emit same filled filled' start
    cases continued with
    | true => exact ended
    | false => rw [proceed_false, proceed_false, List.map_append, List.map_append, ended]
  | cons part rest ih =>
    cases continued with
    | true =>
      obtain ⟨number, line⟩ := part
      have longer : Text.words (glue other (body line)) = Text.words (glue text (body line)) := by
        rw [words_glue, words_glue, same]
      rw [proceed_true, proceed_true, join_cons, join_cons]
      exact ih longer (glue_ne_nil filled _) (glue_ne_nil filled' _) (isContinued line)
    | false =>
      rw [proceed_false, proceed_false, List.map_append, List.map_append,
        reading_emit same filled filled']

/-- The number of a logical line that begins no later than the break stays. -/
theorem shift_eq_self {position number : Nat} (above : number ≤ position) :
    shift position number = number := by
  rw [shift, if_neg]
  omega

/-- A break in one of the significant lines is not seen in what is read. The induction is on
the lines above it, which may hold the beginning of the same logical line. -/
theorem reading_join_cut {line front back : List Char} (cut : Cut line front back)
    {number : Nat} {pending : Option (Nat × List Char)}
    (begun : ∀ held, pending = some held → held.1 ≤ number)
    {above : List (Nat × List Char)} (before : ∀ part ∈ above, part.1 ≤ number)
    (below : List (Nat × List Char)) :
    (join pending (above ++ (number, unfinished front) :: (number + 1, back) ::
        below.map (Prod.map (shift number) id))).map LogicalLine.reading =
      ((join pending (above ++ (number, Text.trim line) :: below)).map LogicalLine.reading).map
        (Prod.map (shift number) id) := by
  induction above generalizing pending with
  | nil =>
    have early : (pending.getD (number, [])).1 ≤ number := by
      cases pending with
      | none => exact Nat.le_refl number
      | some held => exact begun held rfl
    rw [List.nil_append, List.nil_append, join_cons, join_cons]
    generalize pending.getD (number, []) = held at early ⊢
    obtain ⟨start, text⟩ := held
    have parts : Text.words (glue (glue text (body (unfinished front))) (body back)) =
        Text.words (glue text (body (Text.trim line))) := by
      rw [words_glue, words_glue, words_glue, cut.words_body_eq, List.append_assoc]
    have filled := glue_ne_nil_of_right cut.body_ne_nil text
    have filled' := glue_ne_nil (glue_ne_nil_of_right cut.body_front_ne_nil text) (body back)
    have moved := proceed_map (shift number) (isContinued back) start
      (glue (glue text (body (unfinished front))) (body back)) below
    rw [shift_eq_self early] at moved
    rw [isContinued_unfinished, proceed_true, join_cons, Option.getD_some, cut.isContinued_eq,
      moved, LogicalLine.map_reading_renumber, reading_proceed parts filled filled']
  | cons part above ih =>
    obtain ⟨place, part⟩ := part
    have early : (pending.getD (place, [])).1 ≤ number := by
      cases pending with
      | none => exact before (place, part) List.mem_cons_self
      | some held => exact begun held rfl
    have later : ∀ part ∈ above, part.1 ≤ number := fun part member =>
      before part (List.mem_cons_of_mem _ member)
    rw [List.cons_append, List.cons_append, join_cons, join_cons]
    cases isContinued part with
    | true =>
      refine ih (fun held same => ?_) later
      obtain rfl := Option.some.inj same
      exact early
    | false =>
      have rest := @ih none nofun later
      have kept := congrArg (List.map LogicalLine.reading)
        (emit_renumber (shift number) (pending.getD (place, [])).1
          (glue (pending.getD (place, [])).2 (body part)))
      rw [shift_eq_self early, LogicalLine.map_reading_renumber] at kept
      rw [proceed_false, proceed_false, List.map_append, List.map_append, List.map_append, rest,
        ← kept]

theorem eq_take_cons_drop {lines : List (List Char)} {position : Nat} {line : List Char}
    (there : lines[position]? = some line) :
    lines = lines.take position ++ line :: lines.drop (position + 1) := by
  obtain ⟨inside, rfl⟩ := List.getElem?_eq_some_iff.1 there
  rw [← List.drop_eq_getElem_cons inside, List.take_append_drop]

variable {source front back : String} {position : Nat} {line : List Char}

/-- Front and back are two physical lines in the place of one. -/
theorem physical_breakLine (there : (physical source.toList)[position]? = some line)
    (cut : Cut line front.toList back.toList) :
    physical (breakLine source position front back).toList =
      (physical source.toList).take position ++ unfinished front.toList :: back.toList ::
        (physical source.toList).drop (position + 1) := by
  obtain ⟨gap, -, whole⟩ := cut.apart
  have single : '\n' ∉ front.toList ++ gap ++ back.toList := fun member => by
    rw [← whole] at member
    exact not_mem_of_mem_physical (List.mem_of_getElem? there) (Text.mem_of_mem_trim member)
  rw [breakLine, String.toList_ofList, physical, List.splitOn_intercalate]
  · intro piece member
    simp only [List.mem_append, List.mem_cons] at member single
    rcases member with above | rfl | rfl | below
    · exact not_mem_of_mem_physical (List.mem_of_mem_take above)
    · simpa [unfinished] using fun h => single (.inl (.inl h))
    · exact fun h => single (.inr h)
    · exact not_mem_of_mem_physical (List.mem_of_mem_drop below)
  · simp

/-- So are they among the significant lines, and all that follow are renumbered. -/
theorem significant_breakLine (there : (physical source.toList)[position]? = some line)
    (cut : Cut line front.toList back.toList) :
    ∃ above below, (∀ part ∈ above, part.1 ≤ position + 1) ∧
      significant source.toList = above ++ (position + 1, Text.trim line) :: below ∧
      significant (breakLine source position front back).toList =
        above ++ (position + 1, unfinished front.toList) :: (position + 2, back.toList) ::
          below.map (Prod.map (shift (position + 1)) id) := by
  obtain ⟨inside, -⟩ := List.getElem?_eq_some_iff.1 there
  have length : 1 + ((physical source.toList).take position).length = position + 1 := by
    rw [List.length_take_of_le (Nat.le_of_lt inside), Nat.add_comm]
  have counted : significant? (line, position + 1) = some (position + 1, Text.trim line) := by
    simp [significant?, cut.counts]
  refine ⟨(((physical source.toList).take position).zipIdx 1).filterMap significant?,
    (((physical source.toList).drop (position + 1)).zipIdx (position + 2)).filterMap significant?,
    fun part member => ?_, ?_, ?_⟩
  · obtain ⟨⟨text, number⟩, listed, kept⟩ := List.mem_filterMap.1 member
    simp only [significant?, Option.ite_none_right_eq_some, Option.some.injEq] at kept
    obtain ⟨-, rfl⟩ := kept
    have found := (List.mk_mem_zipIdx_iff_le_and_getElem?_sub.1 listed).2
    have bound := (List.getElem?_eq_some_iff.1 found).1
    rw [List.length_take] at bound
    show number ≤ position + 1
    omega
  · rw [significant_eq]
    conv_lhs => rw [eq_take_cons_drop there]
    rw [List.zipIdx_append, List.zipIdx_cons, length, List.filterMap_append,
      List.filterMap_cons_some counted]
  · rw [significant_eq, physical_breakLine there cut, List.zipIdx_append, List.zipIdx_cons,
      List.zipIdx_cons, length, List.filterMap_append,
      List.filterMap_cons_some (cut.significant?_front _),
      List.filterMap_cons_some (cut.significant?_back _), ← filterMap_significant?_map,
      ← zipIdx_below]

theorem reading_breakLine (there : (physical source.toList)[position]? = some line)
    (cut : Cut line front.toList back.toList) :
    (logicalLines (breakLine source position front back)).map LogicalLine.reading =
      ((logicalLines source).map LogicalLine.reading).map
        (Prod.map (shift (position + 1)) id) := by
  obtain ⟨above, below, early, whole, broken⟩ := significant_breakLine there cut
  rw [logicalLines, logicalLines, whole, broken]
  exact reading_join_cut cut (by simp) early below

end Line

/-- Breaking a line changes nothing. Wherever a line that counts is cut at some of its blanks,
its front and its back become two physical lines, and the source is read as the same file or
ends in the same fault: the logical lines have the same tokens, and only the numbers of those
that begin below the break grow by one. -/
theorem File.ofSource_breakLine (path : Path) {source front back : String} {position : Nat}
    {line : List Char} (there : (Line.physical source.toList)[position]? = some line)
    (cut : Line.Cut line front.toList back.toList) :
    Line.physical (Line.breakLine source position front back).toList =
        (Line.physical source.toList).take position ++ Line.unfinished front.toList ::
          back.toList :: (Line.physical source.toList).drop (position + 1) ∧
      (logicalLines (Line.breakLine source position front back)).map LogicalLine.reading =
        ((logicalLines source).map LogicalLine.reading).map
          (Prod.map (Line.shift (position + 1)) id) ∧
      File.ofSource path (Line.breakLine source position front back) =
        (File.ofSource path source).mapError (ReadError.shift (position + 1)) := by
  have readings := Line.reading_breakLine there cut
  refine ⟨Line.physical_breakLine there cut, readings, ?_⟩
  rw [ReadError.shift_eq]
  exact Reader.readSource_renumber readings (Reader.start path)

/-- The break is inside a quoted span of a line that continues another and is itself continued.
The fault is below it. -/
theorem File.ofSource_breakLine_quoted :
    let path : Path := ⟨"Foo/cmt/requirements"⟩
    let source := "set A \\\n \"say  hi\" \\\n gcc no\nend_private\n"
    let line := [' ', '"', 's', 'a', 'y', ' ', ' ', 'h', 'i', '"', ' ', '\\']
    let front := "\"say"
    let back := "hi\" \\"
    let fault : LineFault := .unbalanced (.closeSection .internal)
    (Line.physical source.toList)[1]? = some line ∧ Line.Cut line front.toList back.toList ∧
      Line.breakLine source 1 front back =
        "set A \\\n\"say \\\nhi\" \\\n gcc no\nend_private\n" ∧
      (logicalLines (Line.breakLine source 1 front back)).map LogicalLine.reading =
        [(1, ["set", "A", "say hi", "gcc", "no"]), (5, ["end_private"])] ∧
      File.ofSource path source = .error (.line path 4 fault) ∧
      File.ofSource path (Line.breakLine source 1 front back) = .error (.line path 5 fault) := by
  intro path source line front back fault
  have there : (Line.physical source.toList)[1]? = some line := by decide +kernel
  have cut : Line.Cut line front.toList back.toList :=
    { counts := by decide +kernel
      apart := ⟨[' ', ' '], by decide, by decide +kernel⟩
      filled := by decide +kernel
      starts := ⟨'h', by decide +kernel, by decide, by decide⟩ }
  have lines : (logicalLines source).map LogicalLine.reading =
      [(1, ["set", "A", "say hi", "gcc", "no"]), (4, ["end_private"])] := by
    decide +kernel
  have failed : File.ofSource path source = .error (.line path 4 fault) := by decide +kernel
  obtain ⟨-, lines', read⟩ := File.ofSource_breakLine path there cut
  rw [lines] at lines'
  rw [failed] at read
  exact ⟨there, cut, by decide +kernel, lines', failed, read⟩

end Requirements
