import Requirements.Proofs.Continuation
import Requirements.Proofs.Cuts

/-!
# Runs of continued lines

A line that ends in an odd number of backslashes goes on in the next significant line. The
significant lines of a source are cut into runs, each of which ends with the first line that
does not go on. `logicalLines_runs` says that each run is a logical line, unless nothing at all
is written on it, which can only be so for a last run of backslashes. A logical line bears the
number of the first line of its run, and its text is what the lines of the run contribute, with
single spaces between. So the numbers ascend, and no text is empty, begins or ends with a blank
or looks like a comment.
-/

namespace Requirements

namespace Line

/-- A line ends in an odd number of backslashes. -/
def GoesOn (line : List Char) : Prop :=
  ∃ front count, line = front ++ List.replicate (2 * count + 1) '\\' ∧ front.getLast? ≠ some '\\'

/-- What a line contributes to a logical line: all of itself if it does not go on, and else what
stands in front of its last backslash and of the blanks before that. -/
inductive Contributes : List Char → List Char → Prop
  | whole {line : List Char} (ends : ¬ GoesOn line) : Contributes line line
  | front {kept blanks : List Char} (goes : GoesOn (kept ++ blanks ++ ['\\']))
    (gap : ∀ c ∈ blanks, Text.isBlank c = true)
    (solid : ∀ c, kept.getLast? = some c → Text.isBlank c = false) :
    Contributes (kept ++ blanks ++ ['\\']) kept

/-- What the lines of a run contribute, apart from those that contribute nothing. -/
def bodies (run : List (Nat × List Char)) : List (List Char) :=
  (run.map fun part => body part.2).filter (· ≠ [])

/-- A text with something written on it: it is not empty, neither begins nor ends with a blank, and
is no comment. -/
def IsWritten (text : List Char) : Prop :=
  ∃ first last, text.head? = some first ∧ text.getLast? = some last ∧
    Text.isBlank first = false ∧ Text.isBlank last = false ∧ first ≠ '#'

/-- The logical line of a run. -/
def ofRun (run : List (Nat × List Char)) : LogicalLine where
  number := (run.head?.map Prod.fst).getD 0
  text := .ofList (Text.spaced (bodies run))

/-- The lines of a source that are neither blank nor comments, trimmed and with their numbers, are
cut into runs, each of which ends with the first line that does not go on. -/
structure IsRuns (source : String) (runs : List (List (Nat × List Char))) : Prop where
  significant : ∀ number text, (number, text) ∈ runs.flatten ↔
    1 ≤ number ∧ text ≠ [] ∧ text.head? ≠ some '#' ∧
      ∃ raw, (physical source.toList)[number - 1]? = some raw ∧ Text.trim raw = text
  ordered : runs.flatten.Pairwise fun first second => first.1 < second.1
  cut : ∀ others, IsCut (fun _ part => ¬ GoesOn part.2) runs.flatten others ↔ others = runs
  /-- The body of a line is what it contributes. -/
  body : ∀ line text, Contributes line text ↔ text = body line

theorem isContinued_append_replicate {front : List Char} (other : front.getLast? ≠ some '\\')
    (count : Nat) :
    isContinued (front ++ List.replicate count '\\') = (count % 2 == 1) := by
  have stop : front.reverse.takeWhile (· == '\\') = [] := by
    rw [← List.head?_reverse] at other
    cases back : front.reverse with
    | nil => rfl
    | cons c rest =>
      rw [back] at other
      simpa using other
  have all : ∀ c ∈ List.replicate count '\\', (c == '\\') = true := by simp
  rw [isContinued, List.reverse_append, List.reverse_replicate,
    List.takeWhile_append_of_pos all, stop]
  simp

theorem isContinued_iff {line : List Char} : isContinued line = true ↔ GoesOn line := by
  constructor
  · intro continued
    let front := (line.reverse.dropWhile (· == '\\')).reverse
    let run := line.reverse.takeWhile (· == '\\')
    have slashes : run = List.replicate run.length '\\' :=
      List.eq_replicate_of_mem fun c member => by simpa using List.mem_takeWhile_imp member
    have whole : line = front ++ List.replicate run.length '\\' := by
      rw [← List.reverse_replicate, ← slashes, ← List.reverse_append,
        List.takeWhile_append_dropWhile, List.reverse_reverse]
    have other : front.getLast? ≠ some '\\' := by
      intro last
      have first := List.head?_dropWhile_not (· == '\\') line.reverse
      rw [List.getLast?_reverse] at last
      rw [last] at first
      simp at first
    rw [whole, isContinued_append_replicate other, beq_iff_eq] at continued
    refine ⟨front, run.length / 2, ?_, other⟩
    rw [show 2 * (run.length / 2) + 1 = run.length by omega]
    exact whole
  · rintro ⟨front, count, rfl, other⟩
    rw [isContinued_append_replicate other, beq_iff_eq]
    omega

theorem isContinued_eq_false_iff {line : List Char} : isContinued line = false ↔ ¬ GoesOn line := by
  rw [← isContinued_iff, Bool.not_eq_true]

theorem GoesOn.getLast?_eq {line : List Char} (h : GoesOn line) : line.getLast? = some '\\' := by
  obtain ⟨front, count, rfl, -⟩ := h
  simp [List.getLast?_append, List.getLast?_replicate]

theorem contributes_iff {line text : List Char} : Contributes line text ↔ text = body line := by
  constructor
  · rintro (ends | ⟨goes, gap, solid⟩)
    · exact (body_of_not_continued (isContinued_eq_false_iff.2 ends)).symm
    · rw [body, if_pos (isContinued_iff.2 goes), List.dropLast_concat,
        Text.trimEnd_append_blanks _ gap, Text.trimEnd_eq_self solid]
  · rintro rfl
    by_cases goes : GoesOn line
    · obtain ⟨front, rfl⟩ := List.getLast?_eq_some_iff.1 goes.getLast?_eq
      have gap : ∀ c ∈ (front.reverse.takeWhile Text.isBlank).reverse, Text.isBlank c = true :=
        fun c member => List.mem_takeWhile_imp (List.mem_reverse.1 member)
      have parts := Text.trimEnd_append front
      rw [body, if_pos (isContinued_iff.2 goes), List.dropLast_concat]
      rw [← parts] at goes
      have contributed := Contributes.front goes gap fun c => Text.isBlank_getLast?_trimEnd
      rwa [parts] at contributed
    · rw [body_of_not_continued (isContinued_eq_false_iff.2 goes)]
      exact .whole goes

/-! ### Joining a run -/

theorem textOf_eq (run : List (Nat × List Char)) : textOf run = Text.spaced (bodies run) :=
  foldl_glue _

theorem textOf_eq_nil_iff {run : List (Nat × List Char)} : textOf run = [] ↔ bodies run = [] := by
  rw [textOf_eq]
  constructor
  · intro none
    by_contra some
    exact Text.spaced_ne_nil some (by simp [bodies]) none
  · intro none
    rw [none]
    rfl

/-- A run of which something is written is emitted as its logical line. -/
theorem emit_textOf {run : List (Nat × List Char)} {number : Nat}
    (first : run.head?.map Prod.fst = some number) :
    emit number (textOf run) = if bodies run ≠ [] then [ofRun run] else [] := by
  have line : ofRun run = ⟨number, .ofList (textOf run)⟩ := by
    rw [ofRun, first, textOf_eq, Option.getD_some]
  simp only [emit, List.isEmpty_iff, textOf_eq_nil_iff, line, ite_not]

/-- Lines that go on are held until the next one. -/
theorem join_append_of_goesOn {more : List (Nat × List Char)} (goes : ∀ part ∈ more, GoesOn part.2)
    (held rest : List (Nat × List Char)) :
    join (pendingOf held) (more ++ rest) = join (pendingOf (held ++ more)) rest := by
  induction more generalizing held with
  | nil => simp
  | cons part more ih =>
    obtain ⟨number, line⟩ := part
    obtain ⟨here, later⟩ := List.forall_mem_cons.1 goes
    obtain ⟨start, pending, -, next⟩ := getD_pendingOf held number line
    have step := ih later (held ++ [(number, line)])
    rw [next, textOf_concat, List.append_assoc, List.singleton_append] at step
    rw [List.cons_append, join_cons, pending, isContinued_iff.2 here, proceed_true, step]

/-- A run is one logical line, and the next run begins afresh. -/
theorem join_run {front items : List (Nat × List Char)} {item : Nat × List Char}
    (goes : ∀ part ∈ front, GoesOn part.2) (last : ¬ GoesOn item.2) :
    join none (front ++ item :: items) =
      (if bodies (front ++ [item]) ≠ [] then [ofRun (front ++ [item])] else []) ++
        join none items := by
  obtain ⟨number, line⟩ := item
  obtain ⟨start, pending, first, -⟩ := getD_pendingOf front number line
  have held := join_append_of_goesOn goes [] ((number, line) :: items)
  rw [List.nil_append] at held
  rw [← emit_textOf first, textOf_concat]
  refine held.trans ?_
  rw [join_cons, pending, isContinued_eq_false_iff.2 last, proceed_false]

/-- What is left at the end is one logical line too. -/
theorem join_rest {run : List (Nat × List Char)} (filled : run ≠ [])
    (goes : ∀ part ∈ run, GoesOn part.2) :
    join none run = if bodies run ≠ [] then [ofRun run] else [] := by
  have held := join_append_of_goesOn goes [] []
  rw [List.append_nil, List.nil_append] at held
  obtain ⟨⟨number, line⟩, rest, rfl⟩ := List.exists_cons_of_ne_nil filled
  rw [← emit_textOf rfl]
  exact held

theorem join_eq_of_isCut {lines : List (Nat × List Char)} {runs : List (List (Nat × List Char))}
    (cut : IsCut (fun _ part => ¬ GoesOn part.2) lines runs) :
    join none lines = (runs.filter fun run => bodies run ≠ []).map ofRun := by
  induction cut with
  | nothing => rfl
  | @rest group filled stays =>
    have goes := staysOpen_iff.1 stays
    rw [join_rest filled fun part member => not_not.1 (goes part member)]
    by_cases written : bodies group = [] <;> simp [written]
  | @next front items item groups stays last later ih =>
    have goes := staysOpen_iff.1 stays
    rw [join_run (fun part member => not_not.1 (goes part member)) last, ih]
    by_cases written : bodies (front ++ [item]) = [] <;> simp [written]

/-! ### Numbers and texts -/

theorem significant_ordered (source : List Char) :
    (significant source).Pairwise fun first second => first.1 < second.1 := by
  have numbers : ((physical source).zipIdx 1).Pairwise fun first second => first.2 < second.2 := by
    rw [← List.pairwise_map (f := Prod.snd) (R := (· < ·)), List.zipIdx_map_snd]
    exact List.pairwise_lt_range'
  rw [significant_eq]
  refine numbers.filterMap _ fun first second lt => ?_
  intro part kept part' kept'
  simp only [significant?, Option.ite_none_right_eq_some, Option.some.injEq] at kept kept'
  obtain ⟨-, rfl⟩ := kept
  obtain ⟨-, rfl⟩ := kept'
  exact lt

theorem isSignificant_iff {line : List Char} :
    isSignificant line = true ↔ line ≠ [] ∧ line.head? ≠ some '#' := by
  cases line <;> simp [isSignificant]

theorem isRuns_of_isCut {source : String} {runs : List (List (Nat × List Char))}
    (cut : ∀ others, IsCut (fun _ part => ¬ GoesOn part.2) (significant source.toList) others ↔
      others = runs) : IsRuns source runs := by
  have all := ((cut runs).2 rfl).flatten
  refine ⟨fun number text => ?_, ?_, ?_, fun line text => contributes_iff⟩
  · rw [all, mem_significant, isSignificant_iff, and_assoc]
  · rw [all]
    exact significant_ordered source.toList
  · rw [all]
    exact cut

/-- What a line contributes begins as the line does. -/
theorem head?_body {line : List Char} {c : Char} (h : (body line).head? = some c) :
    line.head? = some c := by
  have front : body line <+: line := by
    rw [body]
    split
    · have kept : Text.trimEnd line.dropLast <+: line.dropLast := ⟨_, Text.trimEnd_append _⟩
      exact kept.trans (List.dropLast_prefix line)
    · exact List.prefix_refl line
  obtain ⟨rest, whole⟩ := front
  rw [← whole, List.head?_append, h, Option.some_or]

/-- What a trimmed line contributes ends in a solid character. -/
theorem isBlank_getLast?_body {raw : List Char} {c : Char}
    (h : (body (Text.trim raw)).getLast? = some c) : Text.isBlank c = false := by
  rw [body] at h
  split at h
  · exact Text.isBlank_getLast?_trimEnd h
  · exact Text.isBlank_getLast?_trim h

theorem isWritten_body {raw : List Char} (counts : isSignificant (Text.trim raw) = true)
    (filled : body (Text.trim raw) ≠ []) : IsWritten (body (Text.trim raw)) := by
  obtain ⟨first, head⟩ := Option.ne_none_iff_exists'.1 (mt List.head?_eq_none_iff.1 filled)
  obtain ⟨last, final⟩ := Option.ne_none_iff_exists'.1 (mt List.getLast?_eq_none_iff.1 filled)
  have start := head?_body head
  refine ⟨first, last, head, final, ?_, isBlank_getLast?_body final, ?_⟩
  · rw [Text.head?_trim] at start
    simpa using List.find?_some start
  · rintro rfl
    exact (isSignificant_iff.1 counts).2 start

/-- Spaces between texts do not change how the whole begins and ends. -/
theorem isWritten_spaced {texts : List (List Char)} (filled : texts ≠ [])
    (written : ∀ text ∈ texts, IsWritten text) : IsWritten (Text.spaced texts) := by
  induction texts with
  | nil => exact absurd rfl filled
  | cons text texts ih =>
    obtain ⟨here, others⟩ := List.forall_mem_cons.1 written
    cases texts with
    | nil => simpa using here
    | cons next texts =>
      obtain ⟨first, -, head, -, solid, -, comment⟩ := here
      obtain ⟨-, last, -, final, -, solid', -⟩ := ih (by simp) others
      refine ⟨first, last, ?_, ?_, solid, solid', comment⟩
      · simp [head]
      · simp [List.getLast?_append, List.getLast?_cons, final]

/-- A run of which something is written is a line on which something is written. -/
theorem isWritten_ofRun {source : String} {run : List (Nat × List Char)}
    (counts : ∀ part ∈ run, part ∈ significant source.toList) (filled : bodies run ≠ []) :
    IsWritten (ofRun run).text.toList := by
  rw [ofRun, String.toList_ofList]
  refine isWritten_spaced filled fun text member => ?_
  obtain ⟨member, some⟩ := List.mem_filter.1 member
  obtain ⟨⟨number, line⟩, part, rfl⟩ := List.mem_map.1 member
  obtain ⟨-, counts, raw, -, rfl⟩ := mem_significant.1 (counts _ part)
  exact isWritten_body counts (by simpa using some)

/-- Only the last run can have nothing written on it: the others end with a line that does not go
on, and so contributes all of itself. -/
theorem bodies_ne_nil {source : String} {runs : List (List (Nat × List Char))}
    (cut : IsCut (fun _ part => ¬ GoesOn part.2) (significant source.toList) runs)
    {run : List (Nat × List Char)} (member : run ∈ runs.dropLast) : bodies run ≠ [] := by
  obtain ⟨front, ⟨number, line⟩, rfl, last⟩ := cut.exists_of_mem_dropLast member
  have counts : (number, line) ∈ significant source.toList := by
    rw [← cut.flatten]
    exact List.mem_flatten.2 ⟨_, List.dropLast_subset _ member, by simp⟩
  have whole := body_of_not_continued (isContinued_eq_false_iff.2 last)
  have filled := (isSignificant_iff.1 (mem_significant.1 counts).2.1).1
  simp [bodies, whole, filled]

/-- The lines of runs bear ascending numbers. -/
theorem pairwise_number_ofRun {lines : List (Nat × List Char)}
    {runs : List (List (Nat × List Char))} (ordered : lines.Pairwise fun a b => a.1 < b.1)
    (cut : IsCut (fun _ part => ¬ GoesOn part.2) lines runs) :
    (runs.map ofRun).Pairwise fun first second => first.number < second.number := by
  rw [← cut.flatten, List.pairwise_flatten] at ordered
  refine List.pairwise_map.2 (ordered.2.imp_of_mem fun {run other} mem₁ mem₂ lt => ?_)
  obtain ⟨first, rest, rfl⟩ := List.exists_cons_of_ne_nil (cut.ne_nil_of_mem mem₁)
  obtain ⟨second, rest', rfl⟩ := List.exists_cons_of_ne_nil (cut.ne_nil_of_mem mem₂)
  exact lt first List.mem_cons_self second List.mem_cons_self

end Line

open Line in
/-- The logical lines of a source are the runs of its significant lines, in order, apart from a last
one on which nothing is written. -/
theorem logicalLines_runs (source : String) :
    ∃ runs, IsRuns source runs ∧
      logicalLines source = (runs.filter fun run => bodies run ≠ []).map ofRun ∧
      (∀ run ∈ runs.dropLast, bodies run ≠ []) ∧
      ((logicalLines source).Pairwise fun first second => first.number < second.number) ∧
      ∀ line ∈ logicalLines source, IsWritten line.text.toList := by
  obtain ⟨runs, only⟩ := exists_isCut_iff (fun _ part => ¬ GoesOn part.2)
    (significant source.toList)
  have cut := (only runs).2 rfl
  have lines : logicalLines source = (runs.filter fun run => bodies run ≠ []).map ofRun :=
    join_eq_of_isCut cut
  refine ⟨runs, isRuns_of_isCut only, lines, fun run => bodies_ne_nil cut, ?_, ?_⟩
  · rw [lines]
    exact (pairwise_number_ofRun (significant_ordered _) cut).sublist (List.filter_sublist.map _)
  · intro line member
    rw [lines] at member
    obtain ⟨run, kept, rfl⟩ := List.mem_map.1 member
    obtain ⟨among, filled⟩ := List.mem_filter.1 kept
    have counts (part : Nat × List Char) (inside : part ∈ run) :
        part ∈ significant source.toList := by
      rw [← cut.flatten]
      exact List.mem_flatten.2 ⟨run, among, inside⟩
    exact isWritten_ofRun counts (by simpa using filled)

/-- A run goes on over a comment and over a line that is only a backslash, two backslashes end one,
and nothing is written on the last run. -/
example :
    logicalLines "a \\\n# c\n \\\n\nb \\\\\n\\\n\\" = [⟨1, "a b \\\\"⟩] := by
  decide +kernel

end Requirements
