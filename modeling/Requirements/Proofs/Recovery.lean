import Requirements.File.Reader

/-!
# Reading on after faults

Reading a line may take several steps: a section is opened or closed, a package name is taken,
a statement is recorded. A line with a fault takes none of them (`eq_of_run_step`), whichever
fault it is. So reading can go on below it as if it were not there, and what has been read at
the end is what the lines without faults make by themselves (`feedAll_accepted`).
-/

namespace Requirements.Reader

/-- The lines that are read without a fault when all lines are read in order and faults are
passed over. -/
def accepted (reader : Reader) : List LogicalLine → List LogicalLine
  | [] => []
  | line :: lines =>
    match (step line).run reader with
    | .ok _ next => line :: next.accepted lines
    | .error _ next => next.accepted lines

/-- A fault leaves the reader as it was, and is reported with the path of the file and the number
of the line. -/
theorem eq_of_run_step {reader after : Reader} {line : LogicalLine} {error : ReadError}
    (h : (step line).run reader = .error error after) :
    after = reader ∧ ∃ fault, error = .line reader.file.path line.number fault := by
  rw [run_step] at h
  cases ran : reader.after (tokenize line.text) with
  | ok next =>
    rw [ran] at h
    cases h
  | error fault =>
    rw [ran] at h
    cases h
    exact ⟨rfl, fault, rfl⟩

/-- Lines that are all read without a fault are read alike if faults would be passed over. -/
theorem feedAll_of_readLines {reader next : Reader} {lines : List LogicalLine}
    (h : reader.readLines lines = .ok next) : reader.feedAll lines = next := by
  induction lines generalizing reader with
  | nil => exact Except.ok.inj h
  | cons line lines ih =>
    rw [readLines, readLine] at h
    rw [feedAll_cons, feed]
    cases ran : (step line).run reader with
    | ok _ middle =>
      rw [ran] at h
      exact ih h
    | error error middle =>
      rw [ran] at h
      cases h

theorem sublist_accepted (reader : Reader) (lines : List LogicalLine) :
    (reader.accepted lines).Sublist lines := by
  induction lines generalizing reader with
  | nil => exact List.Sublist.slnil
  | cons line lines ih =>
    rw [accepted]
    split
    · exact (ih _).cons_cons line
    · exact (ih _).cons line

/-- By themselves, the accepted lines have no fault. -/
theorem readLines_accepted (reader : Reader) (lines : List LogicalLine) :
    reader.readLines (reader.accepted lines) = .ok (reader.feedAll lines) := by
  induction lines generalizing reader with
  | nil => rfl
  | cons line lines ih =>
    rw [feedAll_cons, accepted, feed]
    cases ran : (step line).run reader with
    | ok _ next => simp only [readLines, readLine, ran, ih]
    | error error after =>
      obtain ⟨rfl, -⟩ := eq_of_run_step ran
      exact ih after

/-- A line with a fault leaves no trace, and neither do any number of them among other lines:
reading all lines and passing over the faults ends in the same reader as reading, in the same
order, the lines without faults alone, which can then be read to the end. -/
theorem feedAll_accepted :
    (∀ (reader after : Reader) (line : LogicalLine) (error : ReadError),
      (step line).run reader = .error error after →
        after = reader ∧ ∃ fault, error = .line reader.file.path line.number fault) ∧
    ∀ (reader : Reader) (lines : List LogicalLine), (reader.accepted lines).Sublist lines ∧
      reader.readLines (reader.accepted lines) = .ok (reader.feedAll lines) ∧
      reader.feedAll (reader.accepted lines) = reader.feedAll lines := by
  refine ⟨fun reader after line error => eq_of_run_step, fun reader lines => ?_⟩
  have read := reader.readLines_accepted lines
  exact ⟨reader.sublist_accepted lines, read, feedAll_of_readLines read⟩

/-- Every kind of fault, among lines that can be read. -/
theorem feedAll_accepted_faults :
    let reader := start ⟨"Foo/cmt/requirements"⟩
    let lines : List LogicalLine :=
      [⟨1, "package Bar"⟩, ⟨2, "private"⟩, ⟨3, "end_public"⟩, ⟨4, "package"⟩, ⟨5, "use Baz"⟩,
        ⟨6, "packages Foo"⟩, ⟨7, "end_private"⟩, ⟨8, "end_private"⟩]
    let kept : List LogicalLine :=
      [⟨1, "package Bar"⟩, ⟨2, "private"⟩, ⟨5, "use Baz"⟩, ⟨7, "end_private"⟩]
    let error : ReadError := .line reader.file.path 8 (.unbalanced (.closeSection .internal))
    ∃ after, (step ⟨8, "end_private"⟩).run (reader.feedAll kept) = .error error after ∧
      after = reader.feedAll kept ∧ reader.accepted lines = kept ∧
      reader.feedAll kept = reader.feedAll lines := by
  intro reader lines kept error
  have faulty : (reader.feedAll kept).after (tokenize "end_private") =
      .error (.unbalanced (.closeSection .internal)) :=
    rfl
  have failed : (step ⟨8, "end_private"⟩).run (reader.feedAll kept) =
      .error error (reader.feedAll kept) := by
    rw [run_step, faulty]
    rfl
  have same : reader.accepted lines = kept := by decide +kernel
  obtain ⟨left, right⟩ := feedAll_accepted
  have read := (right reader lines).2.2
  rw [same] at read
  exact ⟨_, failed, (left _ _ _ _ failed).1, same, read⟩

end Requirements.Reader
