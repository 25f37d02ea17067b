import Requirements.Proofs.Readings
import Requirements.Proofs.Recovery
import Requirements.Proofs.Sections

/-!
# Sources one after the other

A source may be read in two pieces, if the first does not end in the middle of a logical line:
the second is read by the reader that the first one leaves behind, and its lines are numbered
on. What that reader has read so far is not seen by the lines that follow, apart from the
sections that are open. So if none is, the second piece is read as it would be by itself.
`ofSource_append` says both.
-/

namespace Requirements

/-- The package name that a statement declares. -/
def Statement.package? : Statement → Option String
  | .package name => some name
  | _ => none

namespace File

/-- The file at a path that says what some statements say. Its package has the last name that
they declare, or else that of its directory. -/
def ofStatements (path : Path) (statements : List Statement) : File where
  path
  package := (statements.filterMap Statement.package?).getLast?.getD (ofPath path).package
  statements

/-- A file below what another one says. -/
def below (above file : File) : File where
  path := file.path
  package := (file.statements.filterMap Statement.package?).getLast?.getD above.package
  statements := above.statements ++ file.statements

theorem below_ofStatements (path : Path) (above below : List Statement) :
    (ofStatements path above).below (ofStatements path below) =
      ofStatements path (above ++ below) := by
  simp only [File.below, ofStatements, List.filterMap_append, List.getLast?_append, Option.getD_or]

end File

namespace Line

/-- A source does not end in the middle of a logical line: its last significant line is not
continued. -/
def IsComplete (source : String) : Prop :=
  ∀ part, (significant source.toList).getLast? = some part → isContinued part.2 = false

/-- How many physical lines there are above what follows a source on a new line. -/
def lineCount (source : String) : Nat := source.toList.count '\n' + 1

theorem length_physical (source : List Char) :
    (physical source).length = source.count '\n' + 1 := by
  induction source with
  | nil => rfl
  | cons c rest ih =>
    rw [physical, List.splitOn_cons_eq_if_modifyHead, List.count_cons]
    rw [physical] at ih
    split <;> simp [ih]

/-- The significant lines of the second piece are numbered on. -/
theorem significant_append (first second : String) :
    significant (first ++ "\n" ++ second).toList = significant first.toList ++
      (significant second.toList).map (Prod.map (· + lineCount first) id) := by
  have parts : physical (first ++ "\n" ++ second).toList =
      physical first.toList ++ physical second.toList := by
    have text : (first ++ "\n" ++ second).toList = first.toList ++ '\n' :: second.toList := by
      simp
    rw [text, physical, List.splitOn_append_cons_self, physical, physical]
  rw [significant_eq, parts, List.zipIdx_append, List.filterMap_append, length_physical,
    Nat.add_comm 1, ← List.map_snd_add_zipIdx_eq_zipIdx, filterMap_significant?_map]
  rfl

/-- Lines below a complete one are joined as if nothing stood above. -/
theorem join_append {first : List (Nat × List Char)} {pending : Option (Nat × List Char)}
    (begun : first = [] → pending = none)
    (complete : ∀ part, first.getLast? = some part → isContinued part.2 = false)
    (last : List (Nat × List Char)) :
    join pending (first ++ last) = join pending first ++ join none last := by
  induction first generalizing pending with
  | nil =>
    rw [begun rfl]
    rfl
  | cons part rest ih =>
    obtain ⟨number, line⟩ := part
    have later : ∀ part, rest.getLast? = some part → isContinued part.2 = false :=
      fun part last => complete part (by rw [List.getLast?_cons, last, Option.getD_some])
    rw [List.cons_append, join_cons, join_cons]
    cases continued : isContinued line with
    | true =>
      refine ih (fun none => ?_) later
      subst none
      rw [complete (number, line) rfl] at continued
      cases continued
    | false => rw [proceed_false, proceed_false, ih (fun _ => rfl) later, List.append_assoc]

theorem logicalLines_append {first : String} (complete : IsComplete first) (second : String) :
    logicalLines (first ++ "\n" ++ second) = logicalLines first ++
      (logicalLines second).map (LogicalLine.renumber (· + lineCount first)) := by
  rw [logicalLines, significant_append, join_append (fun _ => rfl) complete]
  exact congrArg _ (join_map _ none _)

end Line

namespace Reader

/-- A reader that has read a file before what it has read. -/
def below (above : File) (reader : Reader) : Reader := ⟨above.below reader.file, reader.context⟩

theorem packageAfter_below (above file : File) (statement : Statement) :
    packageAfter statement (above.below file).package =
      (above.below ⟨file.path, packageAfter statement file.package,
        file.statements ++ [statement]⟩).package := by
  cases statement <;>
    simp [packageAfter, File.below, Statement.package?, List.filterMap_append, List.filterMap_cons]

/-- What has been read above is not seen by a line, except for the sections in force. -/
theorem after_below (above : File) (reader : Reader) (tokens : List String) :
    (reader.below above).after tokens = (reader.after tokens).map (below above) := by
  have visible : (reader.below above).visibility = reader.visibility := rfl
  rw [after, after, visible]
  cases statementOf reader.visibility tokens with
  | error fault => rfl
  | ok statement? =>
    cases statement? with
    | none => rfl
    | some statement =>
      have context : (reader.below above).context = reader.context := rfl
      simp only [recorded, context]
      cases contextAfter statement reader.context with
      | error fault => rfl
      | ok context =>
        have named := packageAfter_below above reader.file statement
        have listed : (above.statements ++ reader.file.statements) ++ [statement] =
            above.statements ++ (reader.file.statements ++ [statement]) := List.append_assoc _ _ _
        simp only [Except.map, below, File.below] at named listed ⊢
        rw [named, listed]

theorem readLines_below (above : File) (reader : Reader) (lines : List LogicalLine) :
    (reader.below above).readLines lines = (reader.readLines lines).map (below above) := by
  induction lines generalizing reader with
  | nil => rfl
  | cons line lines ih =>
    rw [readLines, readLines, readLine_eq, readLine_eq, after_below]
    cases reader.after (tokenize line.text) with
    | error fault => rfl
    | ok next => exact ih next

theorem path_of_readLines {reader next : Reader} {lines : List LogicalLine}
    (h : reader.readLines lines = .ok next) : next.file.path = reader.file.path := by
  induction lines generalizing reader with
  | nil => rw [Except.ok.inj h]
  | cons line lines ih =>
    rw [readLines, readLine_eq] at h
    cases ran : reader.after (tokenize line.text) with
    | error fault =>
      rw [ran] at h
      cases h
    | ok middle =>
      rw [ran] at h
      rw [ih h]
      rcases after_cases ran with ⟨-, rfl⟩ | ⟨statement, context, -, -, rfl⟩ <;> rfl

/-- A file that has been read is the file of its statements. -/
theorem file_eq_ofStatements {path : Path} {lines : List LogicalLine} {reader : Reader}
    (h : (start path).readLines lines = .ok reader) :
    reader.file = .ofStatements path reader.file.statements := by
  have fresh : (start path).below (.ofPath path) = start path := rfl
  have below := readLines_below (.ofPath path) (start path) lines
  rw [fresh, h] at below
  have here : reader.file.path = path := path_of_readLines h
  calc reader.file = File.below (.ofPath path) reader.file :=
        congrArg Reader.file (Except.ok.inj below)
    _ = .ofStatements path reader.file.statements := by
        rw [File.below, here, File.statements_ofPath, List.nil_append]
        rfl

/-- A reader in which no section is open is one that begins, below what it has read. -/
theorem eq_below_start {path : Path} {lines : List LogicalLine} {reader : Reader}
    (h : (start path).readLines lines = .ok reader)
    (closed : Statement.openSections reader.file.statements = []) :
    reader = (start path).below reader.file := by
  have tracked := tracksSections_feedAll path lines
  rw [feedAll_of_readLines h] at tracked
  have context := tracked.context
  rw [closed, List.nil_append] at context
  have here : reader.file.path = path := path_of_readLines h
  obtain ⟨⟨_, package, statements⟩, _⟩ := reader
  cases context
  cases here
  simp [below, File.below, start]

/-- Where no section is open, a source is read as by itself. -/
theorem readSource_of_closed {path : Path} {lines : List LogicalLine} {reader : Reader}
    (h : (start path).readLines lines = .ok reader)
    (closed : Statement.openSections reader.file.statements = []) (source : String) :
    reader.readSource source = (File.ofSource path source).map fun below =>
      .ofStatements path (reader.file.statements ++ below.statements) := by
  have seen := readLines_below reader.file (start path) (logicalLines source)
  rw [← eq_below_start h closed] at seen
  rw [readSource, seen, File.ofSource_eq]
  cases ran : (start path).readLines (logicalLines source) with
  | error error => rfl
  | ok next =>
    have joined := File.below_ofStatements path reader.file.statements next.file.statements
    rw [← file_eq_ofStatements h, ← file_eq_ofStatements ran] at joined
    exact congrArg Except.ok joined

end Reader

/-- A source that is complete is read first, and its reader reads the other one. -/
theorem File.ofSource_append_eq (path : Path) {first : String} (complete : Line.IsComplete first)
    (second : String) :
    File.ofSource path (first ++ "\n" ++ second) =
      ((Reader.start path).readLines (logicalLines first) >>= fun reader =>
        (reader.readSource second).mapError
          (ReadError.renumber (· + Line.lineCount first))) := by
  have numbers := LogicalLine.map_reading_renumber (· + Line.lineCount first)
    (logicalLines second)
  rw [File.ofSource_eq, Line.logicalLines_append complete, Reader.readLines_append]
  cases (Reader.start path).readLines (logicalLines first) with
  | error error => rfl
  | ok reader =>
    simp only [bind, Except.bind, Reader.readSource, Reader.readLines_renumber numbers]
    cases reader.readLines (logicalLines second) <;> rfl

/-- Reading two sources one after the other. The first must not end in the middle of a logical
line. What both together are read as is what the reader of the first makes of the second, with
the numbers of its lines counted on. If the first leaves no section open, the second is read
as it would be alone: it has a file or the same fault, and the file of both says what the
files of the two say, one after the other, in the package that is declared last. -/
theorem File.ofSource_append (path : Path) {first : String} (complete : Line.IsComplete first)
    (second : String) :
    File.ofSource path (first ++ "\n" ++ second) =
        ((Reader.start path).readLines (logicalLines first) >>= fun reader =>
          (reader.readSource second).mapError
            (ReadError.renumber (· + Line.lineCount first))) ∧
      ∀ above, File.ofSource path first = .ok above →
        Statement.openSections above.statements = [] →
        File.ofSource path (first ++ "\n" ++ second) =
          ((File.ofSource path second).map fun below =>
            File.ofStatements path (above.statements ++ below.statements)).mapError
              (ReadError.renumber (· + Line.lineCount first)) := by
  have both := File.ofSource_append_eq path complete second
  refine ⟨both, fun above known closed => ?_⟩
  rw [File.ofSource_eq] at known
  cases ran : (Reader.start path).readLines (logicalLines first) with
  | error error =>
    rw [ran] at known
    cases known
  | ok reader =>
    rw [ran] at known
    obtain rfl := Except.ok.inj known
    rw [both, ran]
    exact congrArg (Except.mapError _) (Reader.readSource_of_closed ran closed second)

/-- The first source ends in a comment with a backslash, which continues nothing. Of two sources
below it, one declares another package and one has a fault. -/
theorem File.ofSource_append_comment :
    let path : Path := ⟨"Foo/cmt/requirements"⟩
    let first := "package Bar\nuse Baz\n# more \\"
    let above : File := ⟨path, "Bar", [.package "Bar", .use ⟨"Baz", none, none, [], .exported⟩]⟩
    let fault : LineFault := .unbalanced (.closeSection .internal)
    Line.IsComplete first ∧ File.ofSource path first = .ok above ∧
      Statement.openSections above.statements = [] ∧
      File.ofSource path (first ++ "\n" ++ "package Foo") =
        .ok ⟨path, "Foo", above.statements ++ [.package "Foo"]⟩ ∧
      File.ofSource path "author Me\nend_private" = .error (.line path 2 fault) ∧
      File.ofSource path (first ++ "\n" ++ "author Me\nend_private") =
        .error (.line path 5 fault) := by
  intro path first above fault
  have complete : Line.IsComplete first := by
    have ends : (Line.significant first.toList).getLast? =
        some (2, ['u', 's', 'e', ' ', 'B', 'a', 'z']) := by
      decide +kernel
    intro part last
    obtain rfl := Option.some.inj (ends.symm.trans last)
    decide
  have known : File.ofSource path first = .ok above := by decide +kernel
  have closed : Statement.openSections above.statements = [] := by decide
  have named : File.ofSource path "package Foo" = .ok ⟨path, "Foo", [.package "Foo"]⟩ := by
    decide +kernel
  have failed : File.ofSource path "author Me\nend_private" = .error (.line path 2 fault) := by
    decide +kernel
  have good := (File.ofSource_append path complete "package Foo").2 above known closed
  have bad := (File.ofSource_append path complete "author Me\nend_private").2 above known closed
  have count : Line.lineCount first = 3 := by decide +kernel
  rw [named] at good
  rw [failed, count] at bad
  exact ⟨complete, known, closed, good, failed, bad⟩

end Requirements
