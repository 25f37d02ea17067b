import Requirements.File.Basic
import Requirements.File.Error
import Requirements.Line
import Requirements.Token

/-!
# Reading requirements files

A file is read line by line. The reader holds what has been read so far and the
visibilities in force, the innermost first; the last of them is that outside every
section. A step of the reader changes it and may end in a fault. What the reader is
after a fault is part of the step, so that reading can go on with the next line.
-/

namespace Requirements

/-- A file that is being read, and the visibilities in force. -/
structure Reader where
  file : File
  context : List Visibility := [.exported]
  deriving DecidableEq, Repr

namespace Reader

/-- The reader of a file of which nothing has been read. -/
def start (path : Path) : Reader := { file := .ofPath path }

/-- The visibility of the innermost open section. -/
def visibility (reader : Reader) : Visibility := reader.context.head?.getD .exported

/-- What a step makes of a reader, and the fault that it ends in if there is one. -/
abbrev Step (fault : Type) := EStateM fault Reader

/-- Open or close the section that a statement marks. -/
def trackSection (statement : Statement) : Step LineFault Unit := do
  match statement with
  | .openSection visibility =>
    modify fun reader => { reader with context := visibility :: reader.context }
  | .closeSection visibility =>
    let reader ← get
    if reader.context.length ≤ 1 then throw (.unbalanced statement.directive)
    else if reader.visibility ≠ visibility then
      throw (.mismatched statement.directive reader.visibility)
    else set { reader with context := reader.context.tail }
  | _ => return

/-- Take the package name that a statement declares. -/
def takePackage (statement : Statement) : Step LineFault Unit := do
  match statement with
  | .package name => modify fun reader => { reader with file.package := name }
  | _ => return

/-- Record a statement. -/
def record (statement : Statement) : Step LineFault Unit := do
  trackSection statement
  takePackage statement
  modify fun reader =>
    { reader with file.statements := reader.file.statements ++ [statement] }

/-- Read the tokens of a line. -/
def readTokens : List String → Step LineFault Unit
  | [] => return
  | word :: words => do
    match Directive.ofWord? word with
    | none => throw (.unknownDirective word)
    | some directive =>
      match directive.read (← get).visibility words with
      | .error what => throw (.missing directive what)
      | .ok none => return
      | .ok (some statement) => record statement

/-- Read a logical line. A fault is reported with the place of the line. -/
def step (line : LogicalLine) : Step ReadError Unit := fun reader =>
  match (readTokens (tokenize line.text)).run reader with
  | .ok _ next => .ok () next
  | .error fault next => .error (.line next.file.path line.number fault) next

/-- The reader after a logical line that may have a fault. -/
def feed (reader : Reader) (line : LogicalLine) : Reader :=
  match (step line).run reader with
  | .ok _ next | .error _ next => next

/-- The reader after logical lines, whatever faults they have. -/
def feedAll (reader : Reader) (lines : List LogicalLine) : Reader := lines.foldl feed reader

/-- Read a logical line that must not have a fault. -/
def readLine (reader : Reader) (line : LogicalLine) : Except ReadError Reader :=
  match (step line).run reader with
  | .ok _ next => .ok next
  | .error error _ => .error error

/-- Read logical lines up to the first fault. -/
def readLines (reader : Reader) : List LogicalLine → Except ReadError Reader
  | [] => .ok reader
  | line :: lines =>
    match reader.readLine line with
    | .ok reader => reader.readLines lines
    | .error error => .error error

/-- Read all lines of a source and finish the file. -/
def readSource (reader : Reader) (source : String) : Except ReadError File :=
  (reader.readLines (logicalLines source)).map Reader.file

/-- The visibilities in force after a statement. Only a section that has been opened
can be closed. -/
def contextAfter (statement : Statement) (context : List Visibility) :
    Except LineFault (List Visibility) :=
  match statement with
  | .openSection visibility => .ok (visibility :: context)
  | .closeSection visibility =>
    match context with
    | opened :: outer :: rest =>
      if opened = visibility then .ok (outer :: rest)
      else .error (.mismatched statement.directive opened)
    | _ => .error (.unbalanced statement.directive)
  | _ => .ok context

/-- The package name after a statement. -/
def packageAfter (statement : Statement) (name : String) : String :=
  match statement with
  | .package declared => declared
  | _ => name

/-- The statement that the tokens of a line make, if they make one. -/
def statementOf (visibility : Visibility) :
    List String → Except LineFault (Option Statement)
  | [] => .ok none
  | word :: words =>
    match Directive.ofWord? word with
    | none => .error (.unknownDirective word)
    | some directive => (directive.read visibility words).mapError (.missing directive)

/-- The reader after a statement has been recorded. -/
def recorded (reader : Reader) (statement : Statement) : Except LineFault Reader :=
  (contextAfter statement reader.context).map fun context =>
    ⟨⟨reader.file.path, packageAfter statement reader.file.package,
      reader.file.statements ++ [statement]⟩, context⟩

/-- The reader after the tokens of a line. -/
def after (reader : Reader) (tokens : List String) : Except LineFault Reader :=
  match statementOf reader.visibility tokens with
  | .error fault => .error fault
  | .ok none => .ok reader
  | .ok (some statement) => reader.recorded statement

/-- Tracking a section changes the visibilities in force and nothing else. -/
theorem run_trackSection (statement : Statement) (reader : Reader) :
    (trackSection statement).run reader =
      match contextAfter statement reader.context with
      | .ok context => .ok () { reader with context }
      | .error fault => .error fault reader := by
  cases statement with
  | closeSection visibility =>
    obtain ⟨file, _ | ⟨opened, _ | ⟨outer, rest⟩⟩⟩ := reader
    · rfl
    · rfl
    · cases opened <;> cases visibility <;> rfl
  | _ => rfl

/-- Recording is all or nothing: a section is tracked before anything is written. -/
theorem run_record (statement : Statement) (reader : Reader) :
    (record statement).run reader =
      match reader.recorded statement with
      | .ok next => .ok () next
      | .error fault => .error fault reader := by
  have track := run_trackSection statement reader
  simp only [record, recorded, bind, EStateM.bind, EStateM.run] at track ⊢
  rw [track]
  cases contextAfter statement reader.context with
  | error fault => rfl
  | ok context => cases statement <;> rfl

/-- Reading tokens is recording the statement that they make. -/
theorem run_readTokens (tokens : List String) (reader : Reader) :
    (readTokens tokens).run reader =
      match reader.after tokens with
      | .ok next => .ok () next
      | .error fault => .error fault reader := by
  cases tokens with
  | nil => rfl
  | cons word words =>
    simp only [readTokens, after, statementOf]
    cases Directive.ofWord? word with
    | none => rfl
    | some directive =>
      simp only [EStateM.run_bind, EStateM.run_get]
      cases directive.read reader.visibility words with
      | error what => rfl
      | ok statement? =>
        cases statement? with
        | none => rfl
        | some statement => exact run_record statement reader

/-- A line with a fault leaves the reader as it was. -/
theorem run_step (line : LogicalLine) (reader : Reader) :
    (step line).run reader =
      match reader.after (tokenize line.text) with
      | .ok next => .ok () next
      | .error fault => .error (.line reader.file.path line.number fault) reader := by
  have tokens := run_readTokens (tokenize line.text) reader
  simp only [step, EStateM.run] at tokens ⊢
  rw [tokens]
  cases reader.after (tokenize line.text) <;> rfl

theorem readLine_eq (reader : Reader) (line : LogicalLine) :
    reader.readLine line =
      (reader.after (tokenize line.text)).mapError (.line reader.file.path line.number) := by
  rw [readLine, run_step]
  cases reader.after (tokenize line.text) <;> rfl

theorem feedAll_cons (reader : Reader) (line : LogicalLine) (lines : List LogicalLine) :
    reader.feedAll (line :: lines) = (reader.feed line).feedAll lines := rfl

theorem feed_of_after_ok {reader next : Reader} {line : LogicalLine}
    (h : reader.after (tokenize line.text) = .ok next) : reader.feed line = next := by
  rw [feed, run_step, h]

theorem feed_of_after_error {reader : Reader} {line : LogicalLine} {fault : LineFault}
    (h : reader.after (tokenize line.text) = .error fault) : reader.feed line = reader := by
  rw [feed, run_step, h]

/-- What a line without a fault does: it is read over, or it records a statement. -/
theorem after_cases {reader next : Reader} {tokens : List String}
    (h : reader.after tokens = .ok next) :
    (statementOf reader.visibility tokens = .ok none ∧ next = reader) ∨
      ∃ statement context, statementOf reader.visibility tokens = .ok (some statement) ∧
        contextAfter statement reader.context = .ok context ∧
        next = ⟨⟨reader.file.path, packageAfter statement reader.file.package,
          reader.file.statements ++ [statement]⟩, context⟩ := by
  unfold after at h
  split at h
  · cases h
  · rename_i made
    exact .inl ⟨made, (Except.ok.inj h).symm⟩
  · rename_i statement made
    unfold recorded at h
    cases tracked : contextAfter statement reader.context with
    | error fault => simp [tracked, Except.map] at h
    | ok context =>
      simp only [tracked, Except.map, Except.ok.injEq] at h
      exact .inr ⟨statement, context, made, tracked, h.symm⟩

/-- Reading a list of lines is reading its parts one after the other. -/
theorem readLines_append (reader : Reader) (first last : List LogicalLine) :
    reader.readLines (first ++ last) = reader.readLines first >>= (·.readLines last) := by
  induction first generalizing reader with
  | nil => rfl
  | cons line first ih =>
    simp only [List.cons_append, readLines]
    cases reader.readLine line with
    | error error => rfl
    | ok next => exact ih next

end Reader

namespace File

/-- The file that a source text makes at a path. -/
def ofSource (path : Path) (source : String) : Except ReadError File :=
  (Reader.start path).readSource source

theorem ofSource_eq (path : Path) (source : String) :
    ofSource path source = ((Reader.start path).readLines (logicalLines source)).map Reader.file :=
  rfl

/-- Read the file at a path of a tree. -/
def load (tree : FileTree) (path : Path) : Except ReadError File :=
  match tree.read path with
  | .error fault => .error (.unreadable path fault)
  | .ok source => ofSource path source

end File

end Requirements
