import Requirements.Proofs.Lines
import Requirements.Proofs.Sections

/-!
# Which sources can be read

A line fits below others if it starts with a directive that has the words it needs and
that, if it closes a section, closes the innermost open one. The sections that are open
follow from the directives of the lines above. `ofSource_spec` says that a source can be
read exactly when each of its lines fits, and that otherwise the first line which does
not fit is reported, with its number and the first thing that is wrong with it.
-/

namespace Requirements

/-- The directive that a line is written with. -/
def LogicalLine.directive? (line : LogicalLine) : Option Directive :=
  (tokenize line.text).head?.bind Directive.ofWord?

namespace Reader

/-- The sections that lines leave open, the innermost first. -/
def openAbove (above : List LogicalLine) : List Visibility :=
  Directive.openSections (above.filterMap LogicalLine.directive?)

/-- A line starts with a directive, has the words that this one needs, and closes no
section but the innermost. -/
def Fits (above : List LogicalLine) (line : LogicalLine) : Prop :=
  ∃ (directive : Directive) (words : List String),
    tokenize line.text = directive.word :: words ∧ directive.minWords ≤ words.length ∧
    ∀ visibility, directive = .closeSection visibility →
      (openAbove above).head? = some visibility

/-- The first thing that is wrong with a line below others. -/
inductive Faulty (above : List LogicalLine) (line : LogicalLine) : LineFault → Prop where
  | unknownDirective (word : String) (words : List String)
      (spelt : tokenize line.text = word :: words) (unknown : ∀ directive : Directive,
        directive.word ≠ word) :
      Faulty above line (.unknownDirective word)
  | missing (directive : Directive) (words : List String) (what : Missing)
      (spelt : tokenize line.text = directive.word :: words)
      (few : words.length < directive.minWords)
      (first : directive.needs[words.length]? = some what) :
      Faulty above line (.missing directive what)
  | unbalanced (visibility : Visibility) (words : List String)
      (spelt : tokenize line.text = (Directive.closeSection visibility).word :: words)
      (none : openAbove above = []) :
      Faulty above line (.unbalanced (.closeSection visibility))
  | mismatched (visibility innermost : Visibility) (words : List String)
      (spelt : tokenize line.text = (Directive.closeSection visibility).word :: words)
      (top : (openAbove above).head? = some innermost) (other : innermost ≠ visibility) :
      Faulty above line (.mismatched (.closeSection visibility) innermost)

/-- Each of some lines fits below those above it. -/
def AllFit (above lines : List LogicalLine) : Prop :=
  ∀ first line rest, lines = first ++ line :: rest → Fits (above ++ first) line

theorem Faulty.not_fits {above : List LogicalLine} {line : LogicalLine} {fault : LineFault}
    (h : Faulty above line fault) : ¬ Fits above line := by
  rintro ⟨directive, words, spelt, enough, closes⟩
  cases h with
  | unknownDirective word others found unknown =>
    rw [spelt, List.cons.injEq] at found
    exact unknown directive found.1
  | missing other others what found few =>
    rw [spelt, List.cons.injEq] at found
    obtain ⟨same, rfl⟩ := found
    rw [← Directive.word_injective same] at few
    omega
  | unbalanced visibility others found none =>
    rw [spelt, List.cons.injEq] at found
    have top := closes visibility (Directive.word_injective found.1)
    rw [none] at top
    cases top
  | mismatched visibility innermost others found top other =>
    rw [spelt, List.cons.injEq] at found
    have closed := closes visibility (Directive.word_injective found.1)
    rw [top] at closed
    exact other (Option.some.inj closed)

theorem allFit_nil (above : List LogicalLine) : AllFit above [] := by
  intro first line rest split
  exact absurd split.symm (by simp)

theorem allFit_cons {above lines : List LogicalLine} {line : LogicalLine} :
    AllFit above (line :: lines) ↔ Fits above line ∧ AllFit (above ++ [line]) lines := by
  constructor
  · intro h
    refine ⟨?_, fun first next rest split => ?_⟩
    · simpa using h [] line lines rfl
    · have fits := h (line :: first) next rest (by rw [split]; rfl)
      simpa using fits
  · rintro ⟨fits, later⟩ first next rest split
    rcases first with _ | ⟨head, first⟩
    · obtain ⟨rfl, rfl⟩ := List.cons.inj split
      simpa using fits
    · obtain ⟨rfl, more⟩ := List.cons.inj split
      have := later first next rest more
      simpa using this

/-- What a reader keeps after lines that fit. -/
structure Follows (reader : Reader) (path : Path) (above : List LogicalLine) : Prop where
  path : reader.file.path = path
  context : reader.context = openAbove above ++ [.exported]

theorem openAbove_concat {line : LogicalLine} {directive : Directive} {words : List String}
    (spelt : tokenize line.text = directive.word :: words) (above : List LogicalLine) :
    openAbove (above ++ [line]) = directive.sectionsAfter (openAbove above) := by
  have found : line.directive? = some directive := by
    simp [LogicalLine.directive?, spelt]
  simp [openAbove, Directive.openSections, found]

/-- A statement: either its line fits and it is recorded, or a section stands against it. -/
theorem recorded_spec {reader : Reader} {path : Path} {above : List LogicalLine}
    {line : LogicalLine} (h : reader.Follows path above) {statement : Statement}
    {words : List String} (spelt : tokenize line.text = statement.directive.word :: words)
    (enough : statement.directive.minWords ≤ words.length) :
    (Fits above line ∧ ∃ next, reader.recorded statement = .ok next ∧
        next.Follows path (above ++ [line])) ∨
      ∃ fault, Faulty above line fault ∧ reader.recorded statement = .error fault := by
  have track := tracking_contextAfter (openAbove above) statement
  rw [← h.context] at track
  rw [recorded]
  cases moved : contextAfter statement reader.context with
  | ok context =>
    rw [moved] at track
    cases track with
    | tracked closes =>
      refine .inl ⟨⟨_, words, spelt, enough, closes⟩, _, rfl, h.path, ?_⟩
      rw [openAbove_concat spelt]
  | error fault =>
    rw [moved] at track
    refine .inr ⟨fault, ?_, rfl⟩
    cases track with
    | unbalanced visibility close none =>
      rw [close] at spelt ⊢
      exact .unbalanced visibility words spelt none
    | mismatched visibility innermost close top other =>
      rw [close] at spelt ⊢
      exact .mismatched visibility innermost words spelt top other

/-- One line: either it fits and can be read, or it has a fault and cannot. -/
theorem after_spec {reader : Reader} {path : Path} {above : List LogicalLine}
    {line : LogicalLine} (h : reader.Follows path above) (tokens : tokenize line.text ≠ []) :
    (Fits above line ∧ ∃ next, reader.after (tokenize line.text) = .ok next ∧
        next.Follows path (above ++ [line])) ∨
      ∃ fault, Faulty above line fault ∧ reader.after (tokenize line.text) = .error fault := by
  obtain ⟨word, words, spelt⟩ := List.exists_cons_of_ne_nil tokens
  cases found : Directive.ofWord? word with
  | none =>
    refine .inr ⟨_, .unknownDirective word words spelt fun directive same => ?_, ?_⟩
    · rw [← same, Directive.ofWord?_word] at found
      cases found
    · simp [after, statementOf, spelt, found]
  | some directive =>
    obtain rfl := Directive.ofWord?_eq_some_iff.1 found
    have read := directive.read_spec reader.visibility words
    cases made : directive.read reader.visibility words with
    | error what =>
      rw [made] at read
      obtain ⟨_, first⟩ | _ | _ := read
      have few : words.length < directive.minWords := by
        rw [← Directive.length_needs]
        exact (List.getElem?_eq_some_iff.1 first).1
      refine .inr ⟨_, .missing directive words what spelt few first, ?_⟩
      simp [after, statementOf, spelt, made, Except.mapError]
    | ok statement? =>
      have shown : reader.after (tokenize line.text) =
          statement?.elim (.ok reader) reader.recorded := by
        simp only [after, statementOf, spelt, found, made, Except.mapError]
        cases statement? <;> rfl
      rw [made] at read
      cases read with
      | nothing ignored same =>
        subst same
        refine .inl ⟨⟨_, words, spelt, Nat.zero_le _, by simp⟩, reader, shown, h.path, ?_⟩
        rw [h.context, openAbove_concat spelt]
        rfl
      | statement statement enough same =>
        subst same
        rw [shown, Option.elim_some]
        exact recorded_spec h spelt enough

/-- All lines: either each of them fits, or the first that does not is reported. -/
theorem readLines_spec {path : Path} {lines : List LogicalLine}
    (tokens : ∀ line ∈ lines, tokenize line.text ≠ []) {reader : Reader}
    {above : List LogicalLine} (h : reader.Follows path above) :
    (AllFit above lines ∧ ∃ next, reader.readLines lines = .ok next) ∨
      ∃ first line rest fault, lines = first ++ line :: rest ∧ AllFit above first ∧
        Faulty (above ++ first) line fault ∧
        reader.readLines lines = .error (.line path line.number fault) := by
  induction lines generalizing reader above with
  | nil => exact .inl ⟨allFit_nil above, reader, rfl⟩
  | cons line lines ih =>
    rcases after_spec h (tokens line List.mem_cons_self) with
      ⟨fits, next, ran, follows⟩ | ⟨fault, faulty, ran⟩
    · have read : reader.readLines (line :: lines) = next.readLines lines := by
        rw [readLines, readLine_eq, ran]
        rfl
      rw [read]
      rcases ih (fun line hl => tokens line (List.mem_cons_of_mem _ hl)) follows with
        ⟨all, finish⟩ | ⟨first, last, rest, fault, split, all, faulty, failed⟩
      · exact .inl ⟨allFit_cons.2 ⟨fits, all⟩, finish⟩
      · refine .inr ⟨line :: first, last, rest, fault, by rw [split]; rfl,
          allFit_cons.2 ⟨fits, all⟩, ?_, failed⟩
        simpa using faulty
    · refine .inr ⟨[], line, lines, fault, rfl, allFit_nil above, by simpa using faulty, ?_⟩
      rw [readLines, readLine_eq, ran, ← h.path]
      rfl

/-- A source can be read exactly when each logical line fits below those above it. If it
cannot, the fault is that of the first line which does not fit, and is reported with the
path of the file and the number of the physical line on which this line begins. -/
theorem ofSource_spec (path : Path) (source : String) :
    ((∃ file, File.ofSource path source = .ok file) ↔ AllFit [] (logicalLines source)) ∧
      ∀ error, File.ofSource path source = .error error →
        ∃ above line below fault, logicalLines source = above ++ line :: below ∧
          AllFit [] above ∧ ¬ Fits above line ∧ Faulty above line fault ∧
          Line.BeginsIn source line ∧ error = .line path line.number fault := by
  have start : (start path).Follows path [] := ⟨rfl, rfl⟩
  have tokens (line : LogicalLine) (h : line ∈ logicalLines source) : tokenize line.text ≠ [] :=
    Line.tokenize_ne_nil_of_mem_logicalLines h
  have read : File.ofSource path source =
      ((Reader.start path).readLines (logicalLines source)).map Reader.file := rfl
  rw [read]
  rcases readLines_spec tokens start with
    ⟨all, finish, ran⟩ | ⟨above, line, below, fault, split, all, faulty, failed⟩
  · rw [ran]
    exact ⟨⟨fun _ => all, fun _ => ⟨finish.file, rfl⟩⟩, nofun⟩
  · rw [List.nil_append] at faulty
    rw [failed]
    refine ⟨⟨nofun, fun fit => ?_⟩, fun error same => ?_⟩
    · exact absurd (fit above line below split) faulty.not_fits
    · have member : line ∈ logicalLines source := by
        rw [split]
        simp
      exact ⟨above, line, below, fault, split, all, faulty.not_fits, faulty,
        Line.beginsIn_of_mem_logicalLines member, (Except.error.inj same).symm⟩

/-- A section is closed that was never opened, after a line that goes on over a comment. -/
theorem ofSource_spec_unbalanced :
    let path : Path := ⟨"Foo/cmt/requirements"⟩
    let source := "use \\\n# more\n Bar\nend_private\n"
    File.ofSource path source = .error (.line path 4 (.unbalanced (.closeSection .internal))) ∧
      ∃ above line fault, AllFit [] above ∧ Faulty above line fault ∧
        Line.BeginsIn source line ∧ line.number = 4 := by
  intro path source
  have failed : File.ofSource path source =
      .error (.line path 4 (.unbalanced (.closeSection .internal))) := by
    decide +kernel
  obtain ⟨above, line, below, fault, -, all, -, faulty, begins, same⟩ :=
    (ofSource_spec path source).2 _ failed
  exact ⟨failed, above, line, fault, all, faulty, begins, (ReadError.line.inj same).2.1.symm⟩

end Reader

end Requirements
