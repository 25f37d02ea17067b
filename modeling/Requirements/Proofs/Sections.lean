import Requirements.Proofs.Arity
import Requirements.Proofs.Builder
import Mathlib.Data.List.Induction

/-!
# Sections of a file

Which sections are open can be read off the directives so far: one that opens a section
puts it on top, one that closes a section takes the top away. `TracksSections` relates
the visibilities that a reader keeps to the statements that it has recorded. No line
breaks this relation, whether it has a fault or not, so every dependency has the
visibility of the section in which it stands, in the file and in its graph.
-/

namespace Requirements

namespace Directive

/-- The sections that are open after a directive, the innermost first. -/
def sectionsAfter (opened : List Visibility) : Directive → List Visibility
  | .openSection visibility => visibility :: opened
  | .closeSection _ => opened.tail
  | _ => opened

/-- The sections that directives leave open, the innermost first. -/
def openSections (directives : List Directive) : List Visibility :=
  directives.foldl sectionsAfter []

end Directive

namespace Statement

/-- The sections that statements leave open, the innermost first. -/
def openSections (statements : List Statement) : List Visibility :=
  Directive.openSections (statements.map directive)

theorem openSections_concat (statements : List Statement) (statement : Statement) :
    openSections (statements ++ [statement]) =
      statement.directive.sectionsAfter (openSections statements) := by
  simp [openSections, Directive.openSections]

/-- The visibility of the innermost section that statements leave open, which is that
outside every section if they leave none open. -/
def visibilityAfter (statements : List Statement) : Visibility :=
  (openSections statements).head?.getD .exported

end Statement

namespace Reader

/-- What becomes of the visibilities in force when a directive is taken in, given the
sections that are open before it. -/
inductive Tracking (opened : List Visibility) (directive : Directive) :
    Except LineFault (List Visibility) → Prop where
  | tracked (closes : ∀ visibility, directive = .closeSection visibility →
      opened.head? = some visibility) :
      Tracking opened directive (.ok (directive.sectionsAfter opened ++ [.exported]))
  | unbalanced (visibility : Visibility) (close : directive = .closeSection visibility)
      (none : opened = []) : Tracking opened directive (.error (.unbalanced directive))
  | mismatched (visibility innermost : Visibility) (close : directive = .closeSection visibility)
      (top : opened.head? = some innermost) (other : innermost ≠ visibility) :
      Tracking opened directive (.error (.mismatched directive innermost))

theorem tracking_contextAfter (opened : List Visibility) (statement : Statement) :
    Tracking opened statement.directive (contextAfter statement (opened ++ [.exported])) := by
  cases statement with
  | closeSection visibility =>
    rcases opened with _ | ⟨innermost, outer⟩
    · exact .unbalanced visibility rfl rfl
    · have more : ∃ next rest, outer ++ [Visibility.exported] = next :: rest := by
        cases outer <;> exact ⟨_, _, rfl⟩
      obtain ⟨next, rest, below⟩ := more
      by_cases same : innermost = visibility
      · subst same
        have closed : contextAfter (.closeSection innermost) (innermost :: outer ++ [.exported]) =
            .ok (outer ++ [.exported]) := by
          simp [contextAfter, below]
        rw [closed]
        refine .tracked fun _ h => ?_
        obtain rfl := Directive.closeSection.inj h
        rfl
      · have failed : contextAfter (.closeSection visibility)
            (innermost :: outer ++ [.exported]) =
            .error (.mismatched (.closeSection visibility) innermost) := by
          simp [contextAfter, below, same, Statement.directive]
        rw [failed]
        exact .mismatched visibility innermost rfl rfl same
  | openSection visibility => exact .tracked nofun
  | _ => exact .tracked nofun

/-- The visibilities that a reader keeps agree with the statements that it has recorded. -/
structure TracksSections (reader : Reader) : Prop where
  /-- Below the open sections stands the visibility outside all of them. -/
  context : reader.context = Statement.openSections reader.file.statements ++ [.exported]
  /-- No section but the innermost is ever closed. -/
  closes : ∀ before visibility after,
    reader.file.statements = before ++ .closeSection visibility :: after →
      (Statement.openSections before).head? = some visibility
  /-- A dependency has the visibility of the section in which it stands. -/
  uses : ∀ before dependency after,
    reader.file.statements = before ++ .use dependency :: after →
      dependency.visibility = Statement.visibilityAfter before

theorem tracksSections_start (path : Path) : (start path).TracksSections := by
  refine ⟨rfl, fun before visibility after h => ?_, fun before dependency after h => ?_⟩
  · exact absurd h.symm (by simp [start])
  · exact absurd h.symm (by simp [start])

theorem TracksSections.visibility {reader : Reader} (h : reader.TracksSections) :
    reader.visibility = Statement.visibilityAfter reader.file.statements := by
  rw [Reader.visibility, h.context, Statement.visibilityAfter]
  cases Statement.openSections reader.file.statements <;> rfl

/-- A line makes the statement that its directive is read as. -/
theorem statementOf_word_eq_ok_iff (directive : Directive) {visibility : Visibility}
    {words : List String} {result : Option Statement} :
    statementOf visibility (directive.word :: words) = .ok result ↔
      directive.read visibility words = .ok result := by
  have made : statementOf visibility (directive.word :: words) =
      (directive.read visibility words).mapError (.missing directive) := by
    rw [statementOf, Directive.ofWord?_word]
  rw [made]
  cases directive.read visibility words <;> simp [Except.mapError]

/-- A dependency is read with the visibility in force. -/
theorem statementOf_spec {visibility : Visibility} {tokens : List String} {statement : Statement}
    (h : statementOf visibility tokens = .ok (some statement)) :
    ∀ dependency, statement = .use dependency → dependency.visibility = visibility := by
  rcases tokens with _ | ⟨word, words⟩
  · cases h
  · rw [statementOf] at h
    cases found : Directive.ofWord? word with
    | none => simp [found] at h
    | some directive =>
      have spec := directive.read_spec visibility words
      simp only [found] at h
      cases made : directive.read visibility words with
      | error what => simp [made, Except.mapError] at h
      | ok statement? =>
        rw [made] at h spec
        obtain rfl := Except.ok.inj h
        cases spec with
        | statement _ _ _ inside => exact inside

/-- The last of some items, or one of those before it. -/
theorem concat_eq_append_cons {α : Type} {items before after : List α} {last item : α}
    (h : items ++ [last] = before ++ item :: after) :
    items = before ∧ last = item ∨ ∃ rest, items = before ++ item :: rest := by
  rcases List.eq_nil_or_concat after with rfl | ⟨rest, final, rfl⟩
  · have := List.append_inj' h rfl
    exact .inl ⟨this.1, by simpa using this.2⟩
  · have split : items ++ [last] = (before ++ item :: rest) ++ [final] := by
      simpa using h
    exact .inr ⟨rest, (List.append_inj' split rfl).1⟩

/-- A line without a fault keeps the sections in step with the statements. -/
theorem TracksSections.after {reader next : Reader} {tokens : List String}
    (h : reader.TracksSections) (ran : reader.after tokens = .ok next) : next.TracksSections := by
  rcases after_cases ran with ⟨-, rfl⟩ | ⟨statement, context, made, moved, rfl⟩
  · exact h
  have spec := tracking_contextAfter (Statement.openSections reader.file.statements) statement
  rw [← h.context, moved] at spec
  cases spec with
  | tracked closed =>
    refine ⟨?_, fun before visibility after split => ?_, fun before dependency after split => ?_⟩
    · exact congrArg (· ++ [.exported]) (Statement.openSections_concat _ statement).symm
    · rcases concat_eq_append_cons split with ⟨rfl, rfl⟩ | ⟨rest, earlier⟩
      · exact closed visibility rfl
      · exact h.closes before visibility rest earlier
    · rcases concat_eq_append_cons split with ⟨rfl, rfl⟩ | ⟨rest, earlier⟩
      · rw [statementOf_spec made dependency rfl, h.visibility]
      · exact h.uses before dependency rest earlier

/-- So does a line with a fault, which leaves no trace. -/
theorem TracksSections.feed {reader : Reader} (h : reader.TracksSections) (line : LogicalLine) :
    (reader.feed line).TracksSections := by
  cases ran : reader.after (tokenize line.text) with
  | error fault =>
    rw [feed_of_after_error ran]
    exact h
  | ok next =>
    rw [feed_of_after_ok ran]
    exact h.after ran

theorem tracksSections_feedAll (path : Path) (lines : List LogicalLine) :
    ((start path).feedAll lines).TracksSections := by
  induction lines using List.reverseRecOn with
  | nil => exact tracksSections_start path
  | append_singleton lines line ih =>
    rw [feedAll, List.foldl_append]
    exact ih.feed line

/-- Sections are tracked through any lines, with faults or without. The dependencies of a
graph that is made of what has been recorded are those of the file, in order, and each
has the visibility of the section in which it stands there. -/
theorem sections_feedAll (path : Path) (lines : List LogicalLine) :
    ((start path).feedAll lines).TracksSections ∧
      ∀ profile graph, Graph.ofFile profile ((start path).feedAll lines).file = .ok graph →
        graph.deps = ((start path).feedAll lines).file.uses.map .ofUse ∧
          ∀ before dependency after,
            ((start path).feedAll lines).file.statements = before ++ .use dependency :: after →
            ∃ found, graph.deps[(before.filterMap Statement.use?).length]? = some found ∧
              found = .ofUse dependency ∧ found.visibility = Statement.visibilityAfter before := by
  have tracked := tracksSections_feedAll path lines
  refine ⟨tracked, fun profile graph made => ?_⟩
  obtain ⟨targets, -, rfl⟩ := Graph.ofFile_ok made
  refine ⟨rfl, fun before dependency after split => ⟨.ofUse dependency, ?_, rfl, ?_⟩⟩
  · have uses : ((start path).feedAll lines).file.uses =
        before.filterMap Statement.use? ++ dependency :: after.filterMap Statement.use? := by
      rw [File.uses, split, List.filterMap_append]
      rfl
    simp [Graph.withTargets, uses]
  · exact tracked.uses before dependency after split

/-- A dependency in a section that stays open when the wrong one is closed. -/
theorem sections_feedAll_nested :
    let lines : List LogicalLine :=
      [⟨1, "private"⟩, ⟨2, "public"⟩, ⟨3, "end_private"⟩, ⟨4, "end_public"⟩, ⟨5, "use Bar"⟩]
    let file := ((start ⟨"Foo/cmt/requirements"⟩).feedAll lines).file
    ∃ graph found, Graph.ofFile .atlasoff file = .ok graph ∧
      graph.deps[0]? = some found ∧ found.visibility = .internal := by
  intro lines file
  have statements : file.statements =
      [.openSection .internal, .openSection .exported, .closeSection .exported] ++
        .use ⟨"Bar", none, none, [], .internal⟩ :: [] := by
    decide +kernel
  have made : ∃ graph, Graph.ofFile .atlasoff file = .ok graph := ⟨_, rfl⟩
  obtain ⟨graph, made⟩ := made
  obtain ⟨found, there, -, inside⟩ :=
    ((sections_feedAll _ lines).2 .atlasoff graph made).2 _ _ _ statements
  exact ⟨graph, found, made, there, inside⟩

end Reader

end Requirements
