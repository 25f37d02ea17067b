import Requirements.Statement.Reader

/-!
# What directives need

Whether a directive can be read depends on the number of words after it and on
nothing else. `needs` lists what each directive must find, in order; if there are
fewer words, the first one that is not there is missing. `read_spec` says what
reading gives in each case.
-/

namespace Requirements

namespace Directive

/-- The words that a directive needs after it, in order. -/
def needs : Directive → List Missing
  | .package | .author | .manager => [.name]
  | .version => [.version]
  | .use => [.package]
  | .setting _ => [.name, .value]
  | .pattern | .applyPattern | .ignorePattern => [.pattern]
  | .tag | .applyTag | .excludeTag => [.tag]
  | .target _ => [.target]
  | .document => [.generator, .document]
  | .includeDirs => [.directories]
  | .includePaths => [.path]
  | .pathPattern _ => [.command]
  | .makeFragment => [.fragment]
  | .openSection _ | .closeSection _ | .ignored _ => []

/-- The number of words that a directive needs after it. -/
def minWords : Directive → Nat
  | .openSection _ | .closeSection _ | .ignored _ => 0
  | .document | .setting _ => 2
  | _ => 1

@[simp] theorem length_needs (directive : Directive) :
    directive.needs.length = directive.minWords := by
  cases directive <;> rfl

/-- What a directive with words after it can be read as, in a section of the given
visibility. -/
inductive ReadsAs (directive : Directive) (visibility : Visibility) (words : List String) :
    Except Missing (Option Statement) → Prop where
  | missing (what : Missing) (h : directive.needs[words.length]? = some what) :
      ReadsAs directive visibility words (.error what)
  | nothing (ignored : IgnoredDirective) (h : directive = .ignored ignored) :
      ReadsAs directive visibility words (.ok none)
  | statement (s : Statement) (enough : directive.minWords ≤ words.length)
      (same : s.directive = directive)
      (inside : ∀ dependency, s = .use dependency → dependency.visibility = visibility) :
      ReadsAs directive visibility words (.ok (some s))

end Directive

namespace Statement

theorem length_swapLeadingSwitch (words : List String) :
    (swapLeadingSwitch words).length = words.length :=
  (swapLeadingSwitch_perm words).length_eq

/-- Sorting the words of a dependency does not change who sees it. -/
theorem visibility_sortUseWords (words : List String) (dependency : Use) :
    (sortUseWords words dependency).visibility = dependency.visibility := by
  induction words generalizing dependency with
  | nil => rfl
  | cons word rest ih =>
    rw [sortUseWords, ih]
    split
    · rfl
    · split <;> rfl

/-- One word is enough for an application. -/
theorem readApplication_cases (missing : Missing) (words : List String) :
    words = [] ∧ readApplication missing words = .error missing ∨
      1 ≤ words.length ∧ ∃ application, readApplication missing words = .ok application := by
  have same := length_swapLeadingSwitch words
  rw [readApplication]
  cases swapped : swapLeadingSwitch words with
  | nil =>
    rw [swapped] at same
    exact .inl ⟨List.eq_nil_of_length_eq_zero same.symm, rfl⟩
  | cons name rest =>
    rw [swapped, List.length_cons] at same
    exact .inr ⟨by omega, _, rfl⟩

/-- Two words are enough for a document, in whichever order they come. -/
theorem readDocument_cases (words : List String) :
    (∃ what, [Missing.generator, Missing.document][words.length]? = some what ∧
        readDocument words = .error what) ∨
      2 ≤ words.length ∧ ∃ document, readDocument words = .ok document := by
  have same := length_swapLeadingSwitch words
  rw [readDocument]
  rcases swapped : swapLeadingSwitch words with _ | ⟨generator, _ | ⟨name, rest⟩⟩
  all_goals rw [swapped] at same
  · exact .inl ⟨.generator, by rw [← same]; rfl, rfl⟩
  · exact .inl ⟨.document, by rw [← same]; rfl, rfl⟩
  · rw [List.length_cons, List.length_cons] at same
    exact .inr ⟨by omega, _, rfl⟩

end Statement

namespace Directive

/-- Reading a directive, in full. -/
theorem read_spec (directive : Directive) (visibility : Visibility) (words : List String) :
    directive.ReadsAs visibility words (directive.read visibility words) := by
  cases directive with
  | use =>
    cases words with
    | nil => exact .missing _ rfl
    | cons word rest =>
      refine .statement _ (by simp [minWords]) rfl fun dependency h => ?_
      obtain rfl := Statement.use.inj h
      exact Statement.visibility_sortUseWords _ _
  | setting s =>
    rcases words with _ | ⟨name, _ | ⟨value, pairs⟩⟩
    · exact .missing _ rfl
    · exact .missing _ rfl
    · exact .statement _ (by simp [minWords]) rfl nofun
  | pattern | applyPattern | applyTag =>
    rw [read]
    rcases Statement.readApplication_cases _ words with ⟨rfl, failed⟩ | ⟨h, application, made⟩
    · rw [failed]
      exact .missing _ rfl
    · rw [made]
      exact .statement _ h rfl nofun
  | document =>
    rw [read]
    rcases Statement.readDocument_cases words with ⟨what, h, failed⟩ | ⟨h, document, made⟩
    · rw [failed]
      exact .missing what h
    · rw [made]
      exact .statement _ h rfl nofun
  | openSection | closeSection => exact .statement _ (Nat.zero_le _) rfl nofun
  | ignored i => exact .nothing i rfl
  | _ =>
    -- These need one word, and take it as it stands.
    cases words with
    | nil => exact .missing _ rfl
    | cons word rest => exact .statement _ (by simp [minWords]) rfl nofun

end Directive

end Requirements
