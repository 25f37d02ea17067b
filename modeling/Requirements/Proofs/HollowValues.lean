import Requirements.Graph.Analysis
import Requirements.Proofs.Frame
import Requirements.Proofs.KeyedArguments

/-!
# Values of which nothing is left

An argument with nothing behind its equals sign is refused. This is looked at before the quotes
and the step to the parent come off, so that quotes around nothing, a step to the parent, and
that in quotes are taken for values. `read_hollow` says that these are the only ways to an empty
value, and what becomes of one; `ofSource_hollow` goes the first of them.
-/

namespace Requirements

namespace PatternArgs

/-- The texts that are taken for a value though nothing of them is left. -/
def hollowTexts : List String := ["\"", "\"\"", "../", "\"../", "\"../\""]

variable {raw package : String} {application : Application} {args : PatternArgs}

theorem cleans_empty_iff : Cleans raw "" ↔ raw = "" ∨ raw ∈ hollowTexts := by
  constructor
  · rintro ⟨inner, unquotes, without⟩
    have left : inner = "" ∨ inner = "../" := by
      rcases without with step | ⟨same, -⟩
      · exact .inr (by simpa using step)
      · exact .inl same.symm
    cases unquotes with
    | bare => exact left.imp id fun step => by simp [step, hollowTexts]
    | closed | opened => rcases left with rfl | rfl <;> exact .inr (by decide)
  · rw [cleans_iff]
    rintro (rfl | hollow)
    · rfl
    · revert raw
      decide

/-- Neither the key nor the text behind the equals sign is empty in what is accepted. -/
theorem Last.ne_empty {key : String} (last : Last key raw application.args)
    (accepted : read package application = .ok args) : key ≠ "" ∧ raw ≠ "" := by
  obtain ⟨arg, member, keyed⟩ := last.exists_mem
  obtain ⟨key', raw', keyed', named, filled⟩ :=
    exists_readFrom_iff.1 ⟨args, accepted⟩ arg member
  obtain ⟨rfl, rfl⟩ := keyed.unique keyed'
  exact ⟨named, filled⟩

theorem find?_eq_empty_iff {key : String} (accepted : read package application = .ok args) :
    args.find? key = some "" ↔ ∃ raw ∈ hollowTexts, Last key raw application.args := by
  rw [find?_read accepted]
  refine exists_congr fun raw => ?_
  rw [cleans_empty_iff, and_comm]
  refine and_congr_left fun last => or_iff_right (last.ne_empty accepted).2

end PatternArgs

namespace Converter

variable {package name : String} {application : Application} {args : PatternArgs}

theorem find?_of_mem_passedOn {keys : List (String × String)} {value : String}
    (h : (name, value) ∈ passedOn args keys) : ∃ key, args.find? key = some value := by
  obtain ⟨⟨key, name'⟩, -, passed⟩ := List.mem_filterMap.1 h
  obtain ⟨found, there, same⟩ := Option.map_eq_some_iff.1 passed
  obtain ⟨-, rfl⟩ := Prod.mk.inj same
  exact ⟨key, there⟩

/-- A named argument without a value comes from an argument without one. -/
theorem exists_empty_of_kwarg {converter : Converter} {edit : TargetEdit}
    (accepted : PatternArgs.read package application = .ok args)
    (made : converter.edit package application = .ok edit) (member : (name, "") ∈ edit.kwargs) :
    ∃ key, args.find? key = some "" := by
  cases converter with
  | library =>
    obtain ⟨_, -, made⟩ := exists_of_bind_eq_ok made
    obtain ⟨_, -, made⟩ := exists_of_bind_eq_ok made
    obtain rfl := Except.ok.inj made
    cases member
  | sharedLibrary | trigconfApplication =>
    obtain ⟨_, -, made⟩ := exists_of_bind_eq_ok made
    obtain ⟨_, -, made⟩ := exists_of_bind_eq_ok made
    obtain rfl := Except.ok.inj made
    cases member
  | install =>
    obtain rfl := Except.ok.inj made
    cases member
  | genericInstall | jobTransforms | unitTest | athenarunTest =>
    obtain ⟨_, read, made⟩ := exists_of_bind_eq_ok made
    obtain rfl := Except.ok.inj (accepted.symm.trans read)
    obtain rfl := Except.ok.inj made
    exact find?_of_mem_passedOn member
  | dictionary =>
    obtain ⟨_, -, made⟩ := exists_of_bind_eq_ok made
    obtain rfl := Except.ok.inj made
    simp at member

end Converter

namespace PatternArgs

variable {package : String} {application : Application} {args : PatternArgs}

/-- In what is accepted no key is empty, and a value is empty exactly if the last argument with
its key has nothing but quotes, a step to the parent, or that in quotes behind the equals sign.
Without such an argument no named argument of a target is empty either. -/
theorem read_hollow (accepted : read package application = .ok args) :
    (∀ key value, args.find? key = some value → key ≠ "") ∧
    (∀ key, args.find? key = some "" ↔ ∃ raw ∈ hollowTexts, Last key raw application.args) ∧
    ∀ (converter : Converter) edit name, converter.edit package application = .ok edit →
      (name, "") ∈ edit.kwargs → ∃ key, ∃ raw ∈ hollowTexts, Last key raw application.args := by
  refine ⟨fun key value found => ?_, fun key => find?_eq_empty_iff accepted,
    fun converter edit name made member => ?_⟩
  · obtain ⟨raw, last, -⟩ := (find?_read accepted).1 found
    exact (last.ne_empty accepted).1
  · obtain ⟨key, empty⟩ := Converter.exists_empty_of_kwarg accepted made member
    exact ⟨key, (find?_eq_empty_iff accepted).1 empty⟩

/-- Of two arguments with one key, the second has a step to the parent for its value. -/
theorem read_hollow_parent :
    let application : Application :=
      ⟨"declare_job_transforms", [], ["jo=share/*.py", "tfs=\"", "jo=../"]⟩
    ∃ args, read "Foo" application = .ok args ∧ args.find? "jo" = some "" ∧
      ∃ raw ∈ hollowTexts, Last "jo" raw application.args := by
  intro application
  have made : (read "Foo" application).toOption.bind (fun args => args.find? "jo") = some "" := by
    decide
  cases accepted : read "Foo" application with
  | error error =>
    rw [accepted] at made
    cases made
  | ok args =>
    rw [accepted] at made
    exact ⟨args, rfl, made, ((read_hollow accepted).2.1 "jo").1 made⟩

end PatternArgs

/-- Quotes around nothing name a test, its file and its target. -/
theorem Graph.ofSource_hollow :
    (Graph.ofSource .atlasoff ⟨"Control/Foo/cmt/requirements"⟩
      "apply_pattern UnitTest_run unit_test=\"\"\n").toOption.map (fun graph =>
        graph.targets.toList.map fun target => (target.name, target.sources)) =
      some [("Foo-test-", ["test/_test.cxx"])] := by
  decide +kernel

end Requirements
