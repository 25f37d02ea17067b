import Requirements.Proofs.Acceptance
import Requirements.Proofs.Builder

/-!
# Why a source has no graph

A pattern that fails would fail on every set of targets and with any libraries: what its
fault is can be told from the application and the name of the package. So a run over the
statements of a file ends at the first application that has a fault, wherever it stands
and whatever the statements above it have made. `ofSource_fails` adds that the source
must be readable, and says which error is reported.
-/

namespace Requirements

/-- Why an application of a pattern fails by itself, in the package of a name: with no
targets and no libraries. -/
def Converter.fault? (converter : Converter) (package : String) (application : Application) :
    Option PatternError :=
  match (converter.run package [] application).run .empty with
  | .ok _ _ => none
  | .error error _ => some error

/-- Why an application of a pattern fails by itself. One that nobody knows does not. -/
def Profile.fault? (profile : Profile) (package : String) (application : Application) :
    Option PatternError :=
  (profile.converter? application.name).bind fun converter => converter.fault? package application

/-- Why a statement fails by itself. -/
def Statement.fault? (profile : Profile) (package : String) (statement : Statement) :
    Option PatternError :=
  statement.application?.bind (profile.fault? package)

namespace Converter

theorem fault?_eq (converter : Converter) (package : String) (application : Application) :
    converter.fault? package application =
      match converter.edit package application with
      | .ok _ => none
      | .error error => some error := by
  rw [fault?, run_run]
  cases converter.edit package application <;> rfl

/-- Neither the libraries nor the targets have a part in whether a pattern fails, and why. -/
theorem run_eq_error_iff (converter : Converter) (package : String) (packageUses : List String)
    (application : Application) (set : TargetSet) (error : PatternError) :
    (∃ after, (converter.run package packageUses application).run set = .error error after) ↔
      converter.fault? package application = some error := by
  rw [fault?_eq, run_run]
  cases converter.edit package application <;> simp

theorem apply_eq_of_fault? (converter : Converter) (package : String) (packageUses : List String)
    (application : Application) (set : TargetSet) :
    match converter.fault? package application with
    | some error => converter.apply package packageUses application set = .error error
    | none => ∃ next, converter.apply package packageUses application set = .ok next := by
  rw [fault?_eq, apply_eq]
  cases converter.edit package application with
  | error error => rfl
  | ok edit => exact ⟨_, rfl⟩

end Converter

/-- A source that cannot be read fails at its path. -/
theorem File.path_of_ofSource_error {path : Path} {source : String} {error : ReadError}
    (h : File.ofSource path source = .error error) : error.path = path := by
  have start : (Reader.start path).Follows path [] := ⟨rfl, rfl⟩
  rw [File.ofSource_eq] at h
  rcases Reader.readLines_spec (fun _ => Line.tokenize_ne_nil_of_mem_logicalLines) start with
    ⟨-, next, ran⟩ | ⟨-, line, -, fault, -, -, -, failed⟩
  · rw [ran] at h
    cases h
  · rw [failed] at h
    obtain rfl := Except.error.inj h
    rfl

namespace Graph

/-- How a source text at a path fails to have a graph. -/
inductive Fails (profile : Profile) (path : Path) (source : String) : TranslateError → Prop where
  /-- It cannot be read. -/
  | read (error : ReadError) (unread : File.ofSource path source = .error error) :
      Fails profile path source (.read error)
  /-- An application of a pattern fails by itself, and none above it does. -/
  | pattern (file : File) (above below : List Statement) (application : Application)
      (fault : PatternError) (read : File.ofSource path source = .ok file)
      (split : file.statements = above ++ .applyPattern application :: below)
      (first : ∀ earlier, .applyPattern earlier ∈ above →
        profile.fault? (Reference.baseName file.package) earlier = none)
      (fails : profile.fault? (Reference.baseName file.package) application = some fault) :
      Fails profile path source (.file path (.pattern fault))

/-- Applying patterns ends at the first of them that fails by itself. -/
theorem expand_eq_error_iff {profile : Profile} {package : String} {uses : List String}
    {targets : TargetSet} {statements : List Statement} {error : PatternError} :
    expand profile package uses targets statements = .error error ↔
      statements.findSome? (Statement.fault? profile package) = some error := by
  induction statements generalizing uses targets with
  | nil => simp [expand]
  | cons statement rest ih =>
    cases statement with
    | applyPattern application =>
      cases known : profile.converter? application.name with
      | none =>
        simp [expand, known, ih, Statement.fault?, Statement.application?, Profile.fault?]
      | some converter =>
        have alone : Statement.fault? profile package (.applyPattern application) =
            converter.fault? package application := by
          simp [Statement.fault?, Statement.application?, Profile.fault?, known]
        have applied := converter.apply_eq_of_fault? package uses application targets
        rw [List.findSome?_cons, alone]
        cases fault : converter.fault? package application with
        | some fault =>
          rw [fault] at applied
          simp [expand, known, applied]
        | none =>
          rw [fault] at applied
          obtain ⟨next, applied⟩ := applied
          simp [expand, known, applied, ih]
    | _ => exact ih

theorem ofFile_eq_error_iff {profile : Profile} {file : File} {error : PatternError} :
    ofFile profile file = .error error ↔
      file.statements.findSome? (Statement.fault? profile (Reference.baseName file.package)) =
        some error := by
  rw [ofFile_eq, targetsOf, ← expand_eq_error_iff]
  cases expand profile _ [] _ file.statements <;> simp [Except.map]

/-- A statement that fails by itself applies a pattern. -/
theorem fault?_eq_some_iff {profile : Profile} {package : String} {statement : Statement}
    {fault : PatternError} :
    statement.fault? profile package = some fault ↔
      ∃ application, statement = .applyPattern application ∧
        profile.fault? package application = some fault := by
  constructor
  · intro h
    cases statement with
    | applyPattern application => exact ⟨application, rfl, h⟩
    | _ => cases h
  · rintro ⟨application, rfl, fails⟩
    exact fails

theorem ofSource_eq_error_of_ok {profile : Profile} {path : Path} {source : String} {file : File}
    (read : File.ofSource path source = .ok file) {error : TranslateError} :
    ofSource profile path source = .error error ↔
      ∃ fault, ofFile profile file = .error fault ∧ .file path (.pattern fault) = error := by
  simp only [ofSource, translate, read]
  cases ofFile profile file <;> simp [TranslateError.inFile]

/-- The ways to fail are those of `Fails`. -/
theorem ofSource_eq_error_iff {profile : Profile} {path : Path} {source : String}
    {error : TranslateError} :
    ofSource profile path source = .error error ↔ Fails profile path source error := by
  cases read : File.ofSource path source with
  | error unread =>
    simp only [ofSource, translate, read, Except.error.injEq]
    constructor
    · rintro rfl
      exact .read unread read
    · intro fails
      cases fails with
      | read error same => rw [Except.error.inj (read.symm.trans same)]
      | pattern _ _ _ _ _ same => cases read.symm.trans same
  | ok file =>
    rw [ofSource_eq_error_of_ok read]
    constructor
    · rintro ⟨fault, failed, rfl⟩
      obtain ⟨above, statement, below, split, fails, first⟩ :=
        List.findSome?_eq_some_iff.1 (ofFile_eq_error_iff.1 failed)
      obtain ⟨application, rfl, alone⟩ := fault?_eq_some_iff.1 fails
      exact .pattern file above below application fault read split
        (fun earlier member => first _ member) alone
    · intro fails
      cases fails with
      | read error same => cases read.symm.trans same
      | pattern file above below application fault same split first fails =>
        obtain rfl := Except.ok.inj (read.symm.trans same)
        refine ⟨fault, ofFile_eq_error_iff.2 (List.findSome?_eq_some_iff.2 ?_), rfl⟩
        refine ⟨above, _, below, split, fails, fun statement member => ?_⟩
        cases alone : statement.fault? profile (Reference.baseName file.package) with
        | none => rfl
        | some other =>
          obtain ⟨earlier, rfl, failed⟩ := fault?_eq_some_iff.1 alone
          cases (first earlier member).symm.trans failed

/-- Profiles whose patterns fail alike make the same sources fail. -/
theorem Fails.of_fault?_eq {first second : Profile} {path : Path} {source : String}
    {error : TranslateError} (same : first.fault? = second.fault?)
    (h : Fails first path source error) : Fails second path source error := by
  cases h with
  | read error unread => exact .read error unread
  | pattern file above below application fault read split earlier fails =>
    rw [same] at earlier fails
    exact .pattern file above below application fault read split earlier fails

/-- A source has no graph exactly when it cannot be read or some application of a known
pattern in it fails by itself, which is a matter of the application and the last name of the
package alone. What is reported is why it cannot be read, or else the fault of the first such
application with the path around it; the path of the error is that of the source. -/
theorem ofSource_fails (profile : Profile) (path : Path) (source : String) :
    ((∃ error, ofSource profile path source = .error error) ↔
      (∃ error, File.ofSource path source = .error error) ∨
        ∃ file application converter fault, File.ofSource path source = .ok file ∧
          .applyPattern application ∈ file.statements ∧
          profile.converter? application.name = some converter ∧
          converter.fault? (Reference.baseName file.package) application = some fault) ∧
    (∀ error, ofSource profile path source = .error error ↔ Fails profile path source error) ∧
    (∀ error, ofSource profile path source = .error error → error.path? = some path) ∧
    (∀ (converter : Converter) package packageUses application set fault,
      (∃ after, (converter.run package packageUses application).run set = .error fault after) ↔
        converter.fault? package application = some fault) ∧
    ∀ overrides error, ofSource (profile.adjust overrides) path source = .error error ↔
      ofSource profile path source = .error error := by
  refine ⟨⟨?_, ?_⟩, fun error => ofSource_eq_error_iff, ?_, Converter.run_eq_error_iff, ?_⟩
  · rintro ⟨error, failed⟩
    cases ofSource_eq_error_iff.1 failed with
    | read error unread => exact .inl ⟨error, unread⟩
    | pattern file above below application fault read split first fails =>
      obtain ⟨converter, known, fails⟩ := Option.bind_eq_some_iff.1 fails
      refine .inr ⟨file, application, converter, fault, read, ?_, known, fails⟩
      rw [split]
      simp
  · rintro (⟨error, unread⟩ | ⟨file, application, converter, fault, read, member, known, fails⟩)
    · exact ⟨_, ofSource_eq_error_iff.2 (.read error unread)⟩
    · -- Some statement fails, so there is a first one that does.
      have alone : profile.fault? (Reference.baseName file.package) application = some fault :=
        Option.bind_eq_some_iff.2 ⟨converter, known, fails⟩
      have found : (file.statements.findSome? (Statement.fault? profile
          (Reference.baseName file.package))).isSome := by
        refine List.findSome?_isSome_iff.2 ⟨_, member, ?_⟩
        rw [fault?_eq_some_iff.2 ⟨application, rfl, alone⟩]
        rfl
      obtain ⟨first, found⟩ := Option.isSome_iff_exists.1 found
      exact ⟨_, (ofSource_eq_error_of_ok read).2 ⟨first, ofFile_eq_error_iff.2 found, rfl⟩⟩
  · intro error failed
    cases ofSource_eq_error_iff.1 failed with
    | read error unread => exact congrArg some (File.path_of_ofSource_error unread)
    | pattern => rfl
  · intro overrides error
    rw [ofSource_eq_error_iff, ofSource_eq_error_iff]
    exact ⟨.of_fault?_eq rfl, .of_fault?_eq rfl⟩

/-- The second pattern lacks the name of its library. The targets and libraries that the file
has by then do not matter, and the malformed argument below it is not reported. -/
theorem ofSource_fails_emptyTarget :
    let path : Path := ⟨"Control/Foo/cmt/requirements"⟩
    let source := "use Bar\nlibrary Foo *.cxx\napply_pattern installed_library library=Foo\n" ++
      "apply_pattern installed_library name=Foo\napply_pattern UnitTest_run unit_test\n"
    let error : TranslateError :=
      .file path (.pattern (.emptyTarget "installed_library" "Foo" ["name=Foo"]))
    ofSource .atlasoff path source = .error error ∧ Fails .atlasoff path source error ∧
      error.path? = some path := by
  intro path source error
  have failed : ofSource .atlasoff path source = .error error := by decide +kernel
  obtain ⟨-, fails, named, -⟩ := ofSource_fails .atlasoff path source
  exact ⟨failed, (fails error).1 failed, named error failed⟩

end Graph

end Requirements
