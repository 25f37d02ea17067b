import Requirements.Proofs.Builder

/-!
# What patterns do to the targets of a file

`expand` goes through the statements and edits one target for each pattern that has a
converter. `expand_invariant` packages the induction: what every edit keeps holds of
the targets at the end if it holds of those at the start. So names are never lost, and
no edit touches the compile flags of a target that is there.
-/

namespace Requirements

/-- Whether a statement is a dependency or applies a pattern. -/
def Statement.isUseOrPattern : Statement → Bool
  | .use _ | .applyPattern _ => true
  | _ => false

/-- Two outcomes are alike: results that are related, or the same error. -/
inductive Alike {ε α β : Type} (R : α → β → Prop) : Except ε α → Except ε β → Prop where
  | ok {first : α} {second : β} (related : R first second) : Alike R (.ok first) (.ok second)
  | error (error : ε) : Alike R (.error error) (.error error)

theorem Alike.map {ε α β γ δ : Type} {R : α → β → Prop} {S : γ → δ → Prop} {f : α → γ}
    {g : β → δ} (keeps : ∀ {first second}, R first second → S (f first) (g second))
    {first : Except ε α} {second : Except ε β} (h : Alike R first second) :
    Alike S (first.map f) (second.map g) := by
  cases h with
  | ok related => exact .ok (keeps related)
  | error error => exact .error error

theorem Alike.eq {ε α : Type} {first second : Except ε α} (h : Alike Eq first second) :
    first = second := by
  cases h with
  | ok same => rw [same]
  | error => rfl

namespace TargetEdit

/-- What an edit makes of a target, field by field. -/
theorem change_eq (edit : TargetEdit) (packageUses : List String) (target : Target) :
    edit.change packageUses target =
      { target with
        sources := edit.sources.getD target.sources
        uses := edit.uses.apply packageUses target.uses
        kwargs := edit.kwargs.foldl (fun kwargs entry => kwargs.insert entry.1 [entry.2])
          target.kwargs } := by
  have keep : ∀ (pairs : List (String × String)) (start : Target),
      pairs.foldl (fun target entry => target.setKwarg entry.1 entry.2) start =
        { start with
          kwargs := pairs.foldl (fun kwargs entry => kwargs.insert entry.1 [entry.2])
            start.kwargs } := by
    intro pairs
    induction pairs with
    | nil => exact fun start => rfl
    | cons pair pairs ih => exact fun start => ih (start.setKwarg pair.1 pair.2)
  exact keep _ _

/-- The target that an edit names, afterwards. -/
theorem get?_apply_self (edit : TargetEdit) (packageUses : List String) (set : TargetSet) :
    (edit.apply packageUses set).get? edit.name =
      some { edit.change packageUses (set.getOrNew edit.name edit.feature) with
        name := edit.name } := by
  simp [apply, TargetSet.findOrCreate_eq]

theorem get?_apply (edit : TargetEdit) (libraries : List String) (set : TargetSet)
    (name : String) :
    (edit.apply libraries set).get? name =
      if edit.name = name then
        some { edit.change libraries (set.getOrNew edit.name edit.feature) with
          name := edit.name }
      else set.get? name := by
  split
  · rename_i same
    rw [← same, edit.get?_apply_self]
  · rename_i other
    exact edit.get?_apply_of_ne libraries set other

end TargetEdit

namespace Graph

variable {profile : Profile} {package : String} {uses : List String} {targets result : TargetSet}

theorem expand_cons_of_other {statement : Statement} (h : statement.isUseOrPattern = false)
    (rest : List Statement) :
    expand profile package uses targets (statement :: rest) =
      expand profile package uses targets rest := by
  cases statement with
  | use | applyPattern => cases h
  | _ => rfl

/-- Only dependencies and patterns matter for the targets: the other statements may be
left out. -/
theorem expand_filter {test : Statement → Bool}
    (h : ∀ statement : Statement, statement.isUseOrPattern = true → test statement = true)
    (profile : Profile) (package : String) (uses : List String) (targets : TargetSet)
    (statements : List Statement) :
    expand profile package uses targets (statements.filter test) =
      expand profile package uses targets statements := by
  induction statements generalizing uses targets with
  | nil => rfl
  | cons statement rest ih =>
    by_cases kept : test statement = true
    · have first := expand_append profile package uses targets [statement]
      simp only [List.singleton_append] at first
      rw [List.filter_cons_of_pos kept, first (rest.filter test), first rest]
      congr 1
      funext middle
      exact ih _ _
    · have other : statement.isUseOrPattern = false := by
        cases matters : statement.isUseOrPattern with
        | false => rfl
        | true => exact absurd (h statement matters) kept
      rw [List.filter_cons_of_neg kept, expand_cons_of_other other, ih]

/-- What one statement does to the targets: nothing, unless it applies a known pattern, and
else one edit. -/
theorem expand_singleton_cases {statement : Statement}
    (h : expand profile package uses targets [statement] = .ok result) :
    ((∀ application, statement = .applyPattern application →
        profile.converter? application.name = none) ∧ result = targets) ∨
      ∃ application converter edit, statement = .applyPattern application ∧
        profile.converter? application.name = some converter ∧
        converter.edit package application = .ok edit ∧ result = edit.apply uses targets := by
  cases statement with
  | applyPattern application =>
    simp only [expand] at h
    cases found : profile.converter? application.name with
    | none =>
      simp only [found, Except.ok.injEq] at h
      refine .inl ⟨fun other same => ?_, h.symm⟩
      rw [← Statement.applyPattern.inj same, found]
    | some converter =>
      simp only [found, Converter.apply_eq] at h
      cases made : converter.edit package application with
      | error error => simp [made, Except.map] at h
      | ok edit =>
        simp only [made, Except.map, Except.ok.injEq] at h
        exact .inr ⟨application, converter, edit, rfl, found, made, h.symm⟩
  | _ =>
    refine .inl ⟨fun application same => ?_, (Except.ok.inj h).symm⟩
    cases same

/-- A run that succeeds splits at every statement. -/
theorem expand_append_ok (first last : List Statement)
    (h : expand profile package uses targets (first ++ last) = .ok result) :
    ∃ middle, expand profile package uses targets first = .ok middle ∧
      expand profile package (uses ++ usesOf profile first) middle last = .ok result := by
  rw [expand_append] at h
  cases ran : expand profile package uses targets first with
  | error error => simp [ran, bind, Except.bind] at h
  | ok middle => exact ⟨middle, rfl, by simpa [ran, bind, Except.bind] using h⟩

/-- What every edit keeps is kept by a run. -/
theorem expand_invariant {P : TargetSet → Prop}
    (step : ∀ (edit : TargetEdit) (libraries : List String) (set : TargetSet),
      P set → P (edit.apply libraries set))
    {statements : List Statement}
    (h : expand profile package uses targets statements = .ok result) (start : P targets) :
    P result := by
  induction statements generalizing uses targets with
  | nil =>
    obtain rfl := Except.ok.inj h
    exact start
  | cons statement rest ih =>
    obtain ⟨middle, one, ran⟩ := expand_append_ok [statement] rest h
    refine ih ran ?_
    rcases expand_singleton_cases one with ⟨-, rfl⟩ | ⟨_, _, edit, -, -, -, rfl⟩
    · exact start
    · exact step edit uses targets start

/-- Two runs over the same statements, with profiles that know the same patterns, end alike if
they start alike, every edit keeps their targets related, and every dependency their
libraries. -/
theorem expand_alike {other : Profile} (patterns : other.converters = profile.converters)
    {R : TargetSet → TargetSet → Prop} {L : List String → List String → Prop}
    {statements : List Statement}
    (grow : ∀ dependency, .use dependency ∈ statements → ∀ {first second : List String},
      L first second → L (first ++ profile.librariesOf dependency.qualifiedName)
        (second ++ other.librariesOf dependency.qualifiedName))
    (step : ∀ (edit : TargetEdit) {first second : List String} {set set' : TargetSet},
      L first second → R set set' → R (edit.apply first set) (edit.apply second set'))
    {first second : List String} {set set' : TargetSet} (libraries : L first second)
    (related : R set set') :
    Alike R (expand profile package first set statements)
      (expand other package second set' statements) := by
  induction statements generalizing first second set set' with
  | nil => exact .ok related
  | cons statement rest ih =>
    have later {first second : List String} {set set' : TargetSet}
        (libraries : L first second) (related : R set set') :=
      ih (fun dependency member => grow dependency (List.mem_cons_of_mem _ member)) libraries
        related
    cases statement with
    | use dependency => exact later (grow dependency List.mem_cons_self libraries) related
    | applyPattern application =>
      have known : other.converter? application.name = profile.converter? application.name := by
        rw [Profile.converter?, patterns, Profile.converter?]
      simp only [expand, known]
      cases profile.converter? application.name with
      | none => exact later libraries related
      | some converter =>
        simp only [Converter.apply_eq]
        cases converter.edit package application with
        | error error => exact .error error
        | ok edit => exact later libraries (step edit libraries related)
    | _ => exact later libraries related

/-- A run that succeeds does so with other libraries and from other targets too, and what every
edit keeps related is related at the end. -/
theorem expand_related {R : TargetSet → TargetSet → Prop} {L : List String → List String → Prop}
    (grow : ∀ {first second : List String} (more : List String), L first second →
      L (first ++ more) (second ++ more))
    (step : ∀ (edit : TargetEdit) {first second : List String} {set other : TargetSet},
      L first second → R set other → R (edit.apply first set) (edit.apply second other))
    {first second : List String} {set other : TargetSet} (libraries : L first second)
    (related : R set other) {statements : List Statement}
    (h : expand profile package first set statements = .ok result) :
    ∃ result', expand profile package second other statements = .ok result' ∧
      R result result' := by
  have alike : Alike R (expand profile package first set statements)
      (expand profile package second other statements) :=
    expand_alike rfl (fun _ _ => grow _) step libraries related
  rw [h] at alike
  generalize expand profile package second other statements = outcome at alike ⊢
  cases alike with
  | ok related => exact ⟨_, rfl, related⟩

/-- No target is lost, and none changes its position. -/
theorem prefix_names_expand {statements : List Statement}
    (h : expand profile package uses targets statements = .ok result) :
    targets.names <+: result.names := by
  refine expand_invariant (P := fun set => targets.names <+: set.names) ?_ h List.prefix_rfl
  intro edit libraries set kept
  rw [TargetEdit.names_apply]
  split
  · exact kept
  · exact kept.trans (List.prefix_append _ _)

/-- A pattern that has been applied has its target among the targets. -/
theorem applied_of_expand {statements : List Statement} {application : Application}
    {converter : Converter}
    (h : expand profile package uses targets statements = .ok result)
    (applied : .applyPattern application ∈ statements)
    (found : profile.converter? application.name = some converter) :
    ∃ edit, converter.edit package application = .ok edit ∧ edit.name ∈ result.names := by
  obtain ⟨first, last, rfl⟩ := List.append_of_mem applied
  obtain ⟨before, -, rest⟩ := expand_append_ok first _ h
  obtain ⟨middle, one, ran⟩ := expand_append_ok [.applyPattern application] last rest
  simp only [expand, found, Converter.apply_eq] at one
  cases made : converter.edit package application with
  | error error => simp [made, Except.map] at one
  | ok edit =>
    simp only [made, Except.map, Except.ok.injEq] at one
    refine ⟨edit, rfl, (prefix_names_expand ran).subset ?_⟩
    rw [← one, TargetEdit.names_apply]
    split
    · assumption
    · simp

/-- Patterns leave the compile flags of every target alone. -/
theorem compileFlags_expand {statements : List Statement} {name : String} {target : Target}
    (h : expand profile package uses targets statements = .ok result)
    (found : targets.get? name = some target) :
    ∃ kept, result.get? name = some kept ∧ kept.cxxFlags = target.cxxFlags ∧
      kept.cFlags = target.cFlags := by
  refine expand_invariant (P := fun set => ∃ kept, set.get? name = some kept ∧
    kept.cxxFlags = target.cxxFlags ∧ kept.cFlags = target.cFlags) ?_ h ⟨target, found, rfl, rfl⟩
  rintro edit libraries set ⟨kept, hkept, flags⟩
  by_cases same : edit.name = name
  · subst same
    refine ⟨_, edit.get?_apply_self libraries set, ?_⟩
    rw [edit.change_eq]
    simp only [TargetSet.getOrNew, hkept]
    exact flags
  · exact ⟨kept, by rw [edit.get?_apply_of_ne libraries set same, hkept], flags⟩

end Graph

end Requirements
