import Requirements.Command.Run
import Mathlib.Data.List.Induction

/-!
# Layers of a configuration

The configuration of a conversion comes from a file, the environment and the arguments, or
from defaults where none of them gives a setting. `configure_layered` says which of them
counts for each setting, and that nothing is checked but the outcome: a profile or a number
of jobs that another layer replaces may be anything. The profile that is left can be
selected.
-/

namespace Requirements

namespace Environment

/-- The profile that the environment names. An empty name counts as none. -/
def profile? (env : Environment) : Option String :=
  (env.value? Config.profileVariable).filter (· ≠ "")

/-- The cap on the number of jobs that the environment sets. -/
def jobs? (env : Environment) : Option Nat :=
  (env.value? SettingFault.jobsVariable).bind fun written =>
    (Text.readCount (Text.trim written.toList)).toOption

/-- The variable that caps the number of jobs is not set, or it holds a count. -/
def CountsJobs (env : Environment) : Prop :=
  ∀ written, env.value? SettingFault.jobsVariable = some written →
    ∃ jobs, Text.readCount (Text.trim written.toList) = .ok jobs

end Environment

namespace Config

/-- What the configuration file of a directory holds, if there is one. -/
def inDir? (tree : FileTree) (dir : Path) : Except ConfigError (Option Config) :=
  match find? tree dir with
  | none => .ok none
  | some file => (ofFile tree file).map some

/-- A configuration under a layer that may name a profile and set a cap on jobs. -/
def under (config : Config) (profile : Option String) (jobs : Option Nat) : Config :=
  let config := match profile with
    | some name => config.withProfile name
    | none => config
  match jobs with
  | some jobs => config.withJobs jobs
  | none => config

variable (config : Config) (profile : Option String) (jobs : Option Nat)

theorem profile_under : (config.under profile jobs).profile = profile.getD config.profile := by
  cases profile <;> cases jobs <;> simp [under]

theorem jobs_under : (config.under profile jobs).jobs = jobs.or config.jobs := by
  cases profile <;> cases jobs <;> simp [under]

theorem outputs_under : (config.under profile jobs).outputs = config.outputs := by
  cases profile <;> cases jobs <;> rfl

theorem adjustments_under : (config.under profile jobs).adjustments = config.adjustments := by
  cases profile <;> cases jobs <;> rfl

/-- A count among the variables is one more layer. -/
theorem applyEnvironment_eq {env : Environment} (counted : env.CountsJobs) :
    config.applyEnvironment env = .ok (config.under env.profile? env.jobs?) := by
  rw [applyEnvironment, Environment.profile?, Environment.jobs?]
  cases set : env.value? SettingFault.jobsVariable with
  | none =>
    cases env.value? profileVariable with
    | none => rfl
    | some name => by_cases empty : name = "" <;> simp [under, Option.filter, empty]
  | some written =>
    obtain ⟨jobs, read⟩ := counted written set
    cases env.value? profileVariable with
    | none => simp [under, read, Except.toOption]
    | some name =>
      by_cases empty : name = "" <;> simp [under, Option.filter, empty, read, Except.toOption]

theorem exists_load {tree : FileTree} {env : Environment} {dir : Path} {file : Option Config}
    (read : inDir? tree dir = .ok file) (counted : env.CountsJobs) :
    ∃ loaded, load tree env dir = .ok loaded ∧
      loaded.config = (file.getD {}).under env.profile? env.jobs? := by
  unfold inDir? at read
  unfold load
  cases found : find? tree dir with
  | none =>
    rw [found] at read
    obtain rfl := Except.ok.inj read
    simp only [applyEnvironment_eq _ counted]
    exact ⟨_, rfl, rfl⟩
  | some path =>
    rw [found] at read
    cases held : ofFile tree path with
    | error error =>
      simp only [held] at read
      cases read
    | ok config =>
      simp only [held] at read
      obtain rfl := Except.ok.inj read
      simp only [loadFile, held, bind, Except.bind, applyEnvironment_eq _ counted]
      exact ⟨_, rfl, rfl⟩

/-- What the settings must be like for a configuration to have no fault. -/
theorem fault?_eq_none_iff {config : Config} {known : List String} :
    config.fault? known = none ↔
      config.profile ∈ known ∧ config.jobs ≠ some 0 ∧
        (∀ text, config.outputs.bind OutputSettings.sentinel = some text →
          Text.isAllBlank text = false) ∧
        ∀ names, config.outputs.bind OutputSettings.files = some names →
          ∀ name ∈ names, Text.isAllBlank name = false := by
  unfold fault?
  by_cases unknown : config.profile ∈ known
  · by_cases idle : config.jobs = some 0
    · simp [unknown, idle]
    · simp only [unknown, not_true_eq_false, if_false, idle, true_and]
      cases config.outputs.bind OutputSettings.sentinel <;>
        cases config.outputs.bind OutputSettings.files <;> grind
  · simp [unknown]

end Config

/-- A known profile can be selected, whatever is adjusted in it. -/
theorem Profile.exists_select {name : String} (known : name ∈ allNames)
    (overrides : ProfileOverrides) :
    ∃ profile, select name overrides = .ok profile ∧ profile.name = name := by
  obtain ⟨member, listed, named⟩ := List.mem_map.1 known
  have found : (ofName? name).isSome := List.find?_isSome.2 ⟨member, listed, by simpa using named⟩
  obtain ⟨profile, found⟩ := Option.isSome_iff_exists.1 found
  refine ⟨profile.adjust overrides, by rw [select, found], ?_⟩
  simpa [adjust] using List.find?_some found

namespace Command

/-- The layer that counts for each setting: for the profile and the cap on jobs the arguments,
else the environment, else the file, and for all others the file alone. -/
structure Layered (env : Environment) (file : Option Config) (request : ConvertRequest)
    (config : Config) : Prop where
  profile : config.profile = ((request.profile.or env.profile?).or
    ((file.bind Config.translate).bind TranslateSettings.profile)).getD Config.defaultProfile
  jobs : config.jobs = (request.jobs.or env.jobs?).or
    ((file.bind Config.translate).bind TranslateSettings.jobs)
  sentinel : config.sentinel =
    ((file.bind Config.outputs).bind OutputSettings.sentinel).getD Config.defaultSentinel
  files : config.files =
    ((file.bind Config.outputs).bind OutputSettings.files).getD Config.defaultFiles
  overrides : config.overrides = (file.bind Config.adjustments).getD {}

/-- The settings that a conversion accepts. Of the sentinel and the names of output files only
those that the file gives are looked at. -/
structure Accepted (file : Option Config) (config : Config) : Prop where
  profile : config.profile ∈ Profile.allNames
  jobs : config.jobs ≠ some 0
  sentinel : ∀ text, (file.bind Config.outputs).bind OutputSettings.sentinel = some text →
    Text.isAllBlank text = false
  files : ∀ names, (file.bind Config.outputs).bind OutputSettings.files = some names →
    ∀ name ∈ names, Text.isAllBlank name = false

variable {env : Environment} {tree : FileTree} {request : ConvertRequest} {file : Option Config}

/-- The configuration of a conversion before it is checked. -/
def merged (env : Environment) (file : Option Config) (request : ConvertRequest) : Config :=
  ((file.getD {}).under env.profile? env.jobs?).under request.profile request.jobs

theorem layered_merged (env : Environment) (file : Option Config) (request : ConvertRequest) :
    Layered env file request (merged env file request) where
  profile := by
    rw [merged, Config.profile_under, Config.profile_under, Config.profile]
    cases request.profile <;> cases env.profile? <;> cases file <;> rfl
  jobs := by
    rw [merged, Config.jobs_under, Config.jobs_under, Config.jobs, Option.or_assoc]
    cases file <;> rfl
  sentinel := by
    rw [Config.sentinel, merged, Config.outputs_under, Config.outputs_under]
    cases file <;> rfl
  files := by
    rw [Config.files, merged, Config.outputs_under, Config.outputs_under]
    cases file <;> rfl
  overrides := by
    rw [Config.overrides, merged, Config.adjustments_under, Config.adjustments_under]
    cases file <;> rfl

theorem fault?_merged_eq_none_iff :
    (merged env file request).fault? Profile.allNames = none ↔
      Accepted file (merged env file request) := by
  have outputs : (merged env file request).outputs = file.bind Config.outputs := by
    rw [merged, Config.outputs_under, Config.outputs_under]
    cases file <;> rfl
  rw [Config.fault?_eq_none_iff, outputs]
  exact ⟨fun ⟨profile, jobs, sentinel, files⟩ => ⟨profile, jobs, sentinel, files⟩,
    fun h => ⟨h.profile, h.jobs, h.sentinel, h.files⟩⟩

theorem configure_eq {loaded : LoadedConfig}
    (h : Config.load tree env request.dir = .ok loaded) :
    configure env tree request =
      match (loaded.config.under request.profile request.jobs).fault? Profile.allNames with
      | some error => .error ⟨"Invalid configuration", [error.message]⟩
      | none => .ok (loaded.config.under request.profile request.jobs) := by
  unfold configure
  rw [h]
  rfl

/-- Only the outcome of all layers is checked. -/
theorem configure_eq_ok_iff (read : Config.inDir? tree request.dir = .ok file)
    (counted : env.CountsJobs) {config : Config} :
    configure env tree request = .ok config ↔
      config = merged env file request ∧ Accepted file config := by
  obtain ⟨loaded, found, below⟩ := Config.exists_load read counted
  rw [configure_eq found, below, ← merged]
  cases fault : (merged env file request).fault? Profile.allNames with
  | none =>
    have accepted := fault?_merged_eq_none_iff.1 fault
    simp only [Except.ok.injEq]
    exact ⟨fun same => ⟨same.symm, same ▸ accepted⟩, fun h => h.1.symm⟩
  | some error =>
    simp only [reduceCtorEq, false_iff, not_and]
    rintro rfl accepted
    rw [fault?_merged_eq_none_iff.2 accepted] at fault
    cases fault

/-- With a configuration file that can be read, or none, and no cap on jobs in the environment
but a count, there is one configuration that the layers make. The conversion has it exactly
when its settings can be accepted, and no other one ever; and then its profile can be
selected. -/
theorem configure_layered (read : Config.inDir? tree request.dir = .ok file)
    (counted : env.CountsJobs) :
    ∃ config, Layered env file request config ∧
      ((∃ result, configure env tree request = .ok result) ↔ Accepted file config) ∧
      ∀ result, configure env tree request = .ok result → result = config ∧
        ∃ profile, Profile.select result.profile result.overrides = .ok profile ∧
          profile.name = result.profile := by
  refine ⟨merged env file request, layered_merged env file request, ⟨?_, ?_⟩, ?_⟩
  · rintro ⟨result, made⟩
    obtain ⟨rfl, accepted⟩ := (configure_eq_ok_iff read counted).1 made
    exact accepted
  · intro accepted
    exact ⟨_, (configure_eq_ok_iff read counted).2 ⟨rfl, accepted⟩⟩
  · intro result made
    obtain ⟨rfl, accepted⟩ := (configure_eq_ok_iff read counted).1 made
    exact ⟨rfl, Profile.exists_select accepted.profile _⟩

/-- Neither the profile nor the cap on jobs of the file could be accepted, nor the cap of the
environment; but all of them are replaced. -/
theorem configure_layered_replaced :
    let source := "translate.profile = \"lhcb\"\ntranslate.jobs = 0\noutputs.sentinel = \"#\"\n"
    let tree := FileTree.ofEntries ["work"] [(⟨"cmtport.toml"⟩, some source.toUTF8.data.toList)]
    let env : Environment := ⟨[("CMTPORT_PROFILE", "tdaq"), ("CMTPORT_JOBS", " 0")]⟩
    let request : ConvertRequest := { jobs := some 3 }
    let file : Config :=
      { translate := some { profile := some "lhcb", jobs := some 0 }
        outputs := some { sentinel := some "#" } }
    Config.inDir? tree request.dir = .ok (some file) ∧ env.CountsJobs ∧
      ∃ config, configure env tree request = .ok config ∧ Layered env (some file) request config ∧
        config.profile = "tdaq" ∧ config.jobs = some 3 ∧ config.sentinel = "#" ∧
        ∃ profile, Profile.select config.profile config.overrides = .ok profile := by
  intro source tree env request file
  have read : Config.inDir? tree request.dir = .ok (some file) := by decide +kernel
  have counted : env.CountsJobs := by
    intro written set
    obtain rfl : " 0" = written := Option.some.inj set
    exact ⟨0, by decide⟩
  obtain ⟨config, layered, succeeds, unique⟩ := configure_layered read counted
  have profile : config.profile = "tdaq" := layered.profile
  have jobs : config.jobs = some 3 := layered.jobs
  have sentinel : config.sentinel = "#" := layered.sentinel
  have accepted : Accepted (some file) config := by
    refine ⟨by rw [profile]; decide, by rw [jobs]; decide, ?_, ?_⟩
    · intro text given
      obtain rfl : "#" = text := Option.some.inj given
      decide
    · intro names given
      cases given
  obtain ⟨result, made⟩ := succeeds.2 accepted
  obtain ⟨rfl, selected, found, -⟩ := unique result made
  exact ⟨read, counted, result, made, layered, profile, jobs, sentinel, selected, found⟩

end Command

end Requirements
