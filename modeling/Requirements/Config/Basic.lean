import Requirements.Config.Error
import Requirements.OutputFiles

/-!
# Configuration

A configuration has three groups of settings: how files are translated, which output
files are looked at, and what is adjusted in the profile. A group or a setting that
is not given has a default, and a group that is given stays apart from one that is
not, even if it is empty.
-/

namespace Requirements

/-- How files are translated. -/
structure TranslateSettings where
  profile : Option String := none
  jobs : Option Nat := none
  deriving DecidableEq, Repr

/-- Which output files are looked at, and the text in front of a generated one. -/
structure OutputSettings where
  files : Option (List String) := none
  sentinel : Option String := none
  deriving DecidableEq, Repr

/-- The settings of a run. -/
structure Config where
  translate : Option TranslateSettings := none
  outputs : Option OutputSettings := none
  adjustments : Option ProfileOverrides := none
  deriving DecidableEq

namespace Config

/-- The profile that is used when none is named. -/
def defaultProfile : String := "atlasoff"

/-- The text in front of every generated output file, unless another is set. -/
def defaultSentinel : String := "## automatically generated by cmt2yml"

/-- The output files that are looked at, unless others are set. -/
def defaultFiles : List String := ["hscript.yml", "wscript"]

/-- The name of the profile. -/
def profile (config : Config) : String :=
  (config.translate.bind TranslateSettings.profile).getD defaultProfile

/-- The cap on the number of jobs. -/
def jobs (config : Config) : Option Nat := config.translate.bind TranslateSettings.jobs

/-- The text in front of a generated output file. -/
def sentinel (config : Config) : String :=
  (config.outputs.bind OutputSettings.sentinel).getD defaultSentinel

/-- The names of the output files that are looked at. -/
def files (config : Config) : List String :=
  (config.outputs.bind OutputSettings.files).getD defaultFiles

/-- The output files that are looked at, and the text in front of a generated one. -/
def outputFiles (config : Config) : OutputFiles := ⟨config.files, config.sentinel⟩

/-- What is adjusted in the profile. -/
def overrides (config : Config) : ProfileOverrides := config.adjustments.getD {}

/-- A configuration with another profile. -/
def withProfile (config : Config) (name : String) : Config :=
  { config with translate := some { config.translate.getD {} with profile := some name } }

/-- A configuration with another cap on the number of jobs. -/
def withJobs (config : Config) (jobs : Nat) : Config :=
  { config with translate := some { config.translate.getD {} with jobs := some jobs } }

/-- What is wrong with the settings, first of all an unknown profile. -/
def fault? (config : Config) (known : List String) : Option ConfigError :=
  if config.profile ∉ known then some (.unknownProfile ⟨config.profile, known⟩)
  else if config.jobs = some 0 then some (.invalid .noJobs)
  else if (config.outputs.bind OutputSettings.sentinel).any Text.isAllBlank then
    some (.invalid .blankSentinel)
  else if (config.outputs.bind OutputSettings.files).any (List.any · Text.isAllBlank) then
    some (.invalid .blankFileName)
  else none

@[simp] theorem profile_withProfile (config : Config) (name : String) :
    (config.withProfile name).profile = name := rfl

@[simp] theorem jobs_withProfile (config : Config) (name : String) :
    (config.withProfile name).jobs = config.jobs := by
  simp only [withProfile, jobs]
  cases config.translate <;> rfl

@[simp] theorem jobs_withJobs (config : Config) (jobs : Nat) :
    (config.withJobs jobs).jobs = some jobs := rfl

@[simp] theorem profile_withJobs (config : Config) (jobs : Nat) :
    (config.withJobs jobs).profile = config.profile := by
  simp only [withJobs, profile]
  cases config.translate <;> rfl

end Config

end Requirements
