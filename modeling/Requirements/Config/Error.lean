import Requirements.FileTree.Basic
import Requirements.Profile
import Requirements.Text.Count

/-!
# Faults of a configuration

A configuration file cannot be read, is not what a configuration file may be, or
gives a setting a value that it cannot have.
-/

namespace Requirements

/-- A value that a setting cannot have. -/
inductive SettingFault where
  | noJobs
  | blankSentinel
  | blankFileName
  | notCount (written : String) (fault : Text.CountFault)
  deriving DecidableEq, Repr

namespace SettingFault

/-- The variable that caps the number of jobs. -/
def jobsVariable : String := "CMTPORT_JOBS"

/-- The setting at fault. -/
def setting : SettingFault → String
  | .noJobs => "translate.jobs"
  | .blankSentinel => "outputs.sentinel"
  | .blankFileName => "outputs.files"
  | .notCount _ _ => jobsVariable

/-- What is wrong with its value. -/
def reason : SettingFault → String
  | .noJobs => "must be at least 1"
  | .blankSentinel => "must not be empty"
  | .blankFileName => "file names must not be empty"
  | .notCount written fault =>
    "'" ++ written ++ "' is not a thread count (" ++ fault.message ++ ")"

end SettingFault

/-- Why there is no usable configuration. -/
inductive ConfigError where
  | unreadable (fault : FileFault)
  | malformed (file : Path)
  | unknownProfile (error : UnknownProfile)
  | invalid (fault : SettingFault)
  deriving DecidableEq, Repr

/-- The error in words. -/
def ConfigError.message : ConfigError → String
  | .unreadable fault => "Failed to read configuration file: " ++ fault.message
  | .malformed file => "Invalid TOML syntax in " ++ file.text ++ ": TOML parse error"
  | .unknownProfile error => error.message
  | .invalid fault => "Invalid value for '" ++ fault.setting ++ "': " ++ fault.reason

end Requirements
