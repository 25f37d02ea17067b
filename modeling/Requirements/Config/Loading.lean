import Requirements.Config.Schema
import Requirements.Environment

/-!
# Finding and loading a configuration

The configuration of a directory is the nearest configuration file in it or above
it, as far as the text of its path tells. Without one every setting has its default.
Environment variables come after the file.
-/

namespace Requirements

/-- A configuration, and the file that it comes from. -/
structure LoadedConfig where
  config : Config
  source : Option Path := none
  deriving DecidableEq

namespace Config

/-- The variable that names the profile. -/
def profileVariable : String := "CMTPORT_PROFILE"

/-- Apply the environment variables. An empty profile name counts as none. -/
def applyEnvironment (env : Environment) (config : Config) : Except ConfigError Config :=
  let config := match env.value? profileVariable with
    | some name => if name.isEmpty then config else config.withProfile name
    | none => config
  match env.value? SettingFault.jobsVariable with
  | none => .ok config
  | some written =>
    match Text.readCount (Text.trim written.toList) with
    | .ok jobs => .ok (config.withJobs jobs)
    | .error fault => .error (.invalid (.notCount written fault))

/-- Read a configuration file. -/
def ofFile (tree : FileTree) (file : Path) : Except ConfigError Config :=
  match tree.read file with
  | .ok source => ofSource file source
  | .error fault => .error (.unreadable fault)

/-- Where the configuration file of a directory may be, the nearest place first. -/
def candidates (dir : Path) : List Path := dir.ancestors.map (·.join fileName)

/-- The nearest configuration file of a directory. -/
def find? (tree : FileTree) (dir : Path) : Option Path := (candidates dir).find? tree.isFile

/-- Load a configuration file. -/
def loadFile (tree : FileTree) (env : Environment) (file : Path) :
    Except ConfigError LoadedConfig := do
  let config ← ofFile tree file
  return { config := ← config.applyEnvironment env, source := file }

/-- Load the configuration of a directory. -/
def load (tree : FileTree) (env : Environment) (dir : Path) : Except ConfigError LoadedConfig :=
  match find? tree dir with
  | some file => loadFile tree env file
  | none => do return { config := ← applyEnvironment env {} }

end Config

end Requirements
