import Requirements.Config.Basic
import Requirements.Toml.Document

/-!
# Configuration files

A configuration file is a TOML document with a table for each group of settings.
Nothing but the known settings may stand in it, and each has one type. In place of a
table, the settings of a group may also be listed in an array, all of them and in
order; what follows them there is not looked at.
-/

namespace Requirements

namespace Config

/-- What a configuration file is called. -/
def fileName : String := "cmtport.toml"

/-- The values of named settings, from a table that has no others or from an array. -/
def group? (names : List String) : Toml.Value → Option (List (Option Toml.Value))
  | .table fields =>
    if fields.all fun (key, _) => key ∈ names then
      some (names.map fun name => fields.lookup name)
    else none
  | .array items =>
    if names.length ≤ items.length then some ((items.take names.length).map some) else none
  | _ => none

/-- Read the value of a setting, unless it is not given. -/
def optional? {α : Type} (read : Toml.Value → Option α) :
    Option Toml.Value → Option (Option α)
  | none => some none
  | some value => (read value).map some

/-- Read how files are translated. -/
def translate? (value : Toml.Value) : Option TranslateSettings :=
  match group? ["profile", "jobs"] value with
  | some [profile, jobs] => do
    return { profile := ← optional? Toml.Value.text? profile
             jobs := ← optional? Toml.Value.count? jobs }
  | _ => none

/-- Read which output files are looked at. -/
def outputs? (value : Toml.Value) : Option OutputSettings :=
  match group? ["files", "sentinel"] value with
  | some [files, sentinel] => do
    return { files := ← optional? Toml.Value.texts? files
             sentinel := ← optional? Toml.Value.text? sentinel }
  | _ => none

/-- Read the libraries that stand for packages. -/
def remap? (value : Toml.Value) : Option (KeyMap (List String)) := do
  let entries ← (← value.fields?).mapM fun (package, libraries) => do
    return (package, ← libraries.texts?)
  return .ofList entries

/-- Read what is adjusted in the profile. -/
def adjustments? (value : Toml.Value) : Option ProfileOverrides :=
  match group? ["remap", "imperative_prefixes"] value with
  | some [remap, prefixes] => do
    return { remap := (← optional? remap? remap).getD .empty
             imperativePrefixes := ← optional? Toml.Value.texts? prefixes }
  | _ => none

/-- Read a configuration from the fields of a document. -/
def ofDocument? (fields : List (String × Toml.Value)) : Option Config :=
  match group? ["translate", "outputs", "profile"] (.table fields) with
  | some [translate, outputs, adjustments] => do
    return { translate := ← optional? translate? translate
             outputs := ← optional? outputs? outputs
             adjustments := ← optional? adjustments? adjustments }
  | _ => none

/-- Read a configuration from the text of a file. -/
def ofSource (file : Path) (source : String) : Except ConfigError Config :=
  match (Toml.read? source).bind ofDocument? with
  | some config => .ok config
  | none => .error (.malformed file)

end Config

end Requirements
