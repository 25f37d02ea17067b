import Requirements.KeyMap

/-!
# Build targets

A target is one product of a package. Its feature tells which rule of the build
system makes it. What a pattern adds beyond sources, flags and libraries is kept
under named arguments.
-/

namespace Requirements

/-- The rule that makes a target. -/
inductive Feature where
  | atlasLibrary
  | atlasApplication
  | atlasComponent
  | atlasDualUseLibrary
  | atlasTpcnv
  | atlasInstallJoboptions
  | atlasInstallPythonModules
  | atlasInstallScripts
  | atlasInstallXmls
  | atlasInstallData
  | atlasGenericInstall
  | atlasUnittest
  | atlasAthenarunTest
  | atlasDictionary
  | atlasInstallTrfs
  | detcommonInstallHeaders
  | detcommonGenericInstall
  | trigconfApplication
  | tdaqLibrary
  | tdaqApplication
  | tdaqInstallData
  | tdaqInstallHeaders
  | tdaqInstallScripts
  deriving DecidableEq, Repr

namespace Feature

/-- The name of a feature in build files. -/
def name : Feature → String
  | .atlasLibrary => "atlas_library"
  | .atlasApplication => "atlas_application"
  | .atlasComponent => "atlas_component"
  | .atlasDualUseLibrary => "atlas_dual_use_library"
  | .atlasTpcnv => "atlas_tpcnv"
  | .atlasInstallJoboptions => "atlas_install_joboptions"
  | .atlasInstallPythonModules => "atlas_install_python_modules"
  | .atlasInstallScripts => "atlas_install_scripts"
  | .atlasInstallXmls => "atlas_install_xmls"
  | .atlasInstallData => "atlas_install_data"
  | .atlasGenericInstall => "atlas_generic_install"
  | .atlasUnittest => "atlas_unittest"
  | .atlasAthenarunTest => "atlas_athenarun_test"
  | .atlasDictionary => "atlas_dictionary"
  | .atlasInstallTrfs => "atlas_install_trfs"
  | .detcommonInstallHeaders => "detcommon_install_headers"
  | .detcommonGenericInstall => "detcommon_generic_install"
  | .trigconfApplication => "trigconf_application"
  | .tdaqLibrary => "tdaq_library"
  | .tdaqApplication => "tdaq_application"
  | .tdaqInstallData => "tdaq_install_data"
  | .tdaqInstallHeaders => "tdaq_install_headers"
  | .tdaqInstallScripts => "tdaq_install_scripts"

/-- All features. -/
def all : List Feature :=
  [.atlasLibrary, .atlasApplication, .atlasComponent, .atlasDualUseLibrary, .atlasTpcnv,
   .atlasInstallJoboptions, .atlasInstallPythonModules, .atlasInstallScripts,
   .atlasInstallXmls, .atlasInstallData, .atlasGenericInstall, .atlasUnittest,
   .atlasAthenarunTest, .atlasDictionary, .atlasInstallTrfs, .detcommonInstallHeaders,
   .detcommonGenericInstall, .trigconfApplication, .tdaqLibrary, .tdaqApplication,
   .tdaqInstallData, .tdaqInstallHeaders, .tdaqInstallScripts]

/-- The feature of a name. -/
def ofName? (name : String) : Option Feature := all.find? (·.name == name)

end Feature

/-- A product of a package. -/
structure Target where
  name : String
  feature : Feature
  sources : List String := []
  cxxFlags : List String := []
  cFlags : List String := []
  uses : List String := []
  kwargs : KeyMap (List String) := .empty
  deriving DecidableEq

namespace Target

/-- The named argument for switches among the sources. -/
def switchesKey : String := "switches"

/-- Give a named argument one value. -/
def setKwarg (target : Target) (key value : String) : Target :=
  { target with kwargs := target.kwargs.insert key [value] }

/-- The values of a named argument. -/
def kwarg? (target : Target) (key : String) : Option (List String) := target.kwargs.find? key

/-- Add values to a named argument, if there are any to add. -/
def extendKwarg (target : Target) (key : String) (values : List String) : Target :=
  if values.isEmpty then target
  else { target with
    kwargs := target.kwargs.insert key ((target.kwargs.find? key).getD [] ++ values) }

@[simp] theorem name_extendKwarg (target : Target) (key : String) (values : List String) :
    (target.extendKwarg key values).name = target.name := by
  unfold extendKwarg
  split <;> rfl

@[simp] theorem feature_extendKwarg (target : Target) (key : String) (values : List String) :
    (target.extendKwarg key values).feature = target.feature := by
  unfold extendKwarg
  split <;> rfl

end Target

end Requirements
