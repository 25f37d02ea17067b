import Requirements.Log
import Requirements.Pattern.Args
import Requirements.Target.Set
import Requirements.Target.Sources

/-!
# Converters

A converter tells what one application of a pattern does to the targets of a
package: it names one target, gives it a feature, and says what becomes of its
sources, its named arguments and its libraries. The name and the edit follow from
the application and the package alone; the libraries of the package enter only
when the edit is carried out.
-/

namespace Requirements

/-- What becomes of the libraries of a target, given those of the package: they stay,
or are those of the package unless it has none, or are exactly the given ones, or
are the given ones before those of the package. -/
inductive UsesEdit where
  | keep
  | attach
  | only (libraries : List String)
  | before (libraries : List String)
  deriving DecidableEq, Repr

/-- What a pattern does to one target. -/
structure TargetEdit where
  name : String
  feature : Feature
  sources : Option (List String) := none
  kwargs : List (String × String) := []
  uses : UsesEdit := .keep
  deriving DecidableEq, Repr

/-- What a pattern stands for. -/
inductive Converter where
  /-- A library called by a key, or by the package if there are no arguments, or else
  perhaps too. -/
  | library (key : String) (feature : Feature) (orPackage : Bool)
  /-- A library called by a key or the package, from the given files. -/
  | sharedLibrary
  /-- A program for the trigger configuration. -/
  | trigconfApplication
  /-- Files of the package to install. No files means that those of the target stay. -/
  | install (part : String) (feature : Feature) (files : List String)
  /-- Named files to install. -/
  | genericInstall (feature : Feature)
  /-- Job transforms to install. -/
  | jobTransforms
  /-- A dictionary for header files. -/
  | dictionary
  /-- A test program. -/
  | unitTest
  /-- A test run of the package. -/
  | athenarunTest
  deriving DecidableEq, Repr

/-- The libraries of a target after an edit. -/
def UsesEdit.apply (edit : UsesEdit) (packageUses old : List String) : List String :=
  match edit with
  | .keep => old
  | .attach => if packageUses.isEmpty then old else packageUses
  | .only libraries => libraries
  | .before libraries => libraries ++ packageUses

namespace TargetEdit

/-- A target after an edit, apart from its name and feature. -/
def change (edit : TargetEdit) (packageUses : List String) (target : Target) : Target :=
  let target := { target with
    sources := edit.sources.getD target.sources
    uses := edit.uses.apply packageUses target.uses }
  edit.kwargs.foldl (fun target (key, value) => target.setKwarg key value) target

/-- Carry out an edit, given the libraries of the package. -/
def apply (edit : TargetEdit) (packageUses : List String) (set : TargetSet) : TargetSet :=
  set.findOrCreate edit.name edit.feature (edit.change packageUses)

/-- After an edit the target it names is there: in its place if it was before, else
at the end. -/
theorem names_apply (edit : TargetEdit) (packageUses : List String) (set : TargetSet) :
    (edit.apply packageUses set).names =
      if edit.name ∈ set.names then set.names else set.names ++ [edit.name] := by
  simp [apply, TargetSet.findOrCreate_eq]

/-- An edit touches no other target. -/
theorem get?_apply_of_ne (edit : TargetEdit) (packageUses : List String) (set : TargetSet)
    {name : String} (h : edit.name ≠ name) :
    (edit.apply packageUses set).get? name = set.get? name := by
  simp [apply, TargetSet.findOrCreate_eq, h]

end TargetEdit

namespace Converter

/-- A target name, which must not be empty. -/
def requireName (package : String) (application : Application) (name : String) :
    Except PatternError String :=
  if name.isEmpty then .error (.emptyTarget application.name package application.args)
  else .ok name

/-- The name of a target that belongs to a package. -/
def packageTarget (package part : String) : String := package ++ "-" ++ part

/-- The name of a library. -/
def libraryName (package : String) (application : Application) (key : String)
    (orPackage : Bool) : Except PatternError String := do
  if application.args.isEmpty then return package
  let args ← PatternArgs.read package application
  match args.find? key with
  | some name => return name
  | none => return if orPackage then package else ""

/-- The name of a target for named files. -/
def genericName (package : String) (args : PatternArgs) : String :=
  packageTarget package ("generic-install-" ++ args.value "name" ++ "-" ++ args.value "kind")

/-- The named arguments that a pattern passes on, each under a key of its own. -/
def passedOn (args : PatternArgs) (keys : List (String × String)) : List (String × String) :=
  keys.filterMap fun (key, name) => (args.find? key).map fun value => (name, value)

/-- The edit that an application of a pattern stands for, in the package of a name. -/
def edit (converter : Converter) (package : String) (application : Application) :
    Except PatternError TargetEdit :=
  match converter with
  | .library key feature orPackage => do
    let name ← libraryName package application key orPackage
    let name ← requireName package application name
    return { name, feature, uses := .attach }
  | .sharedLibrary => do
    let args ← PatternArgs.read package application
    let name ← requireName package application ((args.find? "library").getD package)
    return {
      name
      feature := .atlasLibrary
      sources := some [(args.find? "files").getD "src/*.cxx"]
      uses := .attach }
  | .trigconfApplication => do
    let args ← PatternArgs.read package application
    let app ← requireName package application (args.value "name")
    return {
      name := "TrigConf" ++ app
      feature := .trigconfApplication
      sources := some ["src/test/" ++ app ++ ".cxx"]
      uses := .before [package, "boost-thread"] }
  | .install part feature files =>
    return {
      name := packageTarget package part
      feature
      sources := if files.isEmpty then none else some files }
  | .genericInstall feature => do
    let args ← PatternArgs.read package application
    return {
      name := genericName package args
      feature
      sources := some [args.value "files"]
      kwargs := passedOn args [("prefix", "install_prefix")] }
  | .jobTransforms => do
    let args ← PatternArgs.read package application
    return {
      name := packageTarget package "install-trfs"
      feature := .atlasInstallTrfs
      sources := some []
      kwargs := passedOn args [("jo", "trf_jo"), ("tfs", "trf_tfs")] }
  | .dictionary => do
    let args ← PatternArgs.read package application
    return {
      name := args.value "dict" ++ "Dict"
      feature := .atlasDictionary
      sources := some (SourceList.ofWords none (Text.wordsOf (args.value "headerfiles"))).sources
      kwargs := [("selection_file", package ++ "/" ++ args.value "selectionfile")]
      uses := .attach }
  | .unitTest => do
    let args ← PatternArgs.read package application
    let test := args.value "unit_test"
    return {
      name := packageTarget package ("test-" ++ test)
      feature := .atlasUnittest
      sources := some ["test/" ++ test ++ "_test.cxx"]
      kwargs := passedOn args [("extrapatterns", "extrapatterns")]
      uses := .attach }
  | .athenarunTest => do
    let args ← PatternArgs.read package application
    return {
      name := packageTarget package ("runtest-" ++ args.value "name")
      feature := .atlasAthenarunTest
      kwargs := passedOn args [("options", "joboptions"), ("post_script", "post_script")]
      uses := .only [package] }

/-- What is reported when a pattern is applied: files to install that are not given. -/
def warnings (converter : Converter) (package : String) (application : Application) :
    List LogRecord :=
  match converter, PatternArgs.read package application with
  | .genericInstall _, .ok args =>
    if (args.value "files").isEmpty then
      [.warn (package ++ ": " ++ application.name ++ " without files=, "
        ++ genericName package args ++ " gets an empty source entry")]
    else []
  | _, _ => []

end Converter

end Requirements
