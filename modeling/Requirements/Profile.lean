import Requirements.Pattern.Catalogue
import Requirements.Target.Reference

/-!
# Profiles

A profile holds what differs between source trees: the patterns that are known, the
libraries that stand for a package, the features of declared targets, and the packages
that always need a build script. A run selects one profile by name and may adjust its
libraries and its packages of the last kind.
-/

namespace Requirements

/-- What differs between source trees. -/
structure Profile where
  name : String
  libraryFeature : Feature
  applicationFeature : Feature
  converters : List (String × Converter)
  libraries : List (String × List String)
  imperativePrefixes : List String
  deriving DecidableEq

/-- What a run adjusts in its profile. -/
structure ProfileOverrides where
  remap : KeyMap (List String) := .empty
  imperativePrefixes : Option (List String) := none
  deriving DecidableEq

/-- A profile name that nobody knows. -/
structure UnknownProfile where
  name : String
  available : List String
  deriving DecidableEq, Repr

/-- The error in words. -/
def UnknownProfile.message (error : UnknownProfile) : String :=
  "Unknown profile '" ++ error.name ++ "' (available: "
    ++ String.intercalate ", " error.available ++ ")"

namespace Profile

/-- The libraries that stand for the packages of every profile. A package without
libraries is dropped. -/
def commonLibraries : List (String × List String) :=
  [("AtlasAIDA", ["AIDA"]),
   ("AtlasBoost", ["AtlasBoost"]),
   ("AtlasCLHEP", ["CLHEP"]),
   ("AtlasCOOL", ["COOL"]),
   ("AtlasCORAL", ["CORAL"]),
   ("AtlasCppUnit", ["CppUnit"]),
   ("AtlasCxxPolicy", []),
   ("AtlasFortranPolicy", []),
   ("AtlasGdb", ["bfd"]),
   ("AtlasPOOL", ["POOL"]),
   ("AtlasPolicy", []),
   ("AtlasPython", ["AtlasPython"]),
   ("AtlasPyROOT", ["PyROOT"]),
   ("AtlasROOT", ["ROOT"]),
   ("AtlasReflex", ["Reflex"]),
   ("AtlasTBB", ["tbb"]),
   ("AtlasValgrind", ["valgrind"]),
   ("DetCommonPolicy", []),
   ("ExternalPolicy", []),
   ("GaudiInterface", ["GaudiKernel"])]

/-- The profile of the offline software. -/
def atlasoff : Profile where
  name := "atlasoff"
  libraryFeature := .atlasLibrary
  applicationFeature := .atlasApplication
  converters := Catalogue.offline ++ Catalogue.detectorCommon
  libraries := commonLibraries
  imperativePrefixes := ["External/"]

/-- The profile of the online software. -/
def tdaq : Profile where
  name := "tdaq"
  libraryFeature := .tdaqLibrary
  applicationFeature := .tdaqApplication
  converters := Catalogue.online
  libraries := commonLibraries
  imperativePrefixes := ["TDAQCExternal"]

/-- The profiles, in the order of their names. -/
def all : List Profile := [atlasoff, tdaq]

/-- The names of the profiles. -/
def allNames : List String := all.map name

/-- The profile of a name. -/
def ofName? (name : String) : Option Profile := all.find? (·.name == name)

/-- The feature of declared targets of a kind. -/
def defaultFeature (profile : Profile) : TargetKind → Feature
  | .library => profile.libraryFeature
  | .application => profile.applicationFeature

/-- The converter of a pattern. -/
def converter? (profile : Profile) (pattern : String) : Option Converter :=
  profile.converters.lookup pattern

/-- The patterns that have a converter, in order. -/
def patternNames (profile : Profile) : List String :=
  (profile.converters.map (·.1)).mergeSort fun a b => decide (a ≤ b)

/-- The libraries that stand for a package. A package that is not listed stands for
itself. -/
def remap (profile : Profile) (package : String) : List String :=
  (profile.libraries.lookup package).getD [package]

/-- The libraries that stand for a dependency, which is named by its last name. -/
def librariesOf (profile : Profile) (dependency : String) : List String :=
  profile.remap (Reference.baseName dependency)

/-- Whether a package always needs a build script: one of the prefixes begins its
name, or its path at the start or after a slash. -/
def forcesImperative (profile : Profile) (path name : String) : Bool :=
  profile.imperativePrefixes.any fun p =>
    Text.startsWith name p || Text.startsWith path p
      || Text.occursIn ('/' :: p.toList) path.toList

/-- A profile with adjustments. -/
def adjust (profile : Profile) (overrides : ProfileOverrides) : Profile :=
  { profile with
    libraries := overrides.remap.entries ++ profile.libraries
    imperativePrefixes := overrides.imperativePrefixes.getD profile.imperativePrefixes }

/-- Select a profile by name and adjust it. -/
def select (name : String) (overrides : ProfileOverrides := {}) :
    Except UnknownProfile Profile :=
  match ofName? name with
  | some profile => .ok (profile.adjust overrides)
  | none => .error ⟨name, allNames⟩

/-- An adjusted package stands for the given libraries. -/
theorem remap_adjust (profile : Profile) (overrides : ProfileOverrides) (package : String) :
    (profile.adjust overrides).remap package =
      (overrides.remap.entries.lookup package).getD (profile.remap package) := by
  simp only [remap, adjust]
  rw [List.lookup_append]
  cases overrides.remap.entries.lookup package <;> rfl

end Profile

end Requirements
