import Requirements.Graph.Basic
import Requirements.Json.Statement

/-!
# Graphs as JSON
-/

namespace Requirements.Json

/-- Lists of strings by their keys, in order. -/
def ofKeyMap (map : KeyMap (List String)) : Json :=
  .object (map.entries.map fun (key, values) => (key, texts values))

/-- A target. -/
def ofTarget (target : Target) : Json :=
  .object
    [("name", .text target.name),
     ("feature", .text target.feature.name),
     ("sources", texts target.sources),
     ("cxx_flags", texts target.cxxFlags),
     ("c_flags", texts target.cFlags),
     ("uses", texts target.uses),
     ("kwargs", ofKeyMap target.kwargs)]

/-- The targets of a set, in order. -/
def ofTargetSet (set : TargetSet) : Json := .array (set.toList.map ofTarget)

/-- A dependency of a package. -/
def ofDependency (dependency : Dependency) : Json :=
  .object
    [("name", .text dependency.name),
     ("version", text? dependency.version),
     ("visibility", ofVisibility dependency.visibility),
     ("runtime", .bool dependency.runtime),
     ("switches", texts dependency.switches)]

/-- What a package says of itself. -/
def ofPackageInfo (info : PackageInfo) : Json :=
  .object
    [("name", .text info.name),
     ("path", .text info.path),
     ("authors", texts info.authors),
     ("managers", texts info.managers),
     ("version", text? info.version)]

/-- A graph. -/
def ofGraph (graph : Graph) : Json :=
  .object
    [("package", ofPackageInfo graph.package),
     ("deps", .array (graph.deps.map ofDependency)),
     ("targets", ofTargetSet graph.targets),
     ("configuration", .array (graph.configuration.map ofStatement)),
     ("pending_patterns", .array (graph.pendingPatterns.map ofApplication)),
     ("dialect", .text graph.dialect.name)]

end Requirements.Json
