import ManifestMarkers.Path

/-!
# Settings of a project

Which manifests belong to a project, what placeholders refer to, and whether the project is a
collection.
-/

namespace ManifestMarkers

/-- The expressions for the specs that placeholders refer to. -/
structure Placeholders where
  /-- The spec that has the fields of field markers. -/
  parent : String := "parent.Spec"
  /-- The spec that has the fields of collection field markers. -/
  collection : String := "collection.Spec"
  deriving DecidableEq, Repr

/-- The kind of workload the manifests belong to. -/
structure Collection where
  /-- Whether the manifests define a collection. -/
  enabled : Bool := false
  /-- Whether the manifests of the collection are resources of it. -/
  resources : Bool := false
  deriving DecidableEq, Repr

/-- The settings of a project. -/
structure Settings where
  /-- The manifests, relative to the root of the project. -/
  resources : List String := []
  placeholders : Placeholders := {}
  collection : Collection := {}
  deriving DecidableEq, Repr

namespace Settings

/-- The files that may hold the settings of a project; the first that is there counts. -/
def candidates : List String := ["markers.toml", ".markers.toml", ".config/markers.toml"]

/-- The manifests below the root of the project. -/
def resourcePaths (s : Settings) (root : String) : List String := s.resources.map (Path.join root)

end Settings

end ManifestMarkers
