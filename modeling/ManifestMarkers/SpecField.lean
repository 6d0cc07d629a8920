import ManifestMarkers.Inspection
import ManifestMarkers.Settings

/-!
# Fields of the generated spec

The fields that the markers of manifests produce: unique by name, the last marker with a name
counts, sorted by the name in generated code.
-/

namespace ManifestMarkers

/-- Whether a marker produces a field: field markers do, unless they belong to a collection that is
no resource of itself, and collection field markers do for collections. -/
def Collection.counts (c : Collection) : Marker → Bool
  | .field _ => !c.enabled || c.resources
  | .collectionField _ => c.enabled
  | .resource _ => false

namespace FieldDescriptor

/-- Replace the field with the same name, or add it at the end. -/
def insert (d : FieldDescriptor) : List FieldDescriptor → List FieldDescriptor
  | [] => [d]
  | e :: es => if e.manifestName = d.manifestName then d :: es else e :: d.insert es

end FieldDescriptor

/-- The fields that findings produce. -/
def specFields (findings : List Finding) (c : Collection) : List FieldDescriptor :=
  let fields := findings.foldl (fun fields f =>
    match if c.counts f.marker then f.marker.descriptor? else none with
    | some d => d.insert fields
    | none => fields) []
  fields.mergeSort fun a b => decide (a.name ≤ b.name)

end ManifestMarkers
