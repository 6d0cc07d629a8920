import ManifestMarkers.Marker.Field

/-!
# Resource markers

A resource marker includes or excludes a whole manifest depending on the value of a field.
-/

namespace ManifestMarkers

/-- The path of resource markers. -/
def resourcePath : String := "+operator-builder:resource"

/-- A condition on a field for a whole manifest. -/
structure Resource where
  field : Option String := none
  collectionField : Option String := none
  value : Option Literal := none
  included : Option Bool := none
  /-- The expression for the field in generated code, once the field is known. -/
  reference : String := ""
  /-- The value in generated code, once the field is known. -/
  valueText : String := ""
  /-- The guard in generated code, once the field is known. -/
  guard : String := ""
  deriving Repr

namespace Resource

/-- The arguments of resource markers. -/
def args : List ArgSpec :=
  [⟨"field", .string, true⟩, ⟨"collectionField", .string, true⟩, ⟨"value", .any, false⟩,
    ⟨"include", .bool, false⟩]

/-- Set the argument with the given name. Gives the resource as this leaves it, and the fault. -/
def assign (r : Resource) (name : String) (value : Literal) : Resource × Option Fault :=
  match name with
  | "field" => ({ r with field := some value.text }, none)
  | "collectionField" => ({ r with collectionField := some value.text }, none)
  | "value" => ({ r with value := some value }, none)
  | "include" => ({ r with included := value.bool? }, none)
  | _ => (r, some (.unknownArgument name resourcePath .origin))

/-- The resource with the argument with the given name. -/
def setArg (r : Resource) (name : String) (value : Literal) : Except Fault Resource :=
  match r.assign name value with
  | (r, none) => .ok r
  | (_, some e) => .error e

/-- The checks across arguments: the value is a single one. -/
def validate (r : Resource) (position : Point) : Option Fault :=
  match r.value with
  | some (.slice _) => some (.mismatchedType "value" "a string, int or bool" "slice" position)
  | _ => none

/-- The marker as it is named in faults. -/
def describe (r : Resource) : String :=
  resourcePath ++ ":" ++ ((r.field.or r.collectionField).getD "") ++ "=" ++
    (r.value.map Literal.text).getD ""

/-- The type a field needs to be compared with a value. -/
def valueType? : Literal → Option FieldType
  | .string _ => some .string
  | .int _ => some .int
  | .bool _ => some .bool
  | .slice _ => none

/-- The guard that leaves the manifest out unless the comparison says otherwise. -/
def guardText (included : Bool) (reference value : String) : String :=
  "if " ++ reference ++ (if included then " != " else " == ") ++ value ++
    " \x7b\n\t\treturn []client.Object\x7b\x7d, nil\n\t\x7d"

end Resource

end ManifestMarkers
