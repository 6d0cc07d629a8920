import ManifestMarkers.FieldType
import ManifestMarkers.Pattern
import ManifestMarkers.Text.Title

/-!
# Field markers

A field marker makes a value of a manifest a configurable field of the spec. Its descriptor says
what the generated code declares for the field.
-/

namespace ManifestMarkers

/-- The path of field markers. -/
def fieldPath : String := "+operator-builder:field"

/-- The path of collection field markers. -/
def collectionFieldPath : String := "+operator-builder:collection:field"

/-- Names that the generated code uses for itself. -/
def reservedNames : List String := ["collection.name", "collection.namespace"]

/-- Whether a field may not have this name. -/
def isReserved (name : String) : Bool := reservedNames.any (Text.eqIgnoreCase · name)

/-- A value of a manifest as a field of the spec. -/
structure Field where
  name : String := ""
  type : FieldType := .unknown
  description : Option String := none
  default : Option Literal := none
  /-- The pattern of the part of the value that is replaced; without one it is the whole value. -/
  replace : Option String := none
  /-- The annotated value as the manifest has it. -/
  manifestValue : Option String := none
  /-- Whether the field also answers to references from collection fields. -/
  forCollection : Bool := false
  deriving Repr

/-- What the generated code declares for a field. -/
structure FieldDescriptor where
  name : String
  manifestName : String
  type : FieldType
  zeroValue : String
  defaultValue : String
  sampleValue : String
  documentation : List String
  declaration : String
  deriving DecidableEq, Repr

namespace Field

/-- The arguments of field markers. -/
def args : List ArgSpec :=
  [⟨"name", .string, false⟩, ⟨"type", .string, false⟩, ⟨"description", .string, true⟩,
    ⟨"default", .any, true⟩, ⟨"replace", .string, true⟩]

/-- Set the argument with the given name; `path` names the marker in faults. Gives the field as this
leaves it, and the fault. -/
def assign (f : Field) (path name : String) (value : Literal) : Field × Option Fault :=
  match name with
  | "name" => ({ f with name := value.text }, none)
  | "type" => match FieldType.ofText value.text with
    | .ok type => ({ f with type }, none)
    | .error e => (f, some e)
  | "description" => ({ f with description := some value.text }, none)
  | "default" => ({ f with default := some value }, none)
  | "replace" => ({ f with replace := some value.text }, none)
  | _ => (f, some (.unknownArgument name path .origin))

/-- The field with the argument with the given name. -/
def setArg (f : Field) (path name : String) (value : Literal) : Except Fault Field :=
  match f.assign path name value with
  | (f, none) => .ok f
  | (_, some e) => .error e

theorem setArg_type (f : Field) (path : String) (value : Literal) :
    f.setArg path "type" value = (FieldType.ofText value.text).map fun type => { f with type } := by
  cases htype : FieldType.ofText value.text <;> simp only [setArg, assign, htype] <;> rfl

/-- The fault of a replacement pattern that is none. -/
def patternFault? (f : Field) : Option Fault :=
  match f.replace with
  | some pattern => if Pattern.isPattern pattern then none else some (.invalidPattern pattern)
  | none => none

/-- The checks across arguments. The default is kept in the form of its type; a default that
disagrees with the type is dropped along with the fault. -/
def validate (f : Field) (position : Point) : Field × Option Fault :=
  if isReserved f.name then (f, some (.reservedName f.name))
  else match f.default with
    | none => (f, f.patternFault?)
    | some default => match f.type.coerce default position with
      | .ok default =>
        let f := { f with default := some default }
        (f, f.patternFault?)
      | .error e => ({ f with default := none }, some e)

/-- The expression for the field in generated code. -/
def reference (f : Field) (spec : String) : String := spec ++ "." ++ Text.title f.name

/-- The placeholder for the field inside a value. -/
def inlineReference (f : Field) (spec : String) : String :=
  "!!start " ++ f.reference spec ++ " !!end"

/-- The Go type of the field. -/
def goType (f : Field) : String :=
  match f.type with
  | .unknown | .struct => Text.title f.name
  | type => type.text

/-- Text without its leading line feeds. -/
def trimLineFeeds (s : String) : String := String.ofList (s.toList.dropWhile (· == '\n'))

/-- The lines of the documentation. -/
def documentation (f : Field) : List String :=
  match f.description with
  | some d => (Text.lines (d.toList.dropWhile (· == '\n'))).map String.ofList
  | none => []

/-- The text of a sample: quoted for string fields. -/
def sampleText (f : Field) (value : String) : String :=
  if f.type = .string then Text.quoted value else value

/-- What the generated code declares for the field. -/
def descriptor (f : Field) : FieldDescriptor :=
  let title := Text.title f.name
  let (defaultValue, sample) := match f.default, f.manifestValue with
    | some default, _ => (default.goText, f.sampleText default.text)
    | none, some value => (f.sampleText value, f.sampleText value)
    | none, none => (f.type.zeroText, "")
  { name := title
    manifestName := f.name
    type := f.type
    zeroValue := f.type.zeroText
    defaultValue
    sampleValue := f.name ++ ": " ++ sample
    documentation := f.documentation
    declaration := title ++ " " ++ f.goType ++ " `json:\"" ++ f.name ++ "\"`" }

end Field

end ManifestMarkers
