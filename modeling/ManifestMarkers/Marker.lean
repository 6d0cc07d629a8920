import ManifestMarkers.Marker.Resource

/-!
# Markers

A marker is a field marker, a collection field marker or a resource marker. Arguments are set one
after the other on an empty marker of its variant, then checked together.
-/

namespace ManifestMarkers

/-- The variants of markers. -/
inductive Variant
  | field
  | collectionField
  | resource
  deriving DecidableEq, Repr

/-- A marker with its arguments. -/
inductive Marker
  | field (f : Field)
  /-- A field of the collection that a component belongs to. -/
  | collectionField (f : Field)
  | resource (r : Resource)
  deriving Repr

namespace Variant

/-- The arguments of markers of this variant. -/
def args : Variant → List ArgSpec
  | field | collectionField => Field.args
  | resource => Resource.args

/-- The marker of this variant without arguments. -/
def zero : Variant → Marker
  | field => .field {}
  | collectionField => .collectionField {}
  | resource => .resource {}

/-- The name of the variant. -/
def text : Variant → String
  | field => "field"
  | collectionField => "collectionField"
  | resource => "resource"

/-- The variant with the given name. -/
def ofText? (name : String) : Option Variant :=
  [field, collectionField, resource].find? (·.text == name)

end Variant

namespace Marker

/-- The variant of a marker. -/
def variant : Marker → Variant
  | field _ => .field
  | collectionField _ => .collectionField
  | resource _ => .resource

/-- The field behind a field or collection field marker. -/
def field? : Marker → Option Field
  | field f | collectionField f => some f
  | resource _ => none

/-- Change the field behind a field or collection field marker. -/
def mapField (g : Field → Field) : Marker → Marker
  | field f => field (g f)
  | collectionField f => collectionField (g f)
  | resource r => resource r

theorem field?_mapField (m : Marker) (g : Field → Field) :
    (m.mapField g).field? = m.field?.map g := by
  cases m <;> rfl

theorem mapField_eq_of_field? {m : Marker} {f : Field} (h : m.field? = some f)
    (g : Field → Field) : m.mapField (fun _ => g f) = m.mapField g := by
  cases m with
  | field _ | collectionField _ => cases h; rfl
  | resource _ => rfl

/-- Set the argument with the given name. Gives the marker as this leaves it, and the fault. -/
def assign (m : Marker) (name : String) (value : Literal) : Marker × Option Fault :=
  match m with
  | field f => let (f, fault) := f.assign fieldPath name value; (field f, fault)
  | collectionField f =>
    let (f, fault) := f.assign collectionFieldPath name value; (collectionField f, fault)
  | resource r => let (r, fault) := r.assign name value; (resource r, fault)

/-- The marker with the argument with the given name. -/
def setArg (m : Marker) (name : String) (value : Literal) : Except Fault Marker :=
  match m.assign name value with
  | (m, none) => .ok m
  | (_, some e) => .error e

section

variable (name : String) (value : Literal)

theorem setArg_field (f : Field) :
    (field f).setArg name value = (f.setArg fieldPath name value).map field := by
  simp only [setArg, assign, Field.setArg]
  rcases f.assign fieldPath name value with ⟨g, - | e⟩ <;> rfl

theorem setArg_collectionField (f : Field) : (collectionField f).setArg name value =
    (f.setArg collectionFieldPath name value).map collectionField := by
  simp only [setArg, assign, Field.setArg]
  rcases f.assign collectionFieldPath name value with ⟨g, - | e⟩ <;> rfl

theorem setArg_resource (r : Resource) :
    (resource r).setArg name value = (r.setArg name value).map resource := by
  simp only [setArg, assign, Resource.setArg]
  rcases r.assign name value with ⟨s, - | e⟩ <;> rfl

end

/-- The checks across arguments. Gives the marker as the checks leave it, and the first fault. -/
def validate (m : Marker) (position : Point) : Marker × Option Fault :=
  match m with
  | field f => let (f, fault) := f.validate position; (field f, fault)
  | collectionField f => let (f, fault) := f.validate position; (collectionField f, fault)
  | resource r => (resource r, r.validate position)

/-- Whether the marker is a collection field marker. -/
def isCollectionField : Marker → Bool
  | collectionField _ => true
  | _ => false

/-- What the generated code declares for the marker. -/
def descriptor? (m : Marker) : Option FieldDescriptor := m.field?.map Field.descriptor

end Marker

namespace Resource

/-- The field a resource marker refers to, with the spec expression of its variant: the field marker
whose name is `field`, or one for collections or a collection field marker whose name is
`collectionField`. -/
def associated? (r : Resource) (parent collection : String) : Marker → Option (Field × String)
  | .field f =>
    if r.field = some f.name ∨ (f.forCollection ∧ r.collectionField = some f.name) then
      some (f, parent)
    else none
  | .collectionField f => if r.collectionField = some f.name then some (f, collection) else none
  | .resource _ => none

/-- Find the field among the markers, compare the types, and write the guard. Gives the marker as
this leaves it, and the fault. -/
def writeGuard (r : Resource) (markers : List Marker) (parent collection : String) :
    Resource × Option Fault :=
  match r.included with
  | none => (r, some (.invalidResource "missing 'include' value" r.describe))
  | some included => match markers.findSome? (r.associated? parent collection) with
    | none => (r, some (.invalidResource "unable to find associated field marker" r.describe))
    | some (field, spec) => match r.field.or r.collectionField, r.value with
      | some _, some value => match valueType? value with
        | none => (r, some (.invalidResource "'value' is of unknown type" r.describe))
        | some type =>
          if field.type = type then
            let r := { r with reference := field.reference spec }
            let r := { r with valueText := value.goText }
            ({ r with guard := guardText included r.reference r.valueText }, none)
          else (r, some (.resourceTypeMismatch field.type.text type.text r.describe))
      | _, _ =>
        (r, some (.invalidResource "missing 'collectionField', 'field' or 'value'" r.describe))

/-- The marker with its guard. -/
def process (r : Resource) (markers : List Marker) (parent collection : String) :
    Except Fault Resource :=
  match r.writeGuard markers parent collection with
  | (r, none) => .ok r
  | (_, some e) => .error e

end Resource

end ManifestMarkers
