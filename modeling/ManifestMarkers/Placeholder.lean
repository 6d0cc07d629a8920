import ManifestMarkers.Inspection
import ManifestMarkers.Settings

/-!
# Placeholders for marked values

A marked value gives way to a reference to its field in the generated spec:

* the comments around the value are removed; a description becomes the head comment;
* the value is the reference, with the tag `!!var`; with a pattern, only what matches is replaced
  and the tag is `!!str`;
* a resource marker only loses its comment.
-/

namespace ManifestMarkers

namespace Finding

/-- The comment that takes the place of a field marker with a description. -/
def descriptionComment (description name : String) : String :=
  String.ofList (Text.joinWith ['\n'] ((Text.lines
    (description ++ ", controlled by " ++ name).toList).map fun line => '#' :: ' ' :: line))

/-- Remove the comments of the target of a finding. -/
def clearComments (f : Finding) (m : Manifest) : Manifest :=
  let m := m.modify f.target.key fun n =>
    { n with headComment := "", footComment := "", lineComment := "" }
  m.modify f.target.value fun n => { n with lineComment := "" }

/-- The expression for the spec that has the field of a marker. -/
def specOf (p : Placeholders) : Marker → Option String
  | .field _ => some p.parent
  | .collectionField _ => some p.collection
  | .resource _ => none

/-- The value and tag that take the place of a value. -/
def replacement (field : Field) (spec value : String) : Except Fault (String × String) :=
  match field.replace with
  | none => .ok (field.reference spec, "!!var")
  | some pattern => match Pattern.compile? pattern with
    | none => .error (.invalidPattern pattern)
    | some p => .ok (p.replaceAll (field.inlineReference spec) value, "!!str")

/-- Whether the finding is a field marker on a collection. -/
def nonScalar? (f : Finding) (m : Manifest) : Option Fault :=
  match f.marker.field?, m.node? f.target.value with
  | some field, some n => if n.isScalar then none else some (.nonScalarField field.name n.line)
  | _, _ => none

/-- Put the placeholder of a field in place. Gives the manifest as far as it was changed, and the
field as it is afterwards. -/
def placeField (f : Finding) (field : Field) (spec : String) (m : Manifest) :
    Manifest × Except Fault Finding :=
  let description := field.description.map Field.trimLineFeeds
  let m := match description with
    | some d => m.modify f.target.key fun n =>
      { n with headComment := descriptionComment d field.name }
    | none => m
  let value := match m.node? f.target.value with
    | some n => n.value
    | none => ""
  let field := { field with description, manifestValue := some value }
  match replacement field spec value with
  | .error e => (m, .error e)
  | .ok (text, tag) =>
    (m.modify f.target.value fun n => (n.setTag tag).setValue text,
      .ok { f with marker := f.marker.mapField fun _ => field })

/-- Put the placeholder of a finding in place. -/
def place (p : Placeholders) (f : Finding) (m : Manifest) : Manifest × Except Fault Finding :=
  match f.nonScalar? m with
  | some e => (m, .error e)
  | none =>
    let m := f.clearComments m
    match f.marker.field?, specOf p f.marker with
    | some field, some spec => f.placeField field spec m
    | _, _ => (m, .ok f)

/-- Put the placeholders of findings in place, one after the other. A fault ends it and leaves the
manifest as far as it was changed. -/
def placeAll (p : Placeholders) : List Finding → Manifest → Manifest × Except Fault (List Finding)
  | [], m => (m, .ok [])
  | f :: fs, m => match f.place p m with
    | (m, .error e) => (m, .error e)
    | (m, .ok f) => match placeAll p fs m with
      | (m, .error e) => (m, .error e)
      | (m, .ok fs) => (m, .ok (f :: fs))

/-- Write the guard of a finding that is a resource marker. Gives the finding as this leaves it, and
the fault. -/
def writeGuard (p : Placeholders) (markers : List Marker) (f : Finding) : Finding × Option Fault :=
  match f.marker with
  | .resource r =>
    let (r, fault) := r.writeGuard markers p.parent p.collection
    ({ f with marker := .resource r }, fault)
  | _ => (f, none)

/-- Write the guards of findings, one after the other. A fault ends it and leaves the findings as
far as they were changed. -/
def writeGuards (p : Placeholders) (markers : List Marker) :
    List Finding → List Finding × Option Fault
  | [] => ([], none)
  | f :: fs => match f.writeGuard p markers with
    | (f, some e) => (f :: fs, some e)
    | (f, none) =>
      let (fs, fault) := writeGuards p markers fs
      (f :: fs, fault)

/-- Write the guards of resource markers, against the field markers among all findings. -/
def processAll (p : Placeholders) (fs : List Finding) : List Finding × Option Fault :=
  writeGuards p ((fs.map Finding.marker).filter (·.field?.isSome)) fs

end Finding

namespace Inspection

/-- Write the guards of the resource markers. -/
def process (i : Inspection) (p : Placeholders) : Except Fault Inspection :=
  match Finding.processAll p i.findings with
  | (findings, none) => .ok { i with findings }
  | (_, some e) => .error e

/-- Put the placeholders in place. -/
def place (i : Inspection) (p : Placeholders) (m : Manifest) : Manifest × Except Fault Inspection :=
  match Finding.placeAll p i.findings m with
  | (m, .error e) => (m, .error e)
  | (m, .ok findings) => (m, .ok { i with findings })

end Inspection

namespace Manifest

/-- Read a manifest and its markers. -/
def inspectText (registry : Registry) (text : String) : Except Fault (Manifest × Inspection) :=
  match parse text with
  | .error e => .error e
  | .ok m => match m.inspect registry with
    | .error e => .error e
    | .ok i => .ok (m, i)

/-- Inspect a manifest and put placeholders in place. -/
def inspectAndPlace (m : Manifest) (registry : Registry) (p : Placeholders) :
    Manifest × Except Fault Inspection :=
  match m.inspect registry with
  | .error e => (m, .error e)
  | .ok i => i.place p m

/-- Read a manifest, write guards if asked to, and put placeholders in place. -/
def transformText (registry : Registry) (p : Placeholders) (guards : Bool) (text : String) :
    Except Fault (Manifest × Inspection) :=
  match inspectText registry text with
  | .error e => .error e
  | .ok (m, i) => match if guards then i.process p else .ok i with
    | .error e => .error e
    | .ok i => match i.place p m with
      | (_, .error e) => .error e
      | (m, .ok i) => .ok (m, i)

end Manifest

/-- A collection that is one of its own resources refers to itself as the parent. -/
def collectionToParent (text : String) : String :=
  String.ofList (Text.replaceAll "!!var collection".toList "!!var parent".toList text.toList)

end ManifestMarkers
