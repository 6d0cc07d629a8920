import ManifestMarkers.Diff
import ManifestMarkers.Inspection
import ManifestMarkers.Json
import ManifestMarkers.SpecField

/-!
# How results are written

The lines and JSON documents that list markers and fields, and the lines of a comparison.
-/

namespace ManifestMarkers

mutual

/-- A value as a JSON document. -/
def Literal.json : Literal → Json
  | .string s => .string s
  | .int i => .int i
  | .bool b => .bool b
  | .slice items => .array (Literal.jsonItems items)

/-- Values as JSON documents. -/
def Literal.jsonItems : List Literal → List Json
  | [] => []
  | l :: ls => Literal.json l :: Literal.jsonItems ls

end

namespace Cli

/-! ### Colours -/

/-- How a text is set off on a terminal. -/
inductive Colour
  | red
  | green
  | yellow
  | bold
  deriving DecidableEq, Repr

/-- The codes that start and end a colour. -/
def Colour.codes : Colour → String × String
  | red => ("31", "39")
  | green => ("32", "39")
  | yellow => ("33", "39")
  | bold => ("1", "0")

/-- A text in a colour, if colours are on. -/
def paint (colours : Bool) (c : Colour) (text : String) : String :=
  if colours then "\x1b[" ++ c.codes.1 ++ "m" ++ text ++ "\x1b[" ++ c.codes.2 ++ "m" else text

/-! ### Lines -/

/-- The arguments of a marker on one line. -/
def summary : Marker → String
  | .field f | .collectionField f =>
    Text.joinStrings " " (["name=" ++ f.name, "type=" ++ f.type.text] ++
      (f.default.map fun d => "default=" ++ d.text).toList ++
      (f.replace.map fun r => "replace=" ++ Text.quoted r).toList)
  | .resource r =>
    Text.joinStrings " " ((r.field.map ("field=" ++ ·)).toList ++
      (r.collectionField.map ("collectionField=" ++ ·)).toList ++
      (r.value.map fun v => "value=" ++ v.text).toList ++
      (r.included.map fun i => "include=" ++ Literal.boolText i).toList)

/-- The line for a finding. -/
def findingLine (colours : Bool) (file : String) (f : Finding) : String :=
  file ++ ":" ++ toString f.line ++ " " ++ paint colours .bold f.path ++ " " ++ summary f.marker ++
    "\n"

/-- The lines for a field. -/
def fieldLines (verbose : Bool) (d : FieldDescriptor) : String :=
  String.join (d.documentation.map fun line => "// " ++ line ++ "\n") ++ d.declaration ++ "\n" ++
    if verbose then
      "//   default: " ++ d.defaultValue ++ "\n//   sample:  " ++ d.sampleValue ++ "\n"
    else ""

/-- The line for a warning. -/
def warningLine (colours : Bool) (file : String) (w : Warning) : String :=
  paint colours .yellow "warning:" ++ " " ++ file ++ ": " ++ w.message ++ "\n"

/-- The line for a line of a comparison. A line end that is missing is added. -/
def diffLine (colours : Bool) (mark : Diff.Mark) (line : String) : String :=
  let isEnded := line.toList.getLast?.any fun c => c == '\n' || c == '\r'
  let line := if isEnded then line else line ++ "\n"
  match mark with
  | .kept => " " ++ line
  | .deleted => paint colours .red ("-" ++ line)
  | .inserted => paint colours .green ("+" ++ line)

/-- The lines of a comparison. -/
def diffLines (colours : Bool) (old new : String) : String :=
  String.join ((Diff.lines old new).map fun (mark, line) => diffLine colours mark line)

/-! ### JSON -/

/-- A member that may be missing. -/
def member? (key : String) (j : Option Json) : List (String × Json) :=
  match j with
  | some j => [(key, j)]
  | none => []

/-- A text that is left out if it is empty. -/
def unlessEmpty (s : String) : Option Json := if s.isEmpty then none else some (.string s)

/-- The arguments of a field. -/
def fieldMembers (f : Field) : List (String × Json) :=
  [("name", .string f.name), ("type", .string f.type.text)] ++
    member? "description" (f.description.map .string) ++
    member? "default" (f.default.map Literal.json) ++ member? "replace" (f.replace.map .string) ++
    member? "originalValue" (f.manifestValue.map .string)

/-- The arguments of a resource marker. -/
def resourceMembers (r : Resource) : List (String × Json) :=
  member? "field" (r.field.map .string) ++
    member? "collectionField" (r.collectionField.map .string) ++
    member? "value" (r.value.map Literal.json) ++ member? "include" (r.included.map .bool) ++
    member? "sourceCodeVariable" (unlessEmpty r.reference) ++
    member? "sourceCodeValue" (unlessEmpty r.valueText) ++
    member? "includeCode" (unlessEmpty r.guard)

/-- A marker as a JSON document. -/
def markerJson (m : Marker) : Json :=
  .object (("kind", .string m.variant.text) :: match m with
    | .field f | .collectionField f => fieldMembers f
    | .resource r => resourceMembers r)

/-- A finding in a file as a JSON document. -/
def findingJson (file : String) (f : Finding) : Json :=
  .object [("file", .string file), ("prefix", .string f.path), ("marker", markerJson f.marker),
    ("nodes", .array (f.target.nodes.map fun id => .int (Int.ofNat id))), ("raw", .string f.raw),
    ("position", .object [("line", .int f.position.line), ("column", .int f.position.column)]),
    ("line", .int f.line)]

/-- A field as a JSON document. -/
def fieldJson (d : FieldDescriptor) : Json :=
  .object [("name", .string d.name), ("manifestFieldName", .string d.manifestName),
    ("type", .string d.type.text), ("zeroValue", .string d.zeroValue),
    ("defaultValue", .string d.defaultValue), ("sampleValue", .string d.sampleValue),
    ("documentationLines", .array (d.documentation.map .string)),
    ("apiSpecContent", .string d.declaration)]

end Cli

end ManifestMarkers
