import ManifestMarkers.Fault
import ManifestMarkers.Literal

/-!
# Types of spec fields

A field marker declares the type of a spec field. A default value has to agree with the type; scalar
defaults of string fields are kept as their text.
-/

namespace ManifestMarkers

/-- The type of a spec field. -/
inductive FieldType
  /-- The type before it is declared. -/
  | unknown
  | string
  | int
  | bool
  | strings
  | ints
  | bools
  | struct
  deriving DecidableEq, Repr, Inhabited

namespace FieldType

/-- The keyword of a type. -/
def text : FieldType → String
  | unknown => "unknown"
  | string => "string"
  | int => "int"
  | bool => "bool"
  | strings => "[]string"
  | ints => "[]int"
  | bools => "[]bool"
  | struct => "struct"

/-- The type with the given keyword. There is no keyword for the undeclared type. -/
def ofText (text : String) : Except Fault FieldType :=
  match text with
  | "string" => .ok string
  | "int" => .ok int
  | "bool" => .ok bool
  | "[]string" => .ok strings
  | "[]int" => .ok ints
  | "[]bool" => .ok bools
  | "struct" => .ok struct
  | _ => .error (.invalidFieldType text)

/-- The zero value of the type in Go. -/
def zeroText : FieldType → String
  | string => "\"\""
  | int => "0"
  | bool => "false"
  | _ => "nil"

/-- Whether every item is of the given kind. -/
def allOf (kind : Literal.Kind) (items : List Literal) : Bool := items.all (·.kind == kind)

/-- The default value as the type keeps it, if it agrees with the type. -/
def accept? : FieldType → Literal → Option Literal
  | struct, literal => some literal
  | int, .int i => some (.int i)
  | bool, .bool b => some (.bool b)
  | string, literal => if literal.isScalar then some (.string literal.text) else none
  | strings, .slice items =>
    if items.all Literal.isScalar then some (.slice (items.map fun item => .string item.text))
    else none
  | ints, .slice items => if allOf .int items then some (.slice items) else none
  | bools, .slice items => if allOf .bool items then some (.slice items) else none
  | _, _ => none

/-- The default value as the type keeps it, or the fault at `position`. -/
def coerce (type : FieldType) (literal : Literal) (position : Point) : Except Fault Literal :=
  match type.accept? literal with
  | some literal => .ok literal
  | none => .error (.mismatchedType "default" type.text literal.kind.text position)

end FieldType

end ManifestMarkers
