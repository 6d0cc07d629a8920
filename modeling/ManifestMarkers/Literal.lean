import ManifestMarkers.Text.Basic
import ManifestMarkers.Text.Quoted

/-!
# Argument values

The values that marker arguments can have, and what an argument accepts. A value has two written
forms: the one of markers and the one of Go source code.
-/

namespace ManifestMarkers

/-- The value of a marker argument. -/
inductive Literal
  | string (value : String)
  | int (value : Int)
  | bool (value : Bool)
  | slice (items : List Literal)
  deriving Repr, Inhabited

namespace Literal

/-- The kinds of values. -/
inductive Kind
  | string
  | int
  | bool
  | slice
  deriving DecidableEq, Repr

/-- The name of a kind. -/
def Kind.text : Kind → String
  | string => "string"
  | int => "int"
  | bool => "bool"
  | slice => "slice"

/-- The kind of a value. -/
def kind : Literal → Kind
  | string _ => .string
  | int _ => .int
  | bool _ => .bool
  | slice _ => .slice

/-- The text of a truth value. -/
def boolText (b : Bool) : String := if b then "true" else "false"

/-- The text of a string value. -/
def string? : Literal → Option String
  | string s => some s
  | _ => none

/-- The truth value of a Boolean value. -/
def bool? : Literal → Option Bool
  | bool b => some b
  | _ => none

/-- Whether the value is a single one. -/
def isScalar : Literal → Bool
  | slice _ => false
  | _ => true

mutual

/-- The value as markers write it; strings stand without quotes. -/
def text : Literal → String
  | string s => s
  | int i => toString i
  | bool b => boolText b
  | slice items => "\x7b" ++ Text.joinStrings "," (texts items) ++ "\x7d"

/-- The values of a slice as markers write them. -/
def texts : List Literal → List String
  | [] => []
  | l :: ls => text l :: texts ls

end

/-- The element type of a Go slice, taken from its first element. -/
def goElement : List Literal → String
  | int _ :: _ => "int"
  | bool _ :: _ => "bool"
  | _ => "string"

mutual

/-- The value as Go source code writes it. -/
def goText : Literal → String
  | string s => Text.quoted s
  | int i => toString i
  | bool b => boolText b
  | slice items =>
    "[]" ++ goElement items ++ "\x7b" ++ Text.joinStrings ", " (goTexts items) ++ "\x7d"

/-- The values of a slice as Go source code writes them. -/
def goTexts : List Literal → List String
  | [] => []
  | l :: ls => goText l :: goTexts ls

end

end Literal

/-- What an argument accepts. -/
inductive ArgKind
  /-- Any single value, kept as its text. -/
  | string
  | int
  | bool
  | strings
  | ints
  | bools
  /-- Any value as it is. -/
  | any
  deriving DecidableEq, Repr

namespace ArgKind

/-- The name of a kind. -/
def text : ArgKind → String
  | string => "string"
  | int => "int"
  | bool => "bool"
  | strings => "[]string"
  | ints => "[]int"
  | bools => "[]bool"
  | any => "any"

/-- What the elements of a slice have to be, if slices are accepted. -/
def element? : ArgKind → Option ArgKind
  | strings => some string
  | ints => some int
  | bools => some bool
  | any => some any
  | string | int | bool => none

end ArgKind

/-- An argument of a marker. -/
structure ArgSpec where
  name : String
  kind : ArgKind
  isOptional : Bool := false
  deriving DecidableEq, Repr

/-- Names of arguments match whatever the case of their ASCII letters. -/
def ArgSpec.matchesName (spec : ArgSpec) (name : String) : Bool := Text.eqIgnoreCase spec.name name

end ManifestMarkers
