import ManifestMarkers.Point
import ManifestMarkers.Text.Quoted

/-!
# Lexemes of marker text

A marker such as `+scope:path:name="earth",tags={a,b}` is read as a sequence of lexemes. Every
stream ends with one terminal lexeme: `eof`, or `error` when the text is malformed.
-/

namespace ManifestMarkers

namespace Lexeme

/-- What a lexeme stands for. -/
inductive Kind
  /-- The `+` of a marker. -/
  | markerStart
  /-- A segment of the scope path. -/
  | scope
  /-- The `:` after a scope segment. -/
  | separator
  /-- The name of an argument. -/
  | arg
  /-- A quoted or bare string. -/
  | stringLiteral
  /-- A value of digits only. -/
  | integerLiteral
  /-- `true` or `false`; also stands for the value of an argument that has none. -/
  | boolLiteral
  /-- The opening brace of a slice. -/
  | sliceBegin
  /-- The comma between two elements of a slice. -/
  | sliceDelimiter
  /-- The closing brace of a slice. -/
  | sliceEnd
  /-- The comment sign in front of a marker. -/
  | comment
  /-- The end of a marker. -/
  | markerEnd
  /-- Text that looks like a marker and is none. -/
  | warning
  /-- Malformed text. -/
  | error
  /-- The end of the text. -/
  | eof
  deriving DecidableEq, Repr

namespace Kind

/-- Whether the kind ends a stream. -/
def isTerminal : Kind → Bool
  | eof | error => true
  | _ => false

/-- Whether the kind is a single value. -/
def isScalar : Kind → Bool
  | stringLiteral | integerLiteral | boolLiteral => true
  | _ => false

/-- Whether the kind starts an argument value. -/
def isLiteral (k : Kind) : Bool := k.isScalar || k == sliceBegin

/-- The name of the kind. -/
def text : Kind → String
  | markerStart => "MarkerStart"
  | scope => "Scope"
  | separator => "Separator"
  | arg => "Arg"
  | stringLiteral => "StringLiteral"
  | integerLiteral => "IntegerLiteral"
  | boolLiteral => "BoolLiteral"
  | sliceBegin => "SliceBegin"
  | sliceDelimiter => "SliceDelimiter"
  | sliceEnd => "SliceEnd"
  | comment => "Comment"
  | markerEnd => "MarkerEnd"
  | warning => "Warning"
  | error => "Error"
  | eof => "EOF"

/-- Every kind, in the order of declaration. -/
def all : List Kind :=
  [markerStart, scope, separator, arg, stringLiteral, integerLiteral, boolLiteral, sliceBegin,
    sliceDelimiter, sliceEnd, comment, markerEnd, warning, error, eof]

/-- The kind with the given name. -/
def ofText? (name : String) : Option Kind := all.find? (·.text == name)

end Kind

end Lexeme

/-- A piece of marker text, classified, with the place where it starts. -/
structure Lexeme where
  kind : Lexeme.Kind
  value : String
  position : Point
  deriving DecidableEq, Repr

namespace Lexeme

/-- Whether the lexeme has this kind and value, wherever it stands. -/
def sameAs (l : Lexeme) (kind : Kind) (value : String) : Bool :=
  l.kind == kind && l.value == value

/-- The lexeme as it is named in messages. -/
def text (l : Lexeme) : String := l.kind.text ++ "(" ++ Text.quoted l.value ++ ")"

end Lexeme

end ManifestMarkers
