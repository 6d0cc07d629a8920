import ManifestMarkers.Point

/-!
# Faults

Everything that can be wrong with markers, manifests and settings, with the wording, the diagnostic
code, the advice and the place of each fault.
-/

namespace ManifestMarkers

/-- Why the layout of a manifest is not supported. -/
inductive LayoutFault
  | contentAfterStart
  | unexpectedContent
  | unexpectedIndentation
  | expectedKey
  | textAfterQuoted
  | unterminatedQuoted
  | unterminatedFlow
  | unterminatedSingleQuoted
  deriving DecidableEq, Repr

/-- The wording of a layout fault. -/
def LayoutFault.text : LayoutFault → String
  | contentAfterStart => "content after `---` is not supported"
  | unexpectedContent => "unexpected content"
  | unexpectedIndentation => "unexpected indentation"
  | expectedKey => "expected a mapping key"
  | textAfterQuoted => "unexpected text after quoted scalar"
  | unterminatedQuoted => "unterminated quoted scalar"
  | unterminatedFlow => "unterminated flow collection"
  | unterminatedSingleQuoted => "unterminated single quoted scalar"

/-- Everything that can go wrong. -/
inductive Fault
  /-- A file cannot be read as text. -/
  | unreadable
  /-- Marker text is malformed. -/
  | malformed (message : String) (position : Point)
  | unknownArgument (name marker : String) (position : Point)
  | duplicateArgument (name marker : String) (position : Point)
  | missingArgument (name marker : String)
  /-- An argument has a value of another type. -/
  | mismatchedType (name expected found : String) (position : Point)
  | invalidFieldType (text : String)
  | invalidPath (path : String)
  | duplicatePath (path : String)
  /-- A marker in a manifest is at fault; the place is one of the manifest. -/
  | inManifest (line column : Nat) (cause : Fault)
  /-- A text cannot be decoded as YAML. -/
  | undecodable
  /-- The layout of a manifest is not supported. -/
  | layout (line : Nat) (reason : LayoutFault)
  | invalidPattern (pattern : String)
  /-- A field marker annotates a collection. -/
  | nonScalarField (name : String) (line : Nat)
  | reservedName (name : String)
  | invalidResource (reason marker : String)
  | resourceTypeMismatch (expected found marker : String)
  /-- A settings file cannot be understood. -/
  | invalidSettings
  deriving DecidableEq, Repr

namespace Fault

/-- The diagnostic code. -/
def code : Fault → String
  | unreadable => "markers::io_error"
  | malformed .. => "markers::syntax"
  | unknownArgument .. => "markers::unknown_argument"
  | duplicateArgument .. => "markers::duplicate_argument"
  | missingArgument .. => "markers::missing_argument"
  | mismatchedType .. => "markers::mismatched_marker_types"
  | invalidFieldType .. => "markers::invalid_field_type"
  | invalidPath .. => "markers::invalid_prefix"
  | duplicatePath .. => "markers::duplicate_prefix"
  | inManifest .. => "markers::invalid_marker"
  | undecodable | layout .. => "markers::yaml"
  | invalidPattern .. => "markers::invalid_replace"
  | nonScalarField .. => "markers::non_scalar_field"
  | reservedName .. => "markers::reserved_field"
  | invalidResource .. => "markers::invalid_resource_marker"
  | resourceTypeMismatch .. => "markers::resource_type_mismatch"
  | invalidSettings => "markers::config_parse"

/-- The message. Faults of files, decoding, patterns and settings have no fixed wording. -/
def message? : Fault → Option String
  | unreadable | undecodable | invalidPattern _ | invalidSettings => none
  | malformed message _ => some message
  | unknownArgument name marker position =>
    some ("unknown argument `" ++ name ++ "` for marker `" ++ marker ++ "` at position: " ++
      position.text)
  | duplicateArgument name marker position =>
    some ("duplicate argument `" ++ name ++ "` for marker `" ++ marker ++ "` at position: " ++
      position.text)
  | missingArgument name marker =>
    some ("missing required argument `" ++ name ++ "` for marker `" ++ marker ++ "`")
  | mismatchedType name expected found position =>
    some ("mismatched marker types: argument `" ++ name ++ "` expects " ++ expected ++ ", got " ++
      found ++ " at position: " ++ position.text)
  | invalidFieldType text => some ("unable to parse field, `" ++ text ++ "` into FieldType")
  | invalidPath path => some ("invalid marker prefix: `" ++ path ++ "`")
  | duplicatePath path => some ("marker prefix `" ++ path ++ "` is already defined")
  | inManifest line column cause =>
    cause.message?.map fun message =>
      "invalid marker on line " ++ toString line ++ " column " ++ toString column ++ ": " ++ message
  | layout line reason =>
    some ("failed to parse yaml document at line " ++ toString line ++ ": " ++ reason.text)
  | nonScalarField name line =>
    some ("field marker `" ++ name ++ "` annotates a mapping or sequence on line " ++ toString line)
  | reservedName name =>
    some ("field marker `" ++ name ++ "` cannot be used and is reserved for internal purposes")
  | invalidResource reason marker =>
    some ("resource marker is invalid: " ++ reason ++ " for marker " ++ marker)
  | resourceTypeMismatch expected found marker =>
    some ("resource marker and field marker have mismatched types; expected: " ++ expected ++
      ", got: " ++ found ++ " for marker " ++ marker)

/-- Advice on how to mend the fault. -/
def help? : Fault → Option String
  | unknownArgument .. =>
    some "check the spelling of the argument against the marker definition"
  | missingArgument name _ => some ("add `" ++ name ++ "=<value>` to the marker")
  | invalidFieldType _ => some "supported types: string, int, bool, []string, []int, []bool"
  | invalidPath _ =>
    some "prefixes look like `+scope:scope`, using letters, digits, `-` and `_`"
  | nonScalarField .. =>
    some "field markers replace a single value, move the marker onto a scalar"
  | invalidResource .. =>
    some ("resource markers need `include`, a `field` or `collectionField` that names a field " ++
      "marker, and a `value`")
  | invalidSettings =>
    some ("check that markers.toml is valid TOML with `resources`, [placeholders] and " ++
      "[collection]")
  | _ => none

/-- The place the fault points at, if it has one. -/
def position? : Fault → Option Point
  | malformed _ position | unknownArgument _ _ position | duplicateArgument _ _ position
  | mismatchedType _ _ _ position => some position
  | inManifest line column _ => some ⟨line, column, 0⟩
  | _ => none

end Fault

end ManifestMarkers
