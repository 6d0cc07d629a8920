import ManifestMarkers.Toml.Scalar
import ManifestMarkers.Toml.Text
import ManifestMarkers.Toml.Value

/-!
# Reading a TOML document

A document is a sequence of lines: a pair, the header of a table or of an item of an array of
tables, or nothing. Arrays and inline tables may go on over lines.
-/

namespace ManifestMarkers.Toml

/-- How deep arrays and inline tables may be nested. -/
def maxDepth : Nat := 80

/-- A key, an equals sign and a value. -/
def pairWith (value : Step Value) : Step (List String × String × Value) := fun cs =>
  match key? cs with
  | some ((path, key), rest) => match skipBlanks rest with
    | '=' :: rest => match value (skipBlanks rest) with
      | some (v, rest) => some ((path, key, v), rest)
      | none => none
    | _ => none
  | none => none

/-- The items of an array, after the opening bracket or a comma. The fuel bounds their number. -/
def itemsWith (value : Step Value) : Nat → Step (List Value)
  | 0, _ => none
  | fuel + 1, cs => match skipSpace? cs with
    | some (']' :: rest) => some ([], rest)
    | some cs => match value cs with
      | none => none
      | some (v, rest) => match skipSpace? rest with
        | some (',' :: rest) =>
          (itemsWith value fuel rest).map fun (items, rest) => (v :: items, rest)
        | some (']' :: rest) => some ([v], rest)
        | _ => none
    | none => none

/-- The members of an inline table, after the opening brace or a comma. -/
def membersWith (value : Step Value) : Nat → Members → Step Members
  | 0, _, _ => none
  | fuel + 1, ms, cs => match skipSpace? cs with
    | some ('\x7d' :: rest) => some (ms, rest)
    | some cs => match pairWith value cs with
      | none => none
      | some ((path, key, v), rest) => match addPair path key v .inline ms, skipSpace? rest with
        | some ms, some (',' :: rest) => membersWith value fuel ms rest
        | some ms, some ('\x7d' :: rest) => some (ms, rest)
        | _, _ => none
    | none => none

/-- A value. The number says how many more arrays and inline tables may open. -/
def value? : Nat → Step Value
  | depth, cs => match cs with
    | '"' :: _ | '\'' :: _ => (string? cs).map fun (s, rest) => (.string s, rest)
    | '[' :: rest => match depth with
      | 0 => none
      | depth + 1 =>
        (itemsWith (value? depth) cs.length rest).map fun (items, rest) =>
          (.array false items, rest)
    | '\x7b' :: rest => match depth with
      | 0 => none
      | depth + 1 =>
        (membersWith (value? depth) cs.length [] rest).map fun (ms, rest) =>
          (.table .inline ms, rest)
    | _ =>
      let text := scalarText cs
      (scalarValue? text).map fun v => (v, cs.drop text.length)

/-! ### Documents -/

/-- The document so far, and the header that pairs belong to. -/
structure Document where
  members : Members := []
  header : List String := []
  deriving Repr

/-- The key of a header, up to its closing bracket. -/
def headerKey? (isItem : Bool) : Step (List String × String) := fun cs =>
  match key? cs with
  | some (key, ']' :: rest) =>
    if isItem then
      match rest with
      | ']' :: rest => some (key, rest)
      | _ => none
    else some (key, rest)
  | _ => none

/-- Open the table of a header. -/
def Document.openHeader (d : Document) (isItem : Bool) (path : List String) (key : String) :
    Option Document :=
  (if isItem then openItem path key d.members else openTable path key d.members).map fun members =>
    { members, header := path ++ [key] }

/-- Add a pair to the table of the last header. -/
def Document.add (d : Document) (path : List String) (key : String) (v : Value) : Option Document :=
  (addBelow d.header path key v d.members).map fun members => { d with members }

/-- Read one line that is not empty. -/
def line? (d : Document) : Step Document := fun cs =>
  let header (isItem : Bool) (cs : List Char) : Option (Document × List Char) :=
    match headerKey? isItem cs with
    | some ((path, key), rest) => (d.openHeader isItem path key).map (·, rest)
    | none => none
  match cs with
  | '[' :: '[' :: cs => header true cs
  | '[' :: cs => header false cs
  | _ => match pairWith (value? maxDepth) cs with
    | some ((path, key, v), rest) => (d.add path key v).map (·, rest)
    | none => none

/-- Read lines. The fuel bounds their number. -/
def lines? : Nat → Document → List Char → Option Document
  | 0, _, _ => none
  | fuel + 1, d, cs => match skipSpace? cs with
    | none => none
    | some [] => some d
    | some cs => match line? d cs with
      | none => none
      | some (d, rest) => match endLine? rest with
        | some rest => lines? fuel d rest
        | none => none

/-- Read a document. A byte order mark at its start does not count. -/
def parse? (text : String) : Option Members :=
  let cs := match text.toList with
    | '\ufeff' :: cs => cs
    | cs => cs
  (lines? (cs.length + 1) {} cs).map Document.members

end ManifestMarkers.Toml
