import ManifestMarkers.Manifest.Builder
import ManifestMarkers.Manifest.Writer

/-!
# Manifests

Reading a manifest, and decoding a document of it. A text is read only if all its documents can be
decoded as YAML.
-/

namespace ManifestMarkers.Manifest

/-- The lines of the documents, with whether each starts with an indicator. Documents are collected
from the last line to the first; `chunk` is the one that the next line belongs to. -/
def chunkLines : List Line → Except Fault (List Line × List (Bool × List Line))
  | [] => .ok ([], [])
  | line :: lines => match line.kind with
    | .documentStart =>
      let rest := Text.trim (line.text.drop 3)
      let comment? : Option (List Line) := match rest with
        | [] => some []
        | '#' :: _ => some [{ line with kind := .comment, text := rest }]
        | _ => none
      match comment? with
      | none => layoutFault line.number .contentAfterStart
      | some first => match chunkLines lines with
        | .error e => .error e
        | .ok (chunk, chunks) => .ok ([], (true, first ++ chunk) :: chunks)
    | .documentEnd => chunkLines lines
    | _ => match chunkLines lines with
      | .error e => .error e
      | .ok (chunk, chunks) => .ok (line :: chunk, chunks)

/-- Number the lines of a text. -/
def numberLines (number : Nat) : List (List Char) → List Line
  | [] => []
  | cs :: rest => .of number cs :: numberLines (number + 1) rest

/-- The documents of a text, as lines. Blank lines before the first indicator are no document. -/
def documentLines (cs : List Char) : Except Fault (List (Bool × List Line)) :=
  match chunkLines (numberLines 1 (Text.lines cs)) with
  | .error e => .error e
  | .ok (first, []) => .ok [(false, first)]
  | .ok (first, chunks) =>
    .ok (if first.all (·.kind == .blank) then chunks else (false, first) :: chunks)

/-- Read documents into the store. -/
def readDocuments (nodes : Array Node) :
    List (Bool × List Line) → Except Fault (List Root × Array Node)
  | [] => .ok ([], nodes)
  | (isExplicit, lines) :: rest => match readDocument nodes lines with
    | .error e => .error e
    | .ok (root, nodes) => match readDocuments nodes rest with
      | .error e => .error e
      | .ok (roots, nodes) => .ok ({ root with isExplicit } :: roots, nodes)

/-- Read the layout of a text, whether or not it can be decoded. -/
def ofLayout (cs : List Char) : Except Fault Manifest :=
  match documentLines cs with
  | .error e => .error e
  | .ok chunks => match readDocuments #[] chunks with
    | .error e => .error e
    | .ok (documents, nodes) => .ok { nodes, documents }

/-- Read a manifest. -/
def parse (text : String) : Except Fault Manifest :=
  match Yaml.decodeAll? text.toList with
  | none => .error .undecodable
  | some _ => ofLayout text.toList

/-- Only the characters of a text count. Some of the recursions behind this are on a measure, so that
`decide` opens them for given characters only where all is unfolded. -/
theorem parse_eq_ite (text : String) : parse text =
    if (Yaml.decodeAll? text.toList).isSome then ofLayout text.toList else .error .undecodable := by
  rw [parse]
  cases Yaml.decodeAll? text.toList <;> rfl

/-- Decode a document as it is written back without tags. A document that is not there is null. -/
def value (m : Manifest) (index : Nat) : Except Fault Yaml.Value :=
  match m.documents[index]? with
  | none => .ok .null
  | some root => match Yaml.decode? (documentText m false root) with
    | some v => .ok v
    | none => .error .undecodable

end ManifestMarkers.Manifest
