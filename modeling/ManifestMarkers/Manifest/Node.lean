import ManifestMarkers.Manifest.Line
import ManifestMarkers.Json
import ManifestMarkers.Yaml.Writer

/-!
# Nodes of a manifest

A node is a mapping, a sequence or a scalar, together with the comments attached to it. Nodes live
in one store per manifest and refer to each other by number; the content of a mapping alternates
keys and values.
-/

namespace ManifestMarkers.Manifest

/-- The kinds of nodes. -/
inductive NodeKind
  | mapping
  | sequence
  | scalar
  deriving DecidableEq, Repr

/-- How a scalar is written. -/
inductive ScalarStyle
  | plain
  | singleQuoted
  | doubleQuoted
  | literal
  | folded
  /-- A flow collection, kept as text. -/
  | flow
  deriving DecidableEq, Repr

/-- The style a scalar has by its first character. -/
def styleOf : List Char → ScalarStyle
  | '|' :: _ => .literal
  | '>' :: _ => .folded
  | '[' :: _ | '\x7b' :: _ => .flow
  | '"' :: _ => .doubleQuoted
  | '\'' :: _ => .singleQuoted
  | _ => .plain

/-- A node with its comments, which are kept as their lines with `#`. -/
structure Node where
  kind : NodeKind
  line : Nat
  column : Nat
  style : ScalarStyle := .plain
  tag : Option String := none
  /-- The anchor with its `&`. -/
  anchor : Option String := none
  /-- The value of a scalar. -/
  value : String := ""
  /-- The numbers of the nodes in a collection. -/
  content : List Nat := []
  headComment : String := ""
  lineComment : String := ""
  footComment : String := ""
  /-- The text of a scalar that has not been changed. -/
  raw : Option String := none
  /-- Where the comments start that were read from the text. -/
  headPositions : List Point := []
  linePosition : Option Point := none
  footPositions : List Point := []
  deriving Repr

namespace Node

/-- Whether the node is a scalar. -/
def isScalar (n : Node) : Bool := n.kind == .scalar

/-- All comments of the node: head, line and foot comment, joined by line feeds. -/
def commentText (n : Node) : String :=
  n.headComment ++ "\n" ++ n.lineComment ++ "\n" ++ n.footComment

/-- Replace the value of a scalar. -/
def setValue (n : Node) (value : String) : Node := { n with value, style := .plain, raw := none }

/-- Replace the tag. -/
def setTag (n : Node) (tag : String) : Node := { n with tag := some tag }

/-- The number of lines of a text. -/
def lineCount (s : String) : Nat := (Text.lines s.toList).length

/-- Where a line of the comment text, counted from one, starts in the manifest. -/
def commentPosition? (n : Node) (number : Nat) : Option Point :=
  if number = 0 then none
  else
    let index := number - 1
    let head := lineCount n.headComment
    if index < head then if n.headPositions.length = head then n.headPositions[index]? else none
    else if index = head then if n.lineComment.isEmpty then none else n.linePosition
    else n.footPositions[index - head - 1]?

/-- The width of the indentation. -/
def indent (n : Node) : Nat := n.column - 1

/-- The anchor, and the tag if `tags` are written. -/
def properties (n : Node) (tags : Bool) : List Char :=
  let tag := if tags then n.tag else none
  Text.joinWith [' '] ((n.anchor.toList ++ tag.toList).map String.toList)

/-- A changed value, quoted as far as it has to be. -/
def quote (cs : List Char) : List Char :=
  if cs.isEmpty then ['"', '"']
  else
    let text := Yaml.writeString cs
    if text.contains '\n' then Json.stringText cs else text

/-- A scalar as it is written back. -/
def scalarText (n : Node) (tags : Bool) : List Char :=
  let value := match n.raw with
    | some raw => raw.toList
    | none => quote n.value.toList
  let properties := n.properties tags
  if properties.isEmpty then value
  else if value.isEmpty then properties
  else properties ++ ' ' :: value

end Node

/-- One document of a manifest. -/
structure Root where
  /-- The number of the root node, if the document has content. -/
  node : Option Nat := none
  /-- Whether the document starts with an indicator. -/
  isExplicit : Bool := false
  /-- Comments that belong to no node. -/
  comment : String := ""
  deriving DecidableEq, Repr

end ManifestMarkers.Manifest

namespace ManifestMarkers

/-- A sequence of documents that keeps comments. -/
structure Manifest where
  nodes : Array Manifest.Node := #[]
  documents : List Manifest.Root := []
  deriving Repr

namespace Manifest

/-- The node with a number. -/
def node? (m : Manifest) (id : Nat) : Option Node := m.nodes[id]?

/-- Change the node with a number. -/
def modify (m : Manifest) (id : Nat) (f : Node → Node) : Manifest :=
  { m with nodes := m.nodes.modify id f }

/-- The root node of a document. -/
def root? (m : Manifest) (index : Nat) : Option Nat := (m.documents[index]?).bind Root.node

/-- The root nodes of the documents that have content. -/
def roots (m : Manifest) : List Nat := m.documents.filterMap Root.node

/-- The content of a node. -/
def contentOf (m : Manifest) (id : Nat) : List Nat :=
  match m.node? id with
  | some n => n.content
  | none => []

/-- The value after the first entry with value `key`, where content is read in pairs. -/
def lookup? (m : Manifest) (key : String) : List Nat → Option Nat
  | k :: v :: rest =>
    if (m.node? k).any (·.value == key) then some v else m.lookup? key rest
  | _ => none

/-- Follow keys from a node. -/
def getPath? (m : Manifest) (node : Nat) : List String → Option Nat
  | [] => some node
  | key :: path => (m.lookup? key (m.contentOf node)).bind (m.getPath? · path)

/-- The numbers of the nodes below some nodes, each before its content. The fuel bounds the depth.
-/
def preorderFrom (m : Manifest) : Nat → List Nat → List Nat
  | 0, _ => []
  | fuel + 1, ids => ids.flatMap fun id => id :: m.preorderFrom fuel (m.contentOf id)

/-- The numbers of the nodes of all documents, each before its content. -/
def preorder (m : Manifest) : List Nat := m.preorderFrom (m.nodes.size + 1) m.roots

end Manifest

end ManifestMarkers
