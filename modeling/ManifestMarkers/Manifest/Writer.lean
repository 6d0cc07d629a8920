import ManifestMarkers.Manifest.Node

/-!
# Writing a manifest back

Scalars that have not been changed are written with the text they had. Every comment is written
once, next to the node it is attached to.
-/

namespace ManifestMarkers.Manifest

/-- Spaces. -/
def spaces (n : Nat) : List Char := List.replicate n ' '

/-- Comment lines at an indentation, each with its line feed. -/
def commentLines (text : String) (indent : Nat) : List Char :=
  if text.isEmpty then []
  else (Text.lines text.toList).flatMap fun line => spaces indent ++ line ++ ['\n']

/-- Trailing comments, each after a space. -/
def trailing (comments : List String) : List Char :=
  comments.flatMap fun c => if c.isEmpty then [] else ' ' :: c.toList

/-- A text after a space, unless it is empty. -/
def spaced (cs : List Char) : List Char := if cs.isEmpty then [] else ' ' :: cs

/-- A scalar on a line of its own. -/
def scalarLine (n : Node) (indent : Nat) (tags : Bool) : List Char :=
  commentLines n.headComment indent ++ spaces indent ++ n.scalarText tags ++
    trailing [n.lineComment] ++ '\n' :: commentLines n.footComment indent

/-- A scalar as an item of a sequence. -/
def scalarItem (n : Node) (indent : Nat) (tags : Bool) : List Char :=
  spaces indent ++ '-' :: (spaced (n.scalarText tags) ++ trailing [n.lineComment] ++ ['\n'])

/-- Whether the first key of a mapping is written on the line of the dash. -/
def isCompact (n : Node) : Bool :=
  n.kind == .mapping && n.lineComment.isEmpty && n.anchor.isNone && n.tag.isNone

/-- The value of a key, from the colon on. `nested` writes the content of a collection. -/
def valueText (m : Manifest) (tags : Bool) (nested : Nat → List Char) (key : Node) (id : Nat) :
    List Char :=
  match m.node? id with
  | none => []
  | some n =>
    if n.isScalar then
      spaced (n.scalarText tags) ++ trailing [key.lineComment, n.lineComment] ++ ['\n']
    else
      spaced (n.properties tags) ++ trailing [key.lineComment, n.lineComment] ++
        '\n' :: (commentLines n.headComment n.indent ++ nested id)

/-- The pairs of a mapping. `inline` says that the first key stands after a dash. -/
def pairsText (m : Manifest) (tags : Bool) (nested : Nat → List Char) (indent : Nat)
    (inline : Bool) : List Nat → List Char
  | k :: v :: rest => (match m.node? k with
    | none => []
    | some key =>
      (if inline then [] else commentLines key.headComment indent ++ spaces indent) ++
        key.scalarText false ++ ':' :: (valueText m tags nested key v ++
          commentLines key.footComment indent)) ++ pairsText m tags nested indent false rest
  | _ => []

/-- An item of a sequence without its head and foot comments. `nested` writes the content of a
collection, with the first key of a mapping on the current line or not. -/
def itemText (m : Manifest) (tags : Bool) (nested : Bool → Nat → List Char) (indent : Nat)
    (id : Nat) (n : Node) : List Char :=
  if n.isScalar then scalarItem n indent tags
  else if isCompact n then
    (match n.content.head?.bind m.node? with
      | some key => commentLines key.headComment indent
      | none => []) ++ spaces indent ++ '-' :: spaces (max (n.indent - (indent + 1)) 1) ++
        nested true id
  else
    spaces indent ++ '-' :: (spaced (n.properties tags) ++ trailing [n.lineComment] ++
      '\n' :: nested false id)

/-- The items of a sequence. -/
def itemsText (m : Manifest) (tags : Bool) (nested : Bool → Nat → List Char) (indent : Nat)
    (ids : List Nat) : List Char :=
  ids.flatMap fun id => match m.node? id with
    | none => []
    | some n =>
      commentLines n.headComment indent ++ itemText m tags nested indent id n ++
        commentLines n.footComment indent

/-- The content of a collection. The fuel bounds the depth. -/
def collectionText (m : Manifest) (tags : Bool) : Nat → Bool → Nat → List Char
  | 0, _, _ => []
  | fuel + 1, inline, id => match m.node? id with
    | none => []
    | some n => match n.kind with
      | .mapping =>
        pairsText m tags (collectionText m tags fuel false) n.indent inline n.content
      | .sequence => itemsText m tags (collectionText m tags fuel) n.indent n.content
      | .scalar => []

/-- The text of a document. -/
def documentText (m : Manifest) (tags : Bool) (root : Root) : List Char :=
  let content := match root.node with
    | none => []
    | some id => match m.node? id with
      | none => []
      | some n =>
        if n.isScalar then scalarLine n n.indent tags
        else collectionText m tags (m.nodes.size + 1) false id
  content ++ commentLines root.comment 0

/-- The texts of documents, with indicators between them. -/
def documentsText (m : Manifest) (isFirst : Bool) : List Root → List Char
  | [] => []
  | root :: roots =>
    (if isFirst && !root.isExplicit then [] else "---\n".toList) ++ documentText m true root ++
      documentsText m false roots

/-- The text of a manifest. -/
def text (m : Manifest) : String := String.ofList (documentsText m true m.documents)

end ManifestMarkers.Manifest
