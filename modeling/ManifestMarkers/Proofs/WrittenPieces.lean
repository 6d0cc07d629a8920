import ManifestMarkers.Proofs.ManifestRuns

/-!
# Pieces of a written manifest

The writer gives characters, and a comment cannot be told from the text of a scalar in them. The
functions of this module follow the writer and give pieces, in which every comment has the place
where it is stored.

* `Piece` is a text, a comment on a line or a comment at the end of a line.
* `documentsPieces` and its companions follow the writer; `join_documentsPieces` says that the
  pieces make up what is written.
* `written` are the comments among pieces.
* `Block`: pieces that end with a line, and in which every comment line starts on a line of its own.
-/

namespace ManifestMarkers.Manifest

/-! ### Pieces -/

/-- Where a comment is stored. -/
inductive Slot
  | head (id : Nat)
  | trail (id : Nat)
  | foot (id : Nat)
  /-- With a document, by its index. -/
  | document (index : Nat)
  deriving DecidableEq, Repr

/-- One comment and where it is stored. -/
structure Entry where
  slot : Slot
  comment : List Char
  deriving DecidableEq, Repr

/-- A piece of what is written. -/
inductive Piece
  | text (cs : List Char)
  /-- A comment on a line, with the indentation. -/
  | line (slot : Slot) (indent : Nat) (comment : List Char)
  /-- The comment behind a node, at the end of a line. -/
  | trail (id : Nat) (comment : List Char)
  deriving DecidableEq, Repr

namespace Piece

/-- The characters of a piece. -/
def chars : Piece → List Char
  | text cs => cs
  | line _ indent comment => spaces indent ++ comment ++ ['\n']
  | trail _ comment => ' ' :: comment

/-- The comment in a piece. -/
def entry? : Piece → Option Entry
  | text _ => none
  | line slot _ comment => some ⟨slot, comment⟩
  | trail id comment => some ⟨.trail id, comment⟩

end Piece

/-- The characters of pieces. -/
def join (ps : List Piece) : List Char := ps.flatMap Piece.chars

/-- The comments in pieces. -/
def written (ps : List Piece) : List Entry := ps.filterMap Piece.entry?

@[simp] theorem join_nil : join [] = [] := rfl

@[simp] theorem join_cons (p : Piece) (ps : List Piece) : join (p :: ps) = p.chars ++ join ps := rfl

@[simp] theorem join_append (ps qs : List Piece) : join (ps ++ qs) = join ps ++ join qs := by
  simp [join]

@[simp] theorem written_nil : written [] = [] := rfl

@[simp] theorem written_text (cs : List Char) (ps : List Piece) :
    written (.text cs :: ps) = written ps := rfl

@[simp] theorem written_append (ps qs : List Piece) :
    written (ps ++ qs) = written ps ++ written qs := by
  simp [written]

/-! ### Comments -/

/-- A comment on lines. -/
def linePieces (slot : Slot) (text : String) (indent : Nat) : List Piece :=
  (commentParts text).map (.line slot indent ·)

/-- The comment behind a node. -/
def trailPieces (id : Nat) (n : Node) : List Piece :=
  (presentComment n.lineComment.toList).map (.trail id ·)

/-- The comments of a text that is stored somewhere, one for each line. -/
def lineEntries (slot : Slot) (text : String) : List Entry := (commentParts text).map (⟨slot, ·⟩)

/-- The comment behind a node and where it is stored. -/
def trailEntries (id : Nat) (n : Node) : List Entry :=
  (presentComment n.lineComment.toList).map (⟨.trail id, ·⟩)

@[simp] theorem join_linePieces (slot : Slot) (text : String) (indent : Nat) :
    join (linePieces slot text indent) = commentLines text indent := by
  rw [join, linePieces, commentParts, commentLines]
  split
  · rfl
  · rw [List.flatMap_map]
    rfl

@[simp] theorem join_trailPieces (id : Nat) (n : Node) :
    join (trailPieces id n) = trailing [n.lineComment] := by
  have hempty : n.lineComment.toList.isEmpty = n.lineComment.isEmpty := by
    rw [Bool.eq_iff_iff]
    simp
  rw [trailing, trailPieces, presentComment, hempty]
  split <;> simp_all [Piece.chars]

theorem trailing_cons (comment : String) (comments : List String) :
    trailing (comment :: comments) = trailing [comment] ++ trailing comments := by
  simp [trailing]

@[simp] theorem written_linePieces (slot : Slot) (text : String) (indent : Nat) :
    written (linePieces slot text indent) = lineEntries slot text := by
  simp [written, linePieces, lineEntries, List.filterMap_map, Function.comp_def, Piece.entry?]

@[simp] theorem written_trailPieces (id : Nat) (n : Node) :
    written (trailPieces id n) = trailEntries id n := by
  simp [written, trailPieces, trailEntries, List.filterMap_map, Function.comp_def, Piece.entry?]

/-! ### The writer, piece by piece -/

/-- A scalar on a line of its own. -/
def scalarLinePieces (id : Nat) (n : Node) (indent : Nat) (tags : Bool) : List Piece :=
  linePieces (.head id) n.headComment indent ++ .text (spaces indent ++ n.scalarText tags) ::
    (trailPieces id n ++ .text ['\n'] :: linePieces (.foot id) n.footComment indent)

/-- The value of a key, from the colon on. -/
def valuePieces (m : Manifest) (tags : Bool) (nested : Nat → List Piece) (k : Nat) (key : Node)
    (id : Nat) : List Piece :=
  match m.node? id with
  | none => []
  | some n =>
    if n.isScalar then
      .text (spaced (n.scalarText tags)) ::
        (trailPieces k key ++ trailPieces id n ++ [.text ['\n']])
    else
      .text (spaced (n.properties tags)) :: (trailPieces k key ++ trailPieces id n ++
        .text ['\n'] :: (linePieces (.head id) n.headComment n.indent ++ nested id))

/-- The pairs of a mapping. -/
def pairsPieces (m : Manifest) (tags : Bool) (nested : Nat → List Piece) (indent : Nat)
    (inline : Bool) : List Nat → List Piece
  | k :: v :: rest => (match m.node? k with
    | none => []
    | some key =>
      (if inline then []
        else linePieces (.head k) key.headComment indent ++ [.text (spaces indent)]) ++
        .text (key.scalarText false ++ [':']) :: (valuePieces m tags nested k key v ++
          linePieces (.foot k) key.footComment indent)) ++
        pairsPieces m tags nested indent false rest
  | _ => []

/-- The comments above the first key of a mapping, which stand above the dash of an item. -/
def firstHeadPieces (m : Manifest) (indent : Nat) (n : Node) : List Piece :=
  match n.content.head? with
  | none => []
  | some k => (m.node? k).elim [] fun key => linePieces (.head k) key.headComment indent

/-- An item of a sequence without its head and foot comments. -/
def itemPieces (m : Manifest) (tags : Bool) (nested : Bool → Nat → List Piece) (indent : Nat)
    (id : Nat) (n : Node) : List Piece :=
  if n.isScalar then
    .text (spaces indent ++ '-' :: spaced (n.scalarText tags)) ::
      (trailPieces id n ++ [.text ['\n']])
  else if isCompact n then
    firstHeadPieces m indent n ++
      .text (spaces indent ++ '-' :: spaces (max (n.indent - (indent + 1)) 1)) :: nested true id
  else
    .text (spaces indent ++ '-' :: spaced (n.properties tags)) ::
      (trailPieces id n ++ .text ['\n'] :: nested false id)

/-- The items of a sequence. -/
def itemsPieces (m : Manifest) (tags : Bool) (nested : Bool → Nat → List Piece) (indent : Nat)
    (ids : List Nat) : List Piece :=
  ids.flatMap fun id => match m.node? id with
    | none => []
    | some n =>
      linePieces (.head id) n.headComment indent ++ itemPieces m tags nested indent id n ++
        linePieces (.foot id) n.footComment indent

/-- The content of a collection. -/
def collectionPieces (m : Manifest) (tags : Bool) : Nat → Bool → Nat → List Piece
  | 0, _, _ => []
  | fuel + 1, inline, id => match m.node? id with
    | none => []
    | some n => match n.kind with
      | .mapping =>
        pairsPieces m tags (collectionPieces m tags fuel false) n.indent inline n.content
      | .sequence => itemsPieces m tags (collectionPieces m tags fuel) n.indent n.content
      | .scalar => []

/-- The node of a document. -/
def rootPieces (m : Manifest) (tags : Bool) (root : Root) : List Piece :=
  match root.node with
  | none => []
  | some id => match m.node? id with
    | none => []
    | some n =>
      if n.isScalar then scalarLinePieces id n n.indent tags
      else collectionPieces m tags (m.nodes.size + 1) false id

/-- A document. -/
def documentPieces (m : Manifest) (tags : Bool) (index : Nat) (root : Root) : List Piece :=
  rootPieces m tags root ++ linePieces (.document index) root.comment 0

/-- Documents from an index on, with indicators between them. -/
def documentsPieces (m : Manifest) (index : Nat) (isFirst : Bool) : List Root → List Piece
  | [] => []
  | root :: roots =>
    .text (if isFirst && !root.isExplicit then [] else "---\n".toList) ::
      documentPieces m true index root ++ documentsPieces m (index + 1) false roots

/-- The pieces of a manifest. -/
def pieces (m : Manifest) : List Piece := documentsPieces m 0 true m.documents

/-! ### The pieces make up the text -/

section

variable {m : Manifest} {tags : Bool}

theorem join_valuePieces {nested : Nat → List Piece} {k id : Nat} {key : Node} :
    join (valuePieces m tags nested k key id) =
      valueText m tags (fun id => join (nested id)) key id := by
  unfold valuePieces valueText
  cases m.node? id with
  | none => rfl
  | some n =>
    dsimp only
    split <;> simp [Piece.chars, trailing_cons key.lineComment [n.lineComment]]

theorem join_pairsPieces {nested : Nat → List Piece} {indent : Nat} {inline : Bool}
    {ids : List Nat} :
    join (pairsPieces m tags nested indent inline ids) =
      pairsText m tags (fun id => join (nested id)) indent inline ids := by
  fun_induction pairsPieces m tags nested indent inline ids with
  | case1 inline k v rest ih =>
    rw [join_append, ih, pairsText]
    congr 1
    cases m.node? k with
    | none => rfl
    | some key => cases inline <;> simp [Piece.chars, join_valuePieces]
  | case2 inline ids hids =>
    unfold pairsText
    split
    · exact absurd rfl (hids _ _ _)
    · rfl

theorem join_itemPieces {nested : Bool → Nat → List Piece} {indent id : Nat} {n : Node} :
    join (itemPieces m tags nested indent id n) =
      itemText m tags (fun inline id => join (nested inline id)) indent id n := by
  unfold itemPieces itemText
  split
  · simp [Piece.chars, scalarItem]
  · split
    · unfold firstHeadPieces
      cases n.content.head? with
      | none => simp [Piece.chars]
      | some k =>
        simp only [Option.bind_some]
        cases m.node? k <;> simp [Piece.chars]
    · simp [Piece.chars]

theorem join_itemsPieces {nested : Bool → Nat → List Piece} {indent : Nat} {ids : List Nat} :
    join (itemsPieces m tags nested indent ids) =
      itemsText m tags (fun inline id => join (nested inline id)) indent ids := by
  induction ids with
  | nil => rfl
  | cons id ids ih =>
    rw [itemsPieces, itemsText] at ih ⊢
    rw [List.flatMap_cons, List.flatMap_cons, join_append, ih]
    congr 1
    cases m.node? id with
    | none => rfl
    | some n => simp [join_itemPieces]

theorem join_collectionPieces (fuel : Nat) (inline : Bool) (id : Nat) :
    join (collectionPieces m tags fuel inline id) = collectionText m tags fuel inline id := by
  induction fuel generalizing inline id with
  | zero => rfl
  | succ fuel ih =>
    unfold collectionPieces collectionText
    cases m.node? id with
    | none => rfl
    | some n =>
      dsimp only
      cases n.kind with
      | mapping =>
        dsimp only
        rw [join_pairsPieces]
        congr 1
        exact funext (ih false)
      | sequence =>
        dsimp only
        rw [join_itemsPieces]
        congr 1
        exact funext fun inline => funext (ih inline)
      | scalar => rfl

theorem join_documentPieces (index : Nat) (root : Root) :
    join (documentPieces m tags index root) = documentText m tags root := by
  unfold documentPieces documentText rootPieces
  rw [join_append, join_linePieces]
  congr 1
  cases root.node with
  | none => rfl
  | some id =>
    dsimp only
    cases m.node? id with
    | none => rfl
    | some n =>
      dsimp only
      split
      · simp [scalarLinePieces, scalarLine, Piece.chars]
      · exact join_collectionPieces _ _ _

theorem join_documentsPieces (index : Nat) (isFirst : Bool) (roots : List Root) :
    join (documentsPieces m index isFirst roots) = documentsText m isFirst roots := by
  induction roots generalizing index isFirst with
  | nil => rfl
  | cons root roots ih =>
    simp [documentsPieces, documentsText, ih, join_documentPieces, Piece.chars]

end

/-- The pieces of a manifest make up its text. -/
theorem join_pieces (m : Manifest) : join m.pieces = m.text.toList := by
  rw [pieces, join_documentsPieces, text, String.toList_ofList]

end ManifestMarkers.Manifest
