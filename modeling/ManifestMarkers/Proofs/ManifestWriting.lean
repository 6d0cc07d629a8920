import Mathlib.Data.List.Forall2
import ManifestMarkers.Proofs.ManifestBlock
import ManifestMarkers.Proofs.ManifestCanonical

/-!
# Canonical manifests written back

A store holds a layout if its nodes have the texts, comments and indentations of the layout, each
collection before its content.

* `Holds` relates the members of a layout to the numbers of their nodes.
* `Holds.congr`: nodes behind those of the layout, or before all of them, do not matter.
* `membersText_of_holds`: what a store holds is written as the rows of the layout.
* `text_of_holds`: a manifest that holds the documents of a stream is written as the stream.
-/

namespace ManifestMarkers.Manifest.Canonical

/-! ### Nodes -/

/-- Comment lines as a node keeps them. -/
def headText (head : List Comment) : String :=
  String.ofList (Text.joinWith ['\n'] (head.map Comment.text))

/-- The comments of a node, which has no properties. -/
structure Carries (n : Node) (head : List Comment) (trail : Option Comment) : Prop where
  tag : n.tag = none
  anchor : n.anchor = none
  headComment : n.headComment = headText head
  lineComment : n.lineComment = String.ofList (trailComment trail)
  footComment : n.footComment = ""

/-- A scalar with its text and comments. -/
structure IsScalarOf (n : Node) (head : List Comment) (text : List Char) (trail : Option Comment) :
    Prop extends Carries n head trail where
  kind : n.kind = .scalar
  raw : n.raw = some (String.ofList text)

/-- The kind of the nodes of a shape. -/
def Shape.kind : Shape → NodeKind
  | .mapping => .mapping
  | .sequence => .sequence

/-- A collection at an indentation. -/
structure IsBlock (n : Node) (shape : Shape) (indent : Nat) : Prop extends Carries n [] none where
  kind : n.kind = shape.kind
  column : n.column = indent + 1

/-- The node with a number, which is not below `lo`. -/
structure Found (nodes : Array Node) (lo id : Nat) (n : Node) : Prop where
  le : lo ≤ id
  get : nodes[id]? = some n

/-- The nodes `ids` and the nodes below them are the members of a layout. No number is below `lo`,
and what is below a collection has greater numbers than the collection. -/
inductive Holds (nodes : Array Node) : {shape : Shape} → {any : Bool} → (lo indent : Nat) →
    Members shape any → List Nat → Prop
  | nil (shape : Shape) (lo indent : Nat) : Holds nodes lo indent (.nil shape) []
  | scalarPair {any : Bool} {lo indent k v : Nat} {ids : List Nat} {key value : Node}
      {head : List Comment} {name : Key} {word : Word} {trail : Option Comment}
      {more : Members .mapping any} (hkey : Found nodes lo k key)
      (iskey : IsScalarOf key head name.text none) (hvalue : Found nodes lo v value)
      (isvalue : IsScalarOf value [] word.text trail) (hmore : Holds nodes lo indent more ids) :
      Holds nodes lo indent (.scalarPair head name word trail more) (k :: v :: ids)
  | blockPair {shape : Shape} {any : Bool} {lo indent k v deeper : Nat} {ids : List Nat}
      {key value : Node} {head : List Comment} {name : Key} {trail : Option Comment}
      {block : Members shape true} {more : Members .mapping any} (hkey : Found nodes lo k key)
      (iskey : IsScalarOf key head name.text trail) (hvalue : Found nodes lo v value)
      (isvalue : IsBlock value shape (blockIndent indent deeper shape))
      (hblock : Holds nodes (v + 1) (blockIndent indent deeper shape) block value.content)
      (hmore : Holds nodes lo indent more ids) :
      Holds nodes lo indent (.blockPair head name trail deeper block more) (k :: v :: ids)
  | scalarItem {any : Bool} {lo indent v : Nat} {ids : List Nat} {value : Node}
      {head : List Comment} {word : Word} {trail : Option Comment} {more : Members .sequence any}
      (hvalue : Found nodes lo v value) (isvalue : IsScalarOf value head word.text trail)
      (hmore : Holds nodes lo indent more ids) :
      Holds nodes lo indent (.scalarItem head word trail more) (v :: ids)
  | mappingItem {any : Bool} {lo indent v blanks : Nat} {ids : List Nat} {value : Node}
      {block : Members .mapping true} {more : Members .sequence any}
      (hvalue : Found nodes lo v value)
      (isvalue : IsBlock value .mapping (itemIndent indent blanks))
      (hblock : Holds nodes (v + 1) (itemIndent indent blanks) block value.content)
      (hmore : Holds nodes lo indent more ids) :
      Holds nodes lo indent (.mappingItem blanks block more) (v :: ids)

theorem Found.congr {nodes nodes' : Array Node} {lo lo' id : Nat} {n : Node}
    (h : Found nodes lo id n) (hlo : lo' ≤ lo)
    (hsame : ∀ i, lo ≤ i → i < nodes.size → nodes'[i]? = nodes[i]?) : Found nodes' lo' id n := by
  obtain ⟨hlt, -⟩ := Array.getElem?_eq_some_iff.1 h.get
  exact ⟨Nat.le_trans hlo h.le, by rw [hsame id h.le hlt, h.get]⟩

/-- Only the nodes from `lo` on matter. -/
theorem Holds.congr {nodes nodes' : Array Node} {shape : Shape} {any : Bool} {lo indent : Nat}
    {members : Members shape any} {ids : List Nat} (h : Holds nodes lo indent members ids)
    {lo' : Nat} (hlo : lo' ≤ lo)
    (hsame : ∀ i, lo ≤ i → i < nodes.size → nodes'[i]? = nodes[i]?) :
    Holds nodes' lo' indent members ids := by
  induction h generalizing lo' with
  | nil shape lo indent => exact .nil shape lo' indent
  | scalarPair hkey iskey hvalue isvalue _ ih =>
    exact .scalarPair (hkey.congr hlo hsame) iskey (hvalue.congr hlo hsame) isvalue (ih hlo hsame)
  | blockPair hkey iskey hvalue isvalue _ _ ihblock ihmore =>
    have hle := hvalue.le
    exact .blockPair (hkey.congr hlo hsame) iskey (hvalue.congr hlo hsame) isvalue
      (ihblock (Nat.le_refl _) fun i hi => hsame i (by omega)) (ihmore hlo hsame)
  | scalarItem hvalue isvalue _ ih =>
    exact .scalarItem (hvalue.congr hlo hsame) isvalue (ih hlo hsame)
  | mappingItem hvalue isvalue _ _ ihblock ihmore =>
    have hle := hvalue.le
    exact .mappingItem (hvalue.congr hlo hsame) isvalue
      (ihblock (Nat.le_refl _) fun i hi => hsame i (by omega)) (ihmore hlo hsame)

/-! ### Comments -/

/-- Comment lines are written as they stood, at any indentation. -/
theorem commentLines_headText (head : List Comment) (indent : Nat) :
    commentLines (headText head) indent = rowsText (commentRows indent head) := by
  cases head with
  | nil => rfl
  | cons comment head =>
    have hline : ∀ part ∈ (comment :: head).map Comment.text, '\n' ∉ part := by
      intro part hpart
      obtain ⟨c, -, rfl⟩ := List.mem_map.1 hpart
      exact c.isLine
    have hlines := Text.lines_joinWith (by simp) hline
    have hne : (headText (comment :: head)).isEmpty = false := by
      obtain ⟨cs, hcs⟩ := comment.exists_eq_cons
      cases head with
      | nil => simp [headText, Text.joinWith, hcs]
      | cons next head => simp [headText, Text.joinWith, hcs]
    rw [commentLines, if_neg (by simp [hne]), headText, String.toList_ofList, hlines]
    simp only [rowsText, commentRows, Row.chars, List.flatMap_map]

theorem trailing_trailComment (trail : Option Comment) :
    trailing [String.ofList (trailComment trail)] = trailText trail := by
  rw [trailing_ofList]
  cases trail with
  | none => rfl
  | some comment => simp [trailComment, trailText, comment.ne_nil]

/-! ### Nodes as texts -/

section

variable {m : Manifest} {n key : Node} {head : List Comment} {text : List Char}
  {trail trail' : Option Comment}

theorem Carries.properties_eq (h : Carries n head trail) (tags : Bool) :
    n.properties tags = [] := by
  cases tags <;> simp [Node.properties, h.tag, h.anchor, Text.joinWith]

theorem IsScalarOf.scalarText_eq (h : IsScalarOf n head text trail) (tags : Bool) :
    n.scalarText tags = text := by
  simp [Node.scalarText, h.raw, h.properties_eq]

theorem IsScalarOf.isScalar_eq (h : IsScalarOf n head text trail) : n.isScalar = true := by
  simp [Node.isScalar, h.kind]

theorem IsBlock.isScalar_eq {shape : Shape} {indent : Nat} (h : IsBlock n shape indent) :
    n.isScalar = false := by
  cases shape <;> simp [Node.isScalar, h.kind, Shape.kind]

theorem IsBlock.indent_eq {shape : Shape} {indent : Nat} (h : IsBlock n shape indent) :
    n.indent = indent := by
  simp [Node.indent, h.column]

theorem Carries.commentLines_head (h : Carries n head trail) (indent : Nat) :
    commentLines n.headComment indent = rowsText (commentRows indent head) := by
  rw [h.headComment, commentLines_headText]

theorem Carries.commentLines_foot (h : Carries n head trail) (indent : Nat) :
    commentLines n.footComment indent = [] := by
  rw [h.footComment]
  rfl

/-- Of a key and its value, one may have a trailing comment. -/
theorem trailing_pair (hkey : Carries key head trail) {head' : List Comment}
    (hvalue : Carries n head' trail') :
    trailing [key.lineComment, n.lineComment] = trailText trail ++ trailText trail' := by
  rw [← trailing_trailComment trail, ← trailing_trailComment trail', hkey.lineComment,
    hvalue.lineComment]
  simp [trailing]

end

/-! ### Rows as texts -/

theorem rowsText_append (rows rows' : List Row) :
    rowsText (rows ++ rows') = rowsText rows ++ rowsText rows' := by
  simp [rowsText]

theorem rowsText_cons (row : Row) (rows : List Row) :
    rowsText (row :: rows) = spaces row.indent ++ (row.text ++ '\n' :: rowsText rows) := by
  simp [rowsText, Row.chars]

/-- The text of members that are not empty. -/
theorem rowsText_rows {shape : Shape} (members : Members shape true) (indent : Nat) :
    rowsText (members.rows indent) = rowsText (commentRows indent members.head) ++
      (spaces indent ++ (members.first ++ '\n' :: rowsText (members.rest indent))) := by
  rw [Members.rows, rowsOf, if_pos rfl, rowsText_append, rowsText_cons]

/-! ### Collections -/

/-- The text of the members of a collection. -/
def membersText (m : Manifest) (fuel : Nat) (shape : Shape) (indent : Nat) (ids : List Nat) :
    List Char :=
  match shape with
  | .mapping => pairsText m true (collectionText m true fuel false) indent false ids
  | .sequence => itemsText m true (collectionText m true fuel) indent ids

section

variable {m : Manifest} {fuel lo indent id : Nat} {n : Node} {ids : List Nat}

theorem collectionText_block {shape : Shape} (hn : m.nodes[id]? = some n)
    (h : IsBlock n shape indent) :
    collectionText m true (fuel + 1) false id = membersText m fuel shape indent n.content := by
  cases shape <;>
    simp [collectionText, node?, hn, h.kind, Shape.kind, h.indent_eq, membersText]

theorem collectionText_inline (tags : Bool) (hn : m.nodes[id]? = some n)
    (h : IsBlock n .mapping indent) :
    collectionText m tags (fuel + 1) true id =
      pairsText m tags (collectionText m tags fuel false) indent true n.content := by
  simp [collectionText, node?, hn, h.kind, Shape.kind, h.indent_eq]

/-- The first key of a mapping has the comments above its first line. -/
theorem Holds.exists_key {members : Members .mapping true}
    (h : Holds m.nodes lo indent members ids) :
    ∃ k v key trail more, ids = k :: v :: more ∧ m.nodes[k]? = some key ∧
      Carries key members.head trail := by
  cases h with
  | scalarPair hkey iskey => exact ⟨_, _, _, _, _, rfl, hkey.get, iskey.toCarries⟩
  | blockPair hkey iskey => exact ⟨_, _, _, _, _, rfl, hkey.get, iskey.toCarries⟩

/-- A mapping behind a dash starts with its first line, without comments and indentation. -/
theorem pairsText_inline {members : Members .mapping true}
    (h : Holds m.nodes lo indent members ids)
    (htext : membersText m fuel .mapping indent ids = rowsText (members.rows indent)) :
    pairsText m true (collectionText m true fuel false) indent true ids =
      members.first ++ '\n' :: rowsText (members.rest indent) := by
  obtain ⟨k, v, key, trail, more, rfl, hkey, hcarries⟩ := h.exists_key
  rw [rowsText_rows] at htext
  simp only [membersText, pairsText, node?, hkey, Bool.false_eq_true, if_false,
    hcarries.commentLines_head, List.append_assoc] at htext
  -- both texts have the comments and the indentation in front
  have hinline := List.append_cancel_left (List.append_cancel_left htext)
  rw [← hinline]
  simp [pairsText, node?, hkey]

/-! ### One member -/

section

variable {nested : Nat → List Char} {k v : Nat} {key : Node} {head : List Comment}
  {text : List Char} {trail : Option Comment}

theorem pairsText_cons (tags : Bool) (hkey : m.nodes[k]? = some key)
    (iskey : IsScalarOf key head text trail) :
    pairsText m tags nested indent false (k :: v :: ids) =
      rowsText (commentRows indent head) ++
        (spaces indent ++ (text ++ ':' :: valueText m tags nested key v)) ++
        pairsText m tags nested indent false ids := by
  rw [pairsText]
  simp [node?, hkey, iskey.commentLines_head, iskey.commentLines_foot, iskey.scalarText_eq]

theorem valueText_scalar {word : Word} (iskey : IsScalarOf key head text none)
    (hvalue : m.nodes[v]? = some n) (isvalue : IsScalarOf n [] word.text trail) :
    valueText m true nested key v = ' ' :: (word.text ++ trailText trail) ++ ['\n'] := by
  obtain ⟨c, cs, hcs, -, -⟩ := exists_of_isWord word.isWord
  have hspaced : spaced word.text = ' ' :: word.text := by simp [spaced, hcs]
  rw [valueText, node?, hvalue]
  simp [isvalue.isScalar_eq, isvalue.scalarText_eq, hspaced,
    trailing_pair iskey.toCarries isvalue.toCarries, trailText]

theorem valueText_collection (tags : Bool) {shape : Shape} (iskey : IsScalarOf key head text trail)
    (hvalue : m.nodes[v]? = some n) (isvalue : IsBlock n shape indent) :
    valueText m tags nested key v = trailText trail ++ '\n' :: nested v := by
  rw [valueText, node?, hvalue]
  simp [isvalue.isScalar_eq, isvalue.properties_eq, isvalue.commentLines_head, spaced,
    trailing_pair iskey.toCarries isvalue.toCarries, trailText, commentRows, rowsText]

end

section

variable {nested : Bool → Nat → List Char} {v : Nat} {head : List Comment}
  {trail : Option Comment}

theorem itemsText_cons (tags : Bool) (hn : m.nodes[v]? = some n) (h : Carries n head trail) :
    itemsText m tags nested indent (v :: ids) =
      rowsText (commentRows indent head) ++ itemText m tags nested indent v n ++
        itemsText m tags nested indent ids := by
  simp [itemsText, node?, hn, h.commentLines_head, h.commentLines_foot]

theorem itemText_scalar {word : Word} (h : IsScalarOf n head word.text trail) :
    itemText m true nested indent v n =
      spaces indent ++ ('-' :: ' ' :: (word.text ++ trailText trail) ++ ['\n']) := by
  obtain ⟨c, cs, hcs, -, -⟩ := exists_of_isWord word.isWord
  have hspaced : spaced word.text = ' ' :: word.text := by simp [spaced, hcs]
  have htrail : trailing [n.lineComment] = trailText trail := by
    rw [h.lineComment, trailing_trailComment]
  simp [itemText, h.isScalar_eq, Manifest.scalarItem, h.scalarText_eq, hspaced, htrail]

/-- A mapping as an item: the comments of its first key stand above the dash. -/
theorem itemText_mapping {blanks : Nat} {members : Members .mapping true}
    (h : IsBlock n .mapping (itemIndent indent blanks))
    (hblock : Holds m.nodes lo (itemIndent indent blanks) members n.content) :
    itemText m true nested indent v n = rowsText (commentRows indent members.head) ++
      (spaces indent ++ ('-' :: ' ' :: (spaces blanks ++ nested true v))) := by
  obtain ⟨k, w, key, trail, more, hcontent, hkey, hcarries⟩ := hblock.exists_key
  have hcompact : isCompact n = true := by
    simp [isCompact, h.kind, Shape.kind, h.lineComment, trailComment, h.anchor, h.tag]
  have hblanks : max (n.indent - (indent + 1)) 1 = blanks + 1 := by
    rw [h.indent_eq, itemIndent]
    omega
  rw [itemText, if_neg (by simp [h.isScalar_eq]), if_pos hcompact, hblanks, hcontent]
  simp [node?, hkey, hcarries.commentLines_head, spaces, List.replicate_succ]

end

/-! ### All members -/

/-- What a store holds is written as the rows of the layout. -/
theorem membersText_of_holds {shape : Shape} {any : Bool} {members : Members shape any}
    (h : Holds m.nodes lo indent members ids) (fuel : Nat) (hfuel : m.nodes.size ≤ lo + fuel) :
    membersText m fuel shape indent ids = rowsText (members.rows indent) := by
  -- the numbers of the nodes grow downwards, so a level of fuel is left for every collection
  induction h generalizing fuel with
  | nil shape lo indent => cases shape <;> rfl
  | @scalarPair any lo indent k v ids key value head name word trail more hkey iskey hvalue isvalue
      hmore ih =>
    have ih := ih fuel hfuel
    rw [rowsText_rows]
    change pairsText _ _ _ _ _ _ = rowsText (commentRows indent head) ++ (spaces indent ++
      (name.text ++ ':' :: ' ' :: (word.text ++ trailText trail) ++
        '\n' :: rowsText (more.rows indent)))
    rw [pairsText_cons true hkey.get iskey, valueText_scalar iskey hvalue.get isvalue, ← ih]
    simp [membersText]
  | @blockPair shape any lo indent k v deeper ids key value head name trail block more hkey iskey
      hvalue isvalue hblock hmore ihblock ihmore =>
    have hle := hvalue.le
    obtain ⟨hlt, -⟩ := Array.getElem?_eq_some_iff.1 hvalue.get
    obtain ⟨fuel, rfl⟩ : ∃ f, fuel = f + 1 := ⟨fuel - 1, by omega⟩
    have ihblock := ihblock fuel (by omega)
    have ihmore := ihmore _ hfuel
    rw [rowsText_rows]
    change pairsText _ _ _ _ _ _ = rowsText (commentRows indent head) ++ (spaces indent ++
      (name.text ++ ':' :: trailText trail ++
        '\n' :: rowsText (block.rows (blockIndent indent deeper shape) ++ more.rows indent)))
    rw [pairsText_cons true hkey.get iskey, valueText_collection true iskey hvalue.get isvalue,
      collectionText_block hvalue.get isvalue, ihblock, rowsText_append, ← ihmore]
    simp [membersText]
  | @scalarItem any lo indent v ids value head word trail more hvalue isvalue hmore ih =>
    have ih := ih fuel hfuel
    rw [rowsText_rows]
    change itemsText _ _ _ _ _ = rowsText (commentRows indent head) ++ (spaces indent ++
      ('-' :: ' ' :: (word.text ++ trailText trail) ++ '\n' :: rowsText (more.rows indent)))
    rw [itemsText_cons true hvalue.get isvalue.toCarries, itemText_scalar isvalue, ← ih]
    simp [membersText]
  | @mappingItem any lo indent v blanks ids value block more hvalue isvalue hblock hmore ihblock
      ihmore =>
    have hle := hvalue.le
    obtain ⟨hlt, -⟩ := Array.getElem?_eq_some_iff.1 hvalue.get
    obtain ⟨fuel, rfl⟩ : ∃ f, fuel = f + 1 := ⟨fuel - 1, by omega⟩
    have ihblock := ihblock fuel (by omega)
    have ihmore := ihmore _ hfuel
    rw [rowsText_rows]
    change itemsText _ _ _ _ _ = rowsText (commentRows indent block.head) ++ (spaces indent ++
      ('-' :: ' ' :: (spaces blanks ++ block.first) ++
        '\n' :: rowsText (block.rest (itemIndent indent blanks) ++ more.rows indent)))
    rw [itemsText_cons true hvalue.get isvalue.toCarries, itemText_mapping isvalue hblock,
      collectionText_inline true hvalue.get isvalue, pairsText_inline hblock ihblock, rowsText_append,
      ← ihmore]
    simp [membersText, commentRows, rowsText]

end

/-! ### Documents -/

/-- The node `id` is a collection with the members of a layout. -/
def HoldsBlock (nodes : Array Node) (lo id : Nat) {shape : Shape} (indent : Nat)
    (members : Members shape true) : Prop :=
  ∃ n, Found nodes lo id n ∧ IsBlock n shape indent ∧
    Holds nodes (id + 1) indent members n.content

/-- The root of a document, all of whose comments are attached to nodes. -/
structure HoldsDocument (nodes : Array Node) (lo : Nat) (root : Root) (d : Document) : Prop where
  node : ∃ id, root.node = some id ∧ HoldsBlock nodes lo id d.indent d.block
  comment : root.comment = ""

theorem HoldsBlock.congr {nodes nodes' : Array Node} {lo lo' id indent : Nat} {shape : Shape}
    {members : Members shape true} (h : HoldsBlock nodes lo id indent members) (hlo : lo' ≤ lo)
    (hsame : ∀ i, lo ≤ i → i < nodes.size → nodes'[i]? = nodes[i]?) :
    HoldsBlock nodes' lo' id indent members := by
  obtain ⟨n, hn, isblock, hmembers⟩ := h
  have hle := hn.le
  exact ⟨n, hn.congr hlo hsame, isblock,
    hmembers.congr (Nat.le_refl _) fun i hi => hsame i (by omega)⟩

theorem HoldsDocument.congr {nodes nodes' : Array Node} {lo lo' : Nat} {root : Root} {d : Document}
    (h : HoldsDocument nodes lo root d) (hlo : lo' ≤ lo)
    (hsame : ∀ i, lo ≤ i → i < nodes.size → nodes'[i]? = nodes[i]?) :
    HoldsDocument nodes' lo' root d := by
  obtain ⟨⟨id, hid, hblock⟩, hcomment⟩ := h
  exact ⟨⟨id, hid, hblock.congr hlo hsame⟩, hcomment⟩

section

variable {m : Manifest} {lo : Nat}

theorem documentText_of_holds {root : Root} {d : Document} (h : HoldsDocument m.nodes lo root d) :
    documentText m true root = d.text := by
  obtain ⟨⟨id, hid, n, hn, isblock, hmembers⟩, hcomment⟩ := h
  have htext := membersText_of_holds hmembers m.nodes.size (by omega)
  simp only [documentText, hid, hcomment, node?, hn.get, isblock.isScalar_eq, Bool.false_eq_true,
    if_false, collectionText_block hn.get isblock, htext, Document.text]
  simp [commentLines]

theorem documentsText_of_holds {roots : List Root} {ds : List Document}
    (h : List.Forall₂ (HoldsDocument m.nodes lo) roots ds) :
    documentsText m false roots = ds.flatMap fun d => "---\n".toList ++ d.text := by
  induction h with
  | nil => rfl
  | cons hroot _ ih => simp [documentsText, documentText_of_holds hroot, ih]

/-- A manifest that holds the documents of a stream is written as the stream. -/
theorem text_of_holds {root : Root} {roots : List Root} {d : Document} {ds : List Document}
    (hdocuments : m.documents = root :: roots) (hroot : HoldsDocument m.nodes lo root d)
    (hroots : List.Forall₂ (HoldsDocument m.nodes lo) roots ds) :
    m.text = String.ofList (streamText root.isExplicit d ds) := by
  rw [text, hdocuments, documentsText, documentText_of_holds hroot, documentsText_of_holds hroots,
    streamText]
  cases root.isExplicit <;> rfl

end

end ManifestMarkers.Manifest.Canonical
