import ManifestMarkers.Proofs.CheckedReading
import ManifestMarkers.Proofs.WrittenComments

/-!
# Whole manifests with checked access

From the lines of a text to the text that is written back, with every access checked.

* `Checked.parse` reads a manifest. Its lines come from the text (`Checked.numberLines_eq`), so that
  an indicator can be cut off the lines that start a document.
* `Checked.text` writes one. In a manifest that was read the content of a node is there and has
  greater numbers (`Checked.isRising_of_parse`), so that the writer finds the nodes it looks up, and
  ends.
* `Checked.parse_stays_inside`: neither ever looks at what is not there. Reading ends with the
  manifest or the fault of `Manifest.parse`, and writing the manifest with its text.
-/

namespace ManifestMarkers.Checked

open Text Manifest

/-! ### Documents -/

/-- Read one document from its lines. -/
def readDocument (nodes : Array Node) (lines : List Line) : Checked (Root × Array Node) :=
  match ({ nodes, lines } : Buffer).nextContent with
  | (none, c) => return ({ comment := joinPending c.pending }, c.nodes)
  | (some index, c) => do
    let line ← c.lineAt index
    let (id, c) ← readNode (4 * linesWeight c.build.lines + 4) line.indent c
    match c.nextContent with
    | (none, c) => return ({ node := some id, comment := joinPending c.pending }, c.nodes)
    | (some index, c) => do
      let line ← c.lineAt index
      .fault (.layout line.number .unexpectedContent)

/-- Number the lines of a text. -/
def numberLines (number : Nat) : List (List Char) → Checked (List Line)
  | [] => return []
  | cs :: rest => do
    let line ← lineOf number cs
    return line :: (← numberLines (number + 1) rest)

/-- The comment behind an indicator, if there is nothing else behind it. -/
def startComment? (line : Line) (rest : List Char) : Option (List Line) :=
  match rest with
  | [] => some []
  | '#' :: _ => some [{ line with kind := .comment, text := rest }]
  | _ => none

/-- The lines of the documents, with whether each starts with an indicator. -/
def chunkLines : List Line → Checked (List Line × List (Bool × List Line))
  | [] => return ([], [])
  | line :: lines => match line.kind with
    | .documentStart => do
      let rest ← sliceFrom line.text 3
      match startComment? line (trim rest) with
      | none => .fault (.layout line.number .contentAfterStart)
      | some first => do
        let (chunk, chunks) ← chunkLines lines
        return ([], (true, first ++ chunk) :: chunks)
    | .documentEnd => chunkLines lines
    | _ => do
      let (chunk, chunks) ← chunkLines lines
      return (line :: chunk, chunks)

/-- The documents of a text, as lines. -/
def documentLines (cs : List Char) : Checked (List (Bool × List Line)) := do
  let (first, more) ← chunkLines (← numberLines 1 (Text.lines cs))
  let chunks := (false, first) :: more
  if 1 < chunks.length then
    let (_, lines) ← ofOption chunks[0]?
    if lines.all (·.kind == .blank) then return chunks.drop 1
  return chunks

/-- Read documents into the store. -/
def readDocuments (nodes : Array Node) :
    List (Bool × List Line) → Checked (List Root × Array Node)
  | [] => return ([], nodes)
  | (isExplicit, lines) :: rest => do
    let (root, nodes) ← readDocument nodes lines
    let (roots, nodes) ← readDocuments nodes rest
    return ({ root with isExplicit } :: roots, nodes)

/-- Read the layout of a text, whether or not it can be decoded. -/
def ofLayout (cs : List Char) : Checked Manifest := do
  let (documents, nodes) ← readDocuments #[] (← documentLines cs)
  return { nodes, documents }

/-- Read a manifest. -/
def parse (text : String) : Checked Manifest :=
  match Yaml.decodeAll? text.toList with
  | none => .fault .undecodable
  | some _ => ofLayout text.toList

/-- The checked computation `x` ends as `y` does. -/
def Agrees {α : Type} (x : Checked α) (y : Except Fault α) : Prop := Mirrors (fun _ => True) id x y

theorem agrees_ok {α : Type} (value : α) : Agrees (.ok value) (.ok value) :=
  .inr ⟨value, trivial, rfl, rfl⟩

theorem agrees_fault {α : Type} {e : Fault} (h : IsYaml e) :
    Agrees (.fault e : Checked α) (.error e) := .inl ⟨e, h, rfl, rfl⟩

theorem agrees_readDocument (nodes : Array Node) (lines : List Line) :
    Agrees (readDocument nodes lines) (Manifest.readDocument nodes lines) := by
  obtain ⟨c, hbuild, hnext⟩ := Buffer.exists_nextContent ({ nodes, lines } : Buffer)
  replace hbuild : c.build = ({ nodes, lines } : Build).toContent := hbuild
  rw [readDocument, Manifest.readDocument, ← hbuild]
  dsimp only
  rcases hnext with ⟨hnext, hnil⟩ | ⟨line, more, hnext, hlines⟩
  · rw [hnext, hnil]
    exact agrees_ok _
  · have hat : c.build.IsAt line.indent fun _ => True := by
      rw [hbuild]
      exact Build.isAt_toContent (hbuild ▸ hlines)
    have hread := (mirrored (4 * linesWeight c.build.lines + 4)).node line.indent c hat (by omega)
    rw [hnext]
    dsimp only
    rw [Buffer.lineAt, Buffer.lineAt_cursor hlines, ofOption_some, ok_bind]
    rw [hlines] at hread ⊢
    dsimp only
    rcases hread with ⟨e, he, hx, hy⟩ | ⟨⟨id, d⟩, -, hx, hy⟩
    · rw [hx, hy]
      exact agrees_fault he
    · obtain ⟨d', hbuild', hnext'⟩ := Buffer.exists_nextContent d
      rw [hx, hy, ok_bind]
      dsimp only
      rw [← hbuild']
      rcases hnext' with ⟨hnext', hnil⟩ | ⟨last, rest, hnext', hlines'⟩
      · rw [hnext', hnil]
        exact agrees_ok _
      · rw [hnext', hlines']
        dsimp only
        rw [Buffer.lineAt, Buffer.lineAt_cursor hlines', ofOption_some, ok_bind]
        exact agrees_fault rfl

theorem agrees_readDocuments (nodes : Array Node) (chunks : List (Bool × List Line)) :
    Agrees (readDocuments nodes chunks) (Manifest.readDocuments nodes chunks) := by
  induction chunks generalizing nodes with
  | nil => exact agrees_ok _
  | cons chunk chunks ih =>
    obtain ⟨isExplicit, lines⟩ := chunk
    rw [readDocuments, Manifest.readDocuments]
    rcases agrees_readDocument nodes lines with ⟨e, he, hx, hy⟩ | ⟨⟨root, nodes'⟩, -, hx, hy⟩
    · rw [hx, hy]
      exact agrees_fault he
    · rw [hx, hy, ok_bind]
      dsimp only [id]
      rcases ih nodes' with ⟨e, he, hx, hy⟩ | ⟨⟨roots, nodes''⟩, -, hx, hy⟩
      · rw [hx, hy]
        exact agrees_fault he
      · rw [hx, hy]
        exact agrees_ok _

@[simp]
theorem numberLines_eq (number : Nat) (parts : List (List Char)) :
    numberLines number parts = .ok (Manifest.numberLines number parts) := by
  induction parts generalizing number with
  | nil => rfl
  | cons cs parts ih =>
    rw [numberLines, lineOf_eq, ok_bind, ih, ok_bind, Manifest.numberLines, pure_eq]

/-- A line that starts a document starts with the three bytes of the indicator. -/
def StartsWithIndicator (l : Line) : Prop :=
  l.kind = .documentStart → ['-', '-', '-'] <+: l.text

theorem startsWithIndicator_of (number : Nat) (cs : List Char) :
    StartsWithIndicator (Line.of number cs) := by
  intro hkind
  simp only [Line.of] at hkind ⊢
  generalize trimEnd _ = text at *
  unfold lineKind at hkind
  split at hkind
  · cases hkind
  · cases hkind
  · split at hkind
    · next h =>
      rcases h.2 with rfl | hprefix
      · exact List.prefix_refl _
      · have hdashes : ['-', '-', '-'] <+: ['-', '-', '-', ' '] := List.prefix_append _ [' ']
        exact hdashes.trans (List.isPrefixOf_iff_prefix.1 hprefix)
    · split at hkind <;> cases hkind

theorem startsWithIndicator_numberLines (number : Nat) (parts : List (List Char)) :
    ∀ l ∈ Manifest.numberLines number parts, StartsWithIndicator l := by
  induction parts generalizing number with
  | nil => nofun
  | cons cs parts ih =>
    intro l hl
    rcases List.mem_cons.1 hl with rfl | hl
    · exact startsWithIndicator_of number cs
    · exact ih (number + 1) l hl

/-- Behind an indicator with nothing or a comment behind it a document starts. -/
theorem chunkLines_start {line : Line} (hkind : line.kind = .documentStart) (lines : List Line) :
    Manifest.chunkLines (line :: lines) =
      (startComment? line (trim (line.text.drop 3))).elim
        (.error (.layout line.number .contentAfterStart)) fun first =>
          (Manifest.chunkLines lines).bind fun read =>
            .ok ([], (true, first ++ read.1) :: read.2) := by
  conv_lhs => unfold Manifest.chunkLines
  dsimp only
  rw [hkind]
  dsimp only
  generalize trim (line.text.drop 3) = rest
  cases rest with
  | nil => cases Manifest.chunkLines lines <;> rfl
  | cons c rest =>
    by_cases hc : c = '#'
    · subst hc
      cases Manifest.chunkLines lines <;> rfl
    · simp [startComment?, hc, layoutFault]

theorem agrees_chunkLines {lines : List Line} (h : ∀ l ∈ lines, StartsWithIndicator l) :
    Agrees (chunkLines lines) (Manifest.chunkLines lines) := by
  induction lines with
  | nil => exact agrees_ok _
  | cons line lines ih =>
    have hlines := ih fun l hl => h l (List.mem_cons_of_mem _ hl)
    rw [chunkLines]
    cases hkind : line.kind with
    | documentStart =>
      obtain ⟨behind, hbehind⟩ := h line (by simp) hkind
      have hcut : sliceFrom line.text 3 = .ok (line.text.drop 3) := by
        rw [← hbehind]
        exact sliceFrom_append ['-', '-', '-'] behind
      dsimp only
      rw [hcut, ok_bind, chunkLines_start hkind]
      cases startComment? line (trim (line.text.drop 3)) with
      | none => exact agrees_fault rfl
      | some first => exact hlines.bind fun read _ _ => agrees_ok _
    | documentEnd =>
      rw [Manifest.chunkLines, hkind]
      exact hlines
    | blank | comment | content =>
      rw [Manifest.chunkLines, hkind]
      dsimp only
      rcases hlines with ⟨e, he, hx, hy⟩ | ⟨⟨chunk, chunks⟩, -, hx, hy⟩
      · rw [hx, hy]
        exact agrees_fault he
      · rw [hx, hy]
        exact agrees_ok _

theorem agrees_documentLines (cs : List Char) :
    Agrees (documentLines cs) (Manifest.documentLines cs) := by
  rw [documentLines, Manifest.documentLines, numberLines_eq, ok_bind]
  rcases agrees_chunkLines (startsWithIndicator_numberLines 1 (Text.lines cs)) with
    ⟨e, he, hx, hy⟩ | ⟨⟨first, chunks⟩, -, hx, hy⟩
  · rw [hx, hy]
    exact agrees_fault he
  · rw [hx, hy, ok_bind]
    cases chunks with
    | nil => exact agrees_ok _
    | cons chunk chunks =>
      have hlength : 1 < ((false, first) :: chunk :: chunks).length := by simp
      dsimp only
      rw [if_pos hlength, List.getElem?_cons_zero, ofOption_some, ok_bind]
      dsimp only [id]
      split
      · exact agrees_ok _
      · exact agrees_ok _

theorem agrees_ofLayout (cs : List Char) : Agrees (ofLayout cs) (Manifest.ofLayout cs) := by
  rw [ofLayout, Manifest.ofLayout]
  rcases agrees_documentLines cs with ⟨e, he, hx, hy⟩ | ⟨chunks, -, hx, hy⟩
  · rw [hx, hy]
    exact agrees_fault he
  · rw [hx, hy, ok_bind]
    dsimp only [id]
    rcases agrees_readDocuments #[] chunks with ⟨e, he, hx, hy⟩ | ⟨⟨documents, nodes⟩, -, hx, hy⟩
    · rw [hx, hy]
      exact agrees_fault he
    · rw [hx, hy]
      exact agrees_ok _

/-- Reading never looks at what is not there. -/
theorem agrees_parse (text : String) : Agrees (parse text) (Manifest.parse text) := by
  rw [parse, Manifest.parse]
  cases Yaml.decodeAll? text.toList with
  | none => exact agrees_fault rfl
  | some values => exact agrees_ofLayout text.toList

/-! ### Writing -/

section

variable (m : Manifest) (tags : Bool)

/-- The node with a number. -/
def nodeAt (id : Nat) : Checked Node := ofOption (m.node? id)

/-- The value of a key, from the colon on. `nested` writes the content of a collection. -/
def valueText (nested : Nat → Checked (List Char)) (key : Node) (id : Nat) :
    Checked (List Char) := do
  let n ← nodeAt m id
  if n.isScalar then
    return spaced (n.scalarText tags) ++ trailing [key.lineComment, n.lineComment] ++ ['\n']
  else
    let content ← nested id
    return spaced (n.properties tags) ++ trailing [key.lineComment, n.lineComment] ++
      '\n' :: (commentLines n.headComment n.indent ++ content)

/-- The pairs of a mapping. `inline` says that the first key stands after a dash. -/
def pairsText (nested : Nat → Checked (List Char)) (indent : Nat) :
    Bool → List Nat → Checked (List Char)
  | inline, k :: v :: rest => do
    let key ← nodeAt m k
    let value ← valueText m tags nested key v
    let more ← pairsText nested indent false rest
    return (if inline then [] else commentLines key.headComment indent ++ spaces indent) ++
      key.scalarText false ++ ':' :: (value ++ commentLines key.footComment indent) ++ more
  | _, _ => return []

/-- An item of a sequence without its head and foot comments. -/
def itemText (nested : Bool → Nat → Checked (List Char)) (indent id : Nat) (n : Node) :
    Checked (List Char) := do
  if n.isScalar then return scalarItem n indent tags
  else if isCompact n then
    let above ← match n.content.head? with
      | none => pure []
      | some first => do
        let key ← nodeAt m first
        pure (commentLines key.headComment indent)
    let content ← nested true id
    return above ++ spaces indent ++ '-' :: spaces (max (n.indent - (indent + 1)) 1) ++ content
  else
    let content ← nested false id
    return spaces indent ++ '-' :: (spaced (n.properties tags) ++ trailing [n.lineComment] ++
      '\n' :: content)

/-- The items of a sequence. -/
def itemsText (nested : Bool → Nat → Checked (List Char)) (indent : Nat) :
    List Nat → Checked (List Char)
  | [] => return []
  | id :: ids => do
    let n ← nodeAt m id
    let item ← itemText m tags nested indent id n
    let more ← itemsText nested indent ids
    return commentLines n.headComment indent ++ item ++ commentLines n.footComment indent ++ more

/-- The content of a collection. -/
def collectionText : Nat → Bool → Nat → Checked (List Char)
  | 0, _, _ => .endless
  | fuel + 1, inline, id => do
    let n ← nodeAt m id
    match n.kind with
    | .mapping => pairsText m tags (collectionText fuel false) n.indent inline n.content
    | .sequence => itemsText m tags (collectionText fuel) n.indent n.content
    | .scalar => return []

/-- The text of a document. -/
def documentText (root : Root) : Checked (List Char) := do
  let content ← match root.node with
    | none => pure []
    | some id => do
      let n ← nodeAt m id
      if n.isScalar then pure (scalarLine n n.indent tags)
      else collectionText m tags (m.nodes.size + 1) false id
  return content ++ commentLines root.comment 0

/-- The texts of documents, with indicators between them. -/
def documentsText : Bool → List Root → Checked (List Char)
  | _, [] => return []
  | isFirst, root :: roots => do
    let document ← documentText m true root
    let more ← documentsText false roots
    return (if isFirst && !root.isExplicit then [] else "---\n".toList) ++ document ++ more

/-- The text of a manifest. -/
def text : Checked String := do return String.ofList (← documentsText m true m.documents)

end

section

variable {m : Manifest} {tags : Bool} {indent : Nat}

theorem nodeAt_of_some {id : Nat} {n : Node} (h : m.node? id = some n) : nodeAt m id = .ok n := by
  rw [nodeAt, h]
  rfl

theorem valueText_eq {nested : Nat → Checked (List Char)} {nested' : Nat → List Char} (key : Node)
    {id : Nat} {n : Node} (hn : m.node? id = some n) (hnested : nested id = .ok (nested' id)) :
    valueText m tags nested key id = .ok (Manifest.valueText m tags nested' key id) := by
  rw [valueText, Manifest.valueText, nodeAt_of_some hn, ok_bind, hn, hnested]
  dsimp only
  split <;> rfl

theorem pairsText_eq {nested : Nat → Checked (List Char)} {nested' : Nat → List Char}
    (inline : Bool) {ids : List Nat} (hids : ∀ id ∈ ids, (m.node? id).isSome = true)
    (hnested : ∀ id ∈ ids, nested id = .ok (nested' id)) :
    pairsText m tags nested indent inline ids =
      .ok (Manifest.pairsText m tags nested' indent inline ids) := by
  fun_induction pairsText m tags nested indent inline ids with
  | case1 inline k v rest ih =>
    obtain ⟨key, hkey⟩ := Option.isSome_iff_exists.1 (hids k (by simp))
    obtain ⟨value, hvalue⟩ := Option.isSome_iff_exists.1 (hids v (by simp))
    have hmore := ih (fun id h => hids id (by simp [h])) (fun id h => hnested id (by simp [h]))
    rw [nodeAt_of_some hkey, ok_bind, valueText_eq key hvalue (hnested v (by simp)), ok_bind, hmore,
      ok_bind, Manifest.pairsText, hkey]
    rfl
  | case2 inline ids hshort =>
    rw [Manifest.pairsText]
    · rfl
    · exact hshort

theorem itemText_eq {nested : Bool → Nat → Checked (List Char)} {nested' : Bool → Nat → List Char}
    {id : Nat} {n : Node} (hfirst : ∀ first ∈ n.content.head?, (m.node? first).isSome = true)
    (hnested : ∀ inline, nested inline id = .ok (nested' inline id)) :
    itemText m tags nested indent id n = .ok (Manifest.itemText m tags nested' indent id n) := by
  unfold itemText Manifest.itemText
  split
  · rfl
  · split
    · cases hhead : n.content.head? with
      | none =>
        rw [hnested]
        rfl
      | some first =>
        obtain ⟨key, hkey⟩ := Option.isSome_iff_exists.1 (hfirst first hhead)
        dsimp only
        rw [nodeAt_of_some hkey, hnested, Option.bind_some, hkey]
        rfl
    · rw [hnested]
      rfl

theorem itemsText_eq {nested : Bool → Nat → Checked (List Char)}
    {nested' : Bool → Nat → List Char} {ids : List Nat}
    (hids : ∀ id ∈ ids, ∃ n, m.node? id = some n ∧
      ∀ first ∈ n.content.head?, (m.node? first).isSome = true)
    (hnested : ∀ inline, ∀ id ∈ ids, nested inline id = .ok (nested' inline id)) :
    itemsText m tags nested indent ids =
      .ok (Manifest.itemsText m tags nested' indent ids) := by
  induction ids with
  | nil => rfl
  | cons id ids ih =>
    obtain ⟨n, hn, hfirst⟩ := hids id (by simp)
    have hmore := ih (fun id h => hids id (by simp [h]))
      (fun inline id h => hnested inline id (by simp [h]))
    rw [itemsText, nodeAt_of_some hn, ok_bind,
      itemText_eq hfirst (fun inline => hnested inline id (by simp)), ok_bind, hmore, ok_bind,
      Manifest.itemsText, Manifest.itemsText, List.flatMap_cons, hn]
    rfl

/-- The content of a node is there and has greater numbers. -/
def IsRising (m : Manifest) : Prop :=
  ∀ id n, m.node? id = some n → ∀ i ∈ n.content, id < i ∧ i < m.nodes.size

theorem isSome_node? {id : Nat} (h : id < m.nodes.size) : (m.node? id).isSome = true := by
  rw [Manifest.node?, Array.getElem?_eq_getElem h]
  rfl

/-- The numbers rise from a collection to its content, so that the writer ends. -/
theorem collectionText_eq (hm : IsRising m) {fuel : Nat} (inline : Bool) {id : Nat}
    (hid : id < m.nodes.size) (hfuel : m.nodes.size ≤ id + fuel) :
    collectionText m tags fuel inline id =
      .ok (Manifest.collectionText m tags fuel inline id) := by
  induction fuel generalizing inline id with
  | zero => omega
  | succ fuel ih =>
    obtain ⟨n, hn⟩ := Option.isSome_iff_exists.1 (isSome_node? hid)
    have hbelow : ∀ i ∈ n.content, id < i ∧ i < m.nodes.size := hm id n hn
    have hnested (inline : Bool) : ∀ i ∈ n.content, collectionText m tags fuel inline i =
        .ok (Manifest.collectionText m tags fuel inline i) := by
      intro i hi
      obtain ⟨hlt, hsize⟩ := hbelow i hi
      exact ih inline hsize (by omega)
    rw [collectionText, Manifest.collectionText, nodeAt_of_some hn, ok_bind, hn]
    dsimp only
    cases n.kind with
    | mapping =>
      exact pairsText_eq inline (fun i hi => isSome_node? (hbelow i hi).2) (hnested false)
    | sequence =>
      refine itemsText_eq (fun i hi => ?_) hnested
      obtain ⟨item, hitem⟩ := Option.isSome_iff_exists.1 (isSome_node? (hbelow i hi).2)
      refine ⟨item, hitem, fun first hfirst => isSome_node? ?_⟩
      exact (hm i item hitem first (List.mem_of_mem_head? hfirst)).2
    | scalar => rfl

theorem documentText_eq (hm : IsRising m) {root : Root}
    (hroot : ∀ id ∈ root.node, id < m.nodes.size) :
    documentText m tags root = .ok (Manifest.documentText m tags root) := by
  unfold documentText Manifest.documentText
  cases hnode : root.node with
  | none => rfl
  | some id =>
    have hid := hroot id hnode
    obtain ⟨n, hn⟩ := Option.isSome_iff_exists.1 (isSome_node? hid)
    dsimp only
    rw [nodeAt_of_some hn, ok_bind, hn]
    dsimp only
    split
    · rfl
    · rw [collectionText_eq hm false hid (by omega)]
      rfl

theorem documentsText_eq (hm : IsRising m) (isFirst : Bool) {roots : List Root}
    (hroots : ∀ root ∈ roots, ∀ id ∈ root.node, id < m.nodes.size) :
    documentsText m isFirst roots = .ok (Manifest.documentsText m isFirst roots) := by
  induction roots generalizing isFirst with
  | nil => rfl
  | cons root roots ih =>
    have hmore := ih false fun r hr => hroots r (List.mem_cons_of_mem _ hr)
    rw [documentsText, documentText_eq hm (hroots root (by simp)), ok_bind, hmore, ok_bind,
      Manifest.documentsText]
    rfl

end

/-! ### Reading and writing -/

theorem lt_of_mem_spans {contents : Array (List Nat)} {ids : List Nat} {lo hi : Nat}
    (h : Spans contents ids lo hi) {i : Nat} (hmem : i ∈ ids) : i < hi := by
  induction h with
  | nil => cases hmem
  | @cons ids lo mid hi hbelow hrest ih ihs =>
    rcases List.mem_cons.1 hmem with rfl | hmem
    · have hle := hbelow.le
      have hle' := hrest.le
      omega
    · exact ihs hmem

/-- The content of a node in a range is in the range. -/
theorem lt_of_mem_content {contents : Array (List Nat)} {ids : List Nat} {lo hi : Nat}
    (h : Spans contents ids lo hi) {i j : Nat} (hlo : lo ≤ j) (hlt : j < hi)
    (hmem : i ∈ contents[j]?.getD []) : i < hi := by
  induction h with
  | nil => omega
  | @cons ids lo mid hi hbelow hrest ih ihs =>
    have hle := hrest.le
    by_cases hj : j = lo
    · subst hj
      exact Nat.lt_of_lt_of_le (lt_of_mem_spans hbelow hmem) hle
    · by_cases hmid : j < mid
      · exact Nat.lt_of_lt_of_le (ih (by omega) hmid) hle
      · exact ihs (by omega) hlt

theorem isRising_of_parse {text : String} {m : Manifest} (h : Manifest.parse text = .ok m) :
    IsRising m := by
  intro id n hn i hi
  have hspans := spans_of_parse h
  have hid : id < m.nodes.size := (Array.getElem?_eq_some_iff.1 hn).1
  have hmem : i ∈ m.contents[id]?.getD [] := by
    rwa [← contentOf_eq, contentOf, hn]
  exact ⟨hspans.lt_of_mem (Nat.zero_le _) hid hmem,
    lt_of_mem_content hspans (Nat.zero_le _) hid hmem⟩

/-- Every manifest that is read can be written. -/
theorem text_of_parse {text : String} {m : Manifest} (h : Manifest.parse text = .ok m) :
    Checked.text m = .ok m.text := by
  have hroots : ∀ root ∈ m.documents, ∀ id ∈ root.node, id < m.nodes.size := by
    intro root hroot id hid
    exact lt_of_mem_spans (spans_of_parse h) (List.mem_filterMap.2 ⟨root, hroot, hid⟩)
  rw [Checked.text, documentsText_eq (isRising_of_parse h) true hroots]
  rfl

/-- Neither reading nor writing looks at a byte, a line or a node that is not there, cuts a text
inside of a character, or takes a number from a smaller one, whatever the text. Reading gives the
manifest or a fault of decoding or layout, and writing gives the text. -/
theorem parse_stays_inside (text : String) :
    (∃ e : Fault, e.code = "markers::yaml" ∧ Checked.parse text = .fault e ∧
      Manifest.parse text = .error e) ∨
    ∃ m : Manifest, Checked.parse text = .ok m ∧ Manifest.parse text = .ok m ∧
      Checked.text m = .ok m.text := by
  rcases agrees_parse text with ⟨e, he, hx, hy⟩ | ⟨m, -, hx, hy⟩
  · exact .inl ⟨e, he, hx, hy⟩
  · exact .inr ⟨m, hx, hy, text_of_parse hy⟩

end ManifestMarkers.Checked
