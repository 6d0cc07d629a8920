import Mathlib.Algebra.GroupWithZero.Nat
import ManifestMarkers.Proofs.ManifestTree
import ManifestMarkers.Proofs.ManifestWriting

/-!
# Lines of a canonical manifest read

What the readers do at one line of a layout. Comments wait until the next content line and are never
foot comments, because they are no deeper than that line; no line continues a scalar, because the
content behind a scalar is never deeper than the scalar's own collection.

* `Stands` and `Before` say where the builder is in a layout, `Ends` what may follow a collection.
* `Adds` and `Grows` say what happens to the store.
* `readPairs_pair`, `readItems_item` and `readMembers_close` are the steps of the readers of
  collections; `exists_readNode_block` and `exists_readValue_block` lead to the collections below.
-/

namespace ManifestMarkers.Manifest.Canonical

open Build

/-! ### Collecting comments -/

/-- Comment rows wait for what is behind them. -/
theorem collect_comments {lines : List Line} {head : List Comment} {indent : Nat}
    (h : List.Forall₂ Shows lines (commentRows indent head)) (rest : List Line) :
    ∃ qs : List Pending, qs.map Pending.text = head.map Comment.text ∧
      (∀ q ∈ qs, q.indent = indent) ∧
      ∀ ps, collect ps (lines ++ rest) = collect (ps ++ qs) rest := by
  -- the comments that wait already are arbitrary, because each line adds one to them
  induction head generalizing lines with
  | nil =>
    cases h
    exact ⟨[], rfl, by simp, by simp⟩
  | cons comment head ih =>
    cases h with
    | @cons line _ lines _ hline hlines =>
      obtain ⟨qs, htext, hindent, hcollect⟩ := ih hlines
      have hkind : line.kind = .comment := by
        rw [hline.kind, Row.kind, if_pos comment.starts]
      refine ⟨⟨line.indent, line.number, line.text⟩ :: qs, ?_, ?_, ?_⟩
      · simp [htext, hline.text]
      · simpa [hline.indent] using hindent
      · intro ps
        have hnext := hcollect (ps ++ [⟨line.indent, line.number, line.text⟩])
        rw [List.append_assoc, List.singleton_append] at hnext
        rw [List.cons_append, collect, hkind]
        exact hnext

/-! ### Where the builder stands -/

section

variable {shape : Shape} {any : Bool}

/-- The builder is at the first line of members that are followed by `rest`, and the comments above
the line wait. -/
structure Stands (b : Build) (indent : Nat) (members : Members shape any) (rest : List Line) :
    Prop where
  lines : ∃ line lines, b.lines = line :: (lines ++ rest) ∧ Shows line ⟨indent, members.first⟩ ∧
    List.Forall₂ Shows lines (members.rest indent)
  pending : b.pending.map Pending.text = members.head.map Comment.text

/-- The builder is before members that are followed by `rest`, or before `rest` if there are none.
-/
structure Before (b : Build) (indent : Nat) (members : Members shape any) (rest : List Line) :
    Prop where
  stands : any = true → Stands b.toContent indent members rest
  done : any = false → collect b.pending b.lines = collect [] rest

theorem exists_of_forall₂_append {lines : List Line} {rows rows' : List Row}
    (h : List.Forall₂ Shows lines (rows ++ rows')) :
    ∃ above below, lines = above ++ below ∧ List.Forall₂ Shows above rows ∧
      List.Forall₂ Shows below rows' :=
  ⟨lines.take rows.length, lines.drop rows.length, (List.take_append_drop _ _).symm,
    List.forall₂_take_append _ _ _ h, List.forall₂_drop_append _ _ _ h⟩

/-- The lines of members that are not empty: comments, the first line and the lines below it. -/
theorem exists_of_forall₂_rows {members : Members shape true} {indent : Nat} {lines : List Line}
    (h : List.Forall₂ Shows lines (members.rows indent)) :
    ∃ comments line below, lines = comments ++ line :: below ∧
      List.Forall₂ Shows comments (commentRows indent members.head) ∧
      Shows line ⟨indent, members.first⟩ ∧ List.Forall₂ Shows below (members.rest indent) := by
  obtain ⟨comments, below, rfl, hcomments, hbelow⟩ := exists_of_forall₂_append h
  obtain ⟨line, more, hline, hmore, rfl⟩ := List.forall₂_cons_right_iff.1 hbelow
  exact ⟨comments, line, more, rfl, hcomments, hline, hmore⟩

/-- The first line of members is no comment. -/
theorem kind_first (members : Members shape true) (indent : Nat) :
    (Row.mk indent members.first).kind = .content := by
  rw [Row.kind, if_neg]
  cases shape with
  | mapping =>
    obtain ⟨c, cs, hcs, hc⟩ := members.exists_first_mapping
    simpa [hcs] using ne_of_test hc (d := '#') (by decide)
  | sequence =>
    obtain ⟨cs, hcs⟩ := members.exists_first_sequence
    simp [hcs]

theorem kind_of_shows_first {members : Members shape true} {indent : Nat} {line : Line}
    (h : Shows line ⟨indent, members.first⟩) : line.kind = .content := by
  rw [h.kind, kind_first]

/-- What is collected before members that are not empty. -/
theorem exists_collect_rows {members : Members shape true} {indent : Nat} {lines : List Line}
    (h : List.Forall₂ Shows lines (members.rows indent)) (rest : List Line) :
    ∃ ps line below, collect [] (lines ++ rest) = (ps, line :: (below ++ rest)) ∧
      ps.map Pending.text = members.head.map Comment.text ∧ (∀ p ∈ ps, p.indent = indent) ∧
      Shows line ⟨indent, members.first⟩ ∧ List.Forall₂ Shows below (members.rest indent) := by
  obtain ⟨comments, line, below, rfl, hcomments, hline, hbelow⟩ := exists_of_forall₂_rows h
  obtain ⟨ps, htext, hindent, hcollect⟩ := collect_comments hcomments (line :: (below ++ rest))
  refine ⟨ps, line, below, ?_, htext, hindent, hline, hbelow⟩
  rw [List.append_assoc, List.cons_append, hcollect, List.nil_append,
    collect_content (kind_of_shows_first hline)]

/-- The builder stands at the line up to which it collects. -/
theorem stands_of_collect {members : Members shape any} {indent : Nat} {below rest : List Line}
    {b : Build} {ps : List Pending} {line : Line}
    (hb : collect b.pending b.lines = (ps, line :: (below ++ rest)))
    (htext : ps.map Pending.text = members.head.map Comment.text)
    (hline : Shows line ⟨indent, members.first⟩)
    (hbelow : List.Forall₂ Shows below (members.rest indent)) :
    Stands b.toContent indent members rest := by
  constructor
  · exact ⟨line, below, by simp [toContent, hb], hline, hbelow⟩
  · simpa [toContent, hb] using htext

/-- A builder that stands at members is before them, whatever nodes it has. -/
theorem Stands.before {members : Members shape true} {indent : Nat} {rest : List Line} {b c : Build}
    (h : Stands c indent members rest) (hpending : b.pending = c.pending)
    (hlines : b.lines = c.lines) : Before b indent members rest := by
  refine ⟨fun _ => ?_, nofun⟩
  obtain ⟨line, lines, heq, hline, hbelow⟩ := h.lines
  have hcollect : collect b.pending b.lines = (c.pending, line :: (lines ++ rest)) := by
    rw [hpending, hlines, heq, collect_content (kind_of_shows_first hline)]
  exact stands_of_collect hcollect h.pending hline hbelow

theorem before_of_collect {members : Members shape any} {indent : Nat} {lines rest : List Line}
    {b : Build} (h : List.Forall₂ Shows lines (members.rows indent))
    (hb : collect b.pending b.lines = collect [] (lines ++ rest)) :
    Before b indent members rest := by
  constructor
  · rintro rfl
    obtain ⟨ps, line, below, hcollect, htext, -, hline, hbelow⟩ := exists_collect_rows h rest
    exact stands_of_collect (hb.trans hcollect) htext hline hbelow
  · rintro rfl
    have hlines : lines = [] := List.forall₂_nil_right_iff.1 h
    rw [hb, hlines, List.nil_append]

end

/-! ### Where collections end -/

/-- The lines behind a collection at an indentation: no content, or content that the collection
cannot take, with comments above it that are no deeper. -/
inductive Ends (shape : Shape) (indent : Nat) (rest : List Line) : Prop
  | nothing (h : collect [] rest = ([], []))
  | content {ps : List Pending} {line : Line} {lines : List Line}
      (h : collect [] rest = (ps, line :: lines)) (comments : ∀ p ∈ ps, p.indent ≤ line.indent)
      (left : line.indent < indent ∨
        shape = .sequence ∧ line.indent = indent ∧ isItem line.text = false)

section

variable {shape shape' : Shape} {any : Bool} {indent indent' : Nat} {rest : List Line}

/-- What ends a collection ends those to the right of it. -/
theorem Ends.of_lt (h : Ends shape indent rest) (hlt : indent < indent') :
    Ends shape' indent' rest := by
  cases h with
  | nothing h => exact .nothing h
  | content h comments left =>
    refine .content h comments (.inl ?_)
    rcases left with hleft | ⟨-, hleft, -⟩ <;> omega

/-- What ends a mapping ends the sequence at its indentation. -/
theorem Ends.sequence (h : Ends .mapping indent rest) : Ends .sequence indent rest := by
  cases h with
  | nothing h => exact .nothing h
  | content h comments left =>
    rcases left with hleft | ⟨hshape, -⟩
    · exact .content h comments (.inl hleft)
    · cases hshape

/-- The further members of a collection end the collections in the member before. -/
theorem ends_of_rows {members : Members shape any} {lines : List Line}
    (hlines : List.Forall₂ Shows lines (members.rows indent)) (h : Ends shape indent rest)
    (hlt : indent < indent' ∨ shape = .mapping ∧ shape' = .sequence ∧ indent = indent') :
    Ends shape' indent' (lines ++ rest) := by
  cases any with
  | false =>
    obtain rfl : lines = [] := List.forall₂_nil_right_iff.1 hlines
    rcases hlt with hlt | ⟨rfl, rfl, rfl⟩
    · exact h.of_lt hlt
    · exact h.sequence
  | true =>
    obtain ⟨ps, line, below, hcollect, -, hindent, hline, -⟩ := exists_collect_rows hlines rest
    have hline' : line.indent = indent := hline.indent
    -- the comments above the next member stand at its own indentation
    refine .content hcollect (fun p hp => by rw [hindent p hp, hline']) ?_
    rcases hlt with hlt | ⟨rfl, rfl, rfl⟩
    · exact .inl (by omega)
    · refine .inr ⟨rfl, hline', ?_⟩
      rw [hline.text]
      exact members.isItem_first

/-- The further pairs of a mapping end the block below a key. -/
theorem ends_block {more : Members .mapping any} {lines : List Line}
    (hlines : List.Forall₂ Shows lines (more.rows indent)) (h : Ends .mapping indent rest)
    (deeper : Nat) (shape : Shape) :
    Ends shape (blockIndent indent deeper shape) (lines ++ rest) := by
  refine ends_of_rows hlines h ?_
  cases shape with
  | mapping => exact .inl (by rw [blockIndent]; omega)
  | sequence =>
    rw [blockIndent]
    by_cases hdeeper : deeper = 0
    · -- a sequence may stand at the indentation of its key, which is no item
      exact .inr ⟨rfl, rfl, by omega⟩
    · exact .inl (by omega)

/-- No line behind a collection is a further line of a plain scalar in it. -/
theorem Ends.isContinuation_eq (h : Ends .mapping (indent + 1) rest) {parent : Nat}
    (hle : indent ≤ parent) : ∀ line ∈ rest.head?, isContinuation parent line = false := by
  intro line hline
  by_cases hkind : line.kind = .content
  · obtain ⟨lines, rfl⟩ : ∃ lines, rest = line :: lines := by
      cases rest with
      | nil => cases hline
      | cons first lines => exact ⟨lines, by simpa using hline⟩
    have hcollect : collect [] (line :: lines) = ([], line :: lines) := collect_content hkind
    cases h with
    | nothing h => rw [h] at hcollect; cases hcollect
    | content h comments left =>
      rw [h] at hcollect
      cases hcollect
      rcases left with hleft | ⟨hshape, -⟩
      · have hnot : ¬ parent < line.indent := by omega
        simp [isContinuation, hnot]
      · cases hshape
  · simp [isContinuation, hkind]

/-- The comments behind a collection are no foot comments of its members. -/
theorem Ends.attachFoot_eq {b : Build} (h : Ends shape indent rest)
    (hb : collect [] rest = (b.pending, b.lines)) (id : Nat) : b.attachFoot id indent = b := by
  -- the first comment stays, so none is taken
  have hfoot : b.pending.takeWhile (fun p => !(p.indent < indent ||
      (b.lines.head?.bind fun l => if l.kind = .content then some l.indent else none).any
        (p.indent ≤ ·))) = [] := by
    cases hpending : b.pending with
    | nil => rfl
    | cons p ps =>
      cases h with
      | nothing h =>
        rw [h, hpending] at hb
        cases hb
      | @content qs line lines h comments left =>
        rw [h, hpending] at hb
        obtain ⟨rfl, hlines⟩ := Prod.mk.inj hb
        have hle := comments p (by simp)
        simp [← hlines, kind_of_collect h, hle]
  unfold attachFoot
  simp only [hfoot, List.isEmpty_nil, if_true]

end

/-! ### The store -/

/-- Nodes have been added behind the others. -/
structure Adds (nodes nodes' : Array Node) : Prop where
  size_le : nodes.size ≤ nodes'.size
  kept : ∀ i < nodes.size, nodes'[i]? = nodes[i]?

/-- The members `ids` have been added to the collection `id`, and nodes behind the others. -/
structure Grows (nodes : Array Node) (id : Nat) (ids : List Nat) (nodes' : Array Node) : Prop where
  size_le : nodes.size ≤ nodes'.size
  kept : ∀ i < nodes.size, i ≠ id → nodes'[i]? = nodes[i]?
  grown : nodes'[id]? = nodes[id]?.map fun n => { n with content := n.content ++ ids }

theorem adds_push (nodes : Array Node) (n : Node) : Adds nodes (nodes.push n) :=
  ⟨by simp, fun i hi => by rw [Array.getElem?_push_lt hi, Array.getElem?_eq_getElem hi]⟩

theorem Adds.trans {nodes middle nodes' : Array Node} (h : Adds nodes middle)
    (h' : Adds middle nodes') : Adds nodes nodes' := by
  have hsize := h.size_le
  refine ⟨Nat.le_trans hsize h'.size_le, fun i hi => ?_⟩
  rw [h'.kept i (by omega), h.kept i hi]

theorem grows_refl (nodes : Array Node) (id : Nat) : Grows nodes id [] nodes := by
  refine ⟨Nat.le_refl _, fun _ _ _ => rfl, ?_⟩
  cases nodes[id]? <;> simp

/-- A collection that is added and gets its members. -/
theorem adds_of_grows {nodes nodes' : Array Node} {n : Node} {ids : List Nat}
    (h : Grows (nodes.push n) nodes.size ids nodes') : Adds nodes nodes' := by
  have hsize : nodes.size + 1 ≤ nodes'.size := by simpa using h.size_le
  refine ⟨by omega, fun i hi => ?_⟩
  rw [h.kept i (by simp; omega) (by omega), (adds_push nodes n).kept i hi]

section

variable {nodes middle nodes' : Array Node} {id : Nat} {ids ids' : List Nat}

/-- Members are added to a collection, and further ones after them. -/
theorem Grows.of_take
    (h : Grows (middle.modify id fun n => { n with content := n.content ++ ids }) id ids' nodes')
    (hadds : Adds nodes middle) (hid : id < nodes.size) :
    Grows nodes id (ids ++ ids') nodes' := by
  have hsize := hadds.size_le
  have hle : middle.size ≤ nodes'.size := by simpa using h.size_le
  refine ⟨by omega, fun i hi hne => ?_, ?_⟩
  · rw [h.kept i (by simp; omega) hne, Array.getElem?_modify, if_neg (Ne.symm hne), hadds.kept i hi]
  · rw [h.grown, Array.getElem?_modify, if_pos rfl, hadds.kept id hid]
    cases nodes[id]? <;> simp

/-- The nodes of the members that were added first stay as they are. -/
theorem Grows.kept_middle
    (h : Grows (middle.modify id fun n => { n with content := n.content ++ ids }) id ids' nodes')
    (hid : id < nodes.size) :
    ∀ i, nodes.size ≤ i → i < middle.size → nodes'[i]? = middle[i]? := by
  intro i hlo hi
  rw [h.kept i (by simpa using hi) (by omega), Array.getElem?_modify, if_neg (by omega)]

end

/-! ### Fuel -/

/-- A bound on the work that rows make. -/
def rowsWeight (rows : List Row) : Nat := (rows.map fun r => r.text.length + 2).sum

/-- The fuel that members need from their first line on. What is behind a dash is read again, so the
characters of a line count. -/
def Members.cost {shape : Shape} {any : Bool} (indent : Nat) (m : Members shape any) : Nat :=
  4 * (m.first.length + rowsWeight (m.rest indent)) + 8

theorem rowsWeight_append (rows rows' : List Row) :
    rowsWeight (rows ++ rows') = rowsWeight rows + rowsWeight rows' := by
  simp [rowsWeight]

theorem Members.length_first_pos {shape : Shape} (m : Members shape true) :
    0 < m.first.length := by
  obtain ⟨c, cs, hcs, -⟩ := (m.isRowText_first rfl).exists_eq_cons
  simp [hcs]

theorem rowsWeight_rows {shape : Shape} (m : Members shape true) (indent : Nat) :
    m.first.length + 2 + rowsWeight (m.rest indent) ≤ rowsWeight (m.rows indent) := by
  rw [Members.rows, rowsOf, if_pos rfl, rowsWeight_append]
  simp [rowsWeight]

/-- The members below a line need less than the line and its rows. -/
theorem Members.cost_add_le {shape shape' : Shape} {any : Bool} (more : Members shape any)
    (m : Members shape' true) {indent indent' : Nat}
    (h : rowsWeight (more.rows indent) ≤ rowsWeight (m.rest indent')) :
    more.cost indent + 4 ≤ m.cost indent' := by
  have hfirst := m.length_first_pos
  cases any with
  | false =>
    have hmore : more.cost indent = 8 := by
      cases more
      rfl
    rw [hmore, Members.cost]
    omega
  | true =>
    have hrows := rowsWeight_rows more indent
    rw [Members.cost, Members.cost]
    omega

theorem Members.cost_blockPair {shape : Shape} {any : Bool} (head : List Comment) (key : Key)
    (trail : Option Comment) (deeper : Nat) (block : Members shape true)
    (more : Members .mapping any) (indent : Nat) :
    block.cost (blockIndent indent deeper shape) + 4 ≤
        (blockPair head key trail deeper block more).cost indent ∧
      more.cost indent + 4 ≤ (blockPair head key trail deeper block more).cost indent := by
  have hweight : rowsWeight ((blockPair head key trail deeper block more).rest indent) =
      rowsWeight (block.rows (blockIndent indent deeper shape)) +
        rowsWeight (more.rows indent) := rowsWeight_append _ _
  exact ⟨block.cost_add_le _ (by omega), more.cost_add_le _ (by omega)⟩

theorem Members.cost_mappingItem {any : Bool} (blanks : Nat) (block : Members .mapping true)
    (more : Members .sequence any) (indent : Nat) :
    block.cost (itemIndent indent blanks) + 4 ≤ (mappingItem blanks block more).cost indent ∧
      more.cost indent + 4 ≤ (mappingItem blanks block more).cost indent := by
  have hweight : rowsWeight ((mappingItem blanks block more).rest indent) =
      rowsWeight (block.rest (itemIndent indent blanks)) + rowsWeight (more.rows indent) :=
    rowsWeight_append _ _
  -- the first line of the mapping is read again without its dash
  have hlength : (mappingItem blanks block more).first.length =
      block.first.length + blanks + 2 := by
    simp [first, spaces]
    omega
  refine ⟨?_, more.cost_add_le _ (by omega)⟩
  rw [Members.cost, Members.cost, hlength]
  omega

/-! ### Scalars -/

theorem joinPending_eq {ps : List Pending} {head : List Comment}
    (h : ps.map Pending.text = head.map Comment.text) : joinPending ps = headText head := by
  rw [joinPending, h, headText]

/-- A scalar on one line, if no line continues it. -/
theorem exists_scalarNode (word : Word) (trail : Option Comment) (line : Line)
    {parent : Nat} (column : Nat) {lines : List Line}
    (h : ∀ l ∈ lines.head?, isContinuation parent l = false) :
    ∃ n, scalarNode { text := word.text, comment := trailComment trail } line parent column lines =
      .ok (n, lines) ∧ IsScalarOf n [] word.text trail := by
  obtain ⟨c, cs, hcs, hc, -⟩ := exists_of_isWord word.isWord
  have hstyle : styleOf word.text = .plain := by
    rw [hcs]
    exact styleOf_cons hc cs
  have hmore : lines.takeWhile (isContinuation parent) = [] := by
    cases lines with
    | nil => rfl
    | cons l lines => simp [h l (by simp)]
  simp only [scalarNode, hstyle, plainScalar, hmore, List.flatMap_nil, List.append_nil,
    List.length_nil, List.drop_zero]
  exact ⟨_, rfl, ⟨rfl, rfl, rfl, rfl, rfl⟩, rfl, rfl⟩

theorem decodeScalar_key (key : Key) (number : Nat) :
    decodeScalar key.text number = .ok key.text := by
  obtain ⟨c, cs, hcs, hc, -⟩ := exists_of_isWord (isWord_of_isKey key.isKey)
  rw [decodeScalar, hcs, styleOf_cons hc]

/-! ### One step of a reader -/

/-- Read the members of a collection. -/
def readMembers (shape : Shape) (fuel id indent : Nat) (last : Option Nat) (b : Build) :
    Except Fault (Nat × Build) :=
  match shape with
  | .mapping => readPairs fuel id indent last b
  | .sequence => readItems fuel id indent last b

section

variable {shape : Shape} {fuel id indent : Nat} {last : Option Nat} {b c : Build}
  {line : Line} {lines rest : List Line}

/-- A collection is closed where it ends. -/
theorem readMembers_close (h : Ends shape indent rest)
    (hb : collect b.pending b.lines = collect [] rest) :
    readMembers shape (fuel + 1) id indent last b = .ok (id, b.toContent) := by
  have hcontent : collect [] rest = (b.toContent.pending, b.toContent.lines) := hb.symm
  have hfoot : ∀ key, b.toContent.attachFoot key indent = b.toContent := h.attachFoot_eq hcontent
  have hlines : b.toContent.lines = [] ∨ ∃ line lines, b.toContent.lines = line :: lines ∧
      (line.indent < indent ∨ shape = .sequence ∧ line.indent = indent ∧
        isItem line.text = false) := by
    cases h with
    | nothing h =>
      rw [h] at hcontent
      exact .inl (Prod.mk.inj hcontent).2.symm
    | content h comments left =>
      rw [h] at hcontent
      exact .inr ⟨_, _, (Prod.mk.inj hcontent).2.symm, left⟩
  have hclose : (.ok (id, b.toContent.withFoot last indent) : Except Fault (Nat × Build)) =
      .ok (id, b.toContent) := by
    cases last with
    | none => rfl
    | some key => rw [withFoot, hfoot key]
  cases shape with
  | mapping =>
    unfold readMembers readPairs
    rcases hlines with hnil | ⟨line, lines, hcons, hlt | ⟨hshape, -⟩⟩
    · simp only [hnil]
      exact hclose
    · simp only [hcons, hlt, if_true]
      exact hclose
    · cases hshape
  | sequence =>
    unfold readMembers readItems
    rcases hlines with hnil | ⟨line, lines, hcons, hlt | ⟨-, heq, hitem⟩⟩
    · simp only [hnil]
      exact hclose
    · simp only [hcons, hlt, decide_true, Bool.true_or, if_true]
      exact hclose
    · simp only [hcons, heq, hitem, beq_self_eq_true, Bool.not_false, Bool.and_self, Bool.or_true,
        if_true]
      exact hclose

/-- The key of a pair, as it is added to the store. -/
def keyNode (b : Build) (line : Line) (indent : Nat) (key : Key) : Node :=
  b.withHead
    { kind := .scalar
      line := line.number
      column := indent + 1
      value := String.ofList key.text
      style := styleOf key.text
      raw := some (String.ofList key.text) }

theorem isScalarOf_keyNode {head : List Comment}
    (h : b.pending.map Pending.text = head.map Comment.text) (line : Line) (indent : Nat)
    (key : Key) : IsScalarOf (keyNode b line indent key) head key.text none :=
  ⟨⟨rfl, rfl, joinPending_eq h, rfl, rfl⟩, rfl, rfl⟩

/-- The builder after a key has been added. -/
def withKey (b : Build) (line : Line) (indent : Nat) (key : Key) : Build :=
  (b.dropLine.clearPending.push (keyNode b line indent key)).2

theorem size_withKey (b : Build) (line : Line) (indent : Nat) (key : Key) :
    (withKey b.toContent line indent key).nodes.size = b.nodes.size + 1 := Array.size_push _

theorem lines_withKey (h : b.lines = line :: lines) (indent : Nat) (key : Key) :
    (withKey b line indent key).lines = lines := by
  simp [withKey, push, clearPending, dropLine, h]

theorem collect_withKey (h : b.lines = line :: lines) (indent : Nat) (key : Key) :
    collect (withKey b line indent key).pending (withKey b line indent key).lines =
      collect [] lines := by
  rw [lines_withKey h]
  rfl

/-- One pair is read, if its value is. -/
theorem readPairs_pair {key : Key} {after : List Char} {value : Nat}
    (hlines : b.toContent.lines = line :: lines) (hindent : line.indent = indent)
    (hsplit : splitKey? line.text = some (key.text, after))
    (hvalue : readValue fuel indent line b.nodes.size key.text after
      (withKey b.toContent line indent key) = .ok (value, c)) :
    readPairs (fuel + 1) id indent last b = readPairs fuel id indent (some b.nodes.size)
      (c.modify id fun n => { n with content := n.content ++ [b.nodes.size, value] }) := by
  have hlt : ¬ line.indent < indent := by omega
  have hgt : ¬ indent < line.indent := by omega
  conv_lhs => unfold readPairs
  simp only [hlines, hlt, hgt, if_false, hsplit, decodeScalar_key]
  have hread : readValue fuel indent line
      (b.toContent.dropLine.clearPending.push (keyNode b.toContent line indent key)).1 key.text
      after (b.toContent.dropLine.clearPending.push (keyNode b.toContent line indent key)).2 =
        .ok (value, c) := hvalue
  unfold keyNode at hread
  simp only [hread]
  rfl

theorem byteSize_spaces (n : Nat) : Text.byteSize (spaces n) = n := by
  induction n with
  | zero => rfl
  | succ n ih =>
    have hspace : (' ').utf8Size = 1 := rfl
    rw [spaces, List.replicate_succ, Text.byteSize_cons, hspace]
    change 1 + Text.byteSize (spaces n) = n + 1
    omega

/-- The builder after the dash of an item: the rest of the line is a line of its own. -/
def withoutDash (b : Build) (line : Line) (lines : List Line) (indent : Nat)
    (content : List Char) : Build :=
  { b with lines := { line with indent, text := content } :: lines }

/-- One item is read, if what stands behind its dash is. -/
theorem readItems_item {blanks value : Nat} {ch : Char} {cs : List Char}
    (hlines : b.toContent.lines = line :: lines) (hindent : line.indent = indent)
    (htext : line.text = '-' :: ' ' :: (spaces blanks ++ ch :: cs)) (hch : ch.isAlphanum = true)
    (hnode : readNode fuel (itemIndent indent blanks)
      (withoutDash b.toContent line lines (itemIndent indent blanks) (ch :: cs)) =
        .ok (value, c)) :
    readItems (fuel + 1) id indent last b = readItems fuel id indent (some value)
      (c.modify id fun n => { n with content := n.content ++ [value] }) := by
  have hlt : ¬ line.indent < indent := by omega
  have hgt : ¬ indent < line.indent := by omega
  have hitem : isItem line.text = true := by rw [htext]; rfl
  have hdrop : line.text.drop 1 = spaces (blanks + 1) ++ ch :: cs := by
    rw [htext]
    rfl
  have hcontent : Text.trimStart (spaces (blanks + 1) ++ ch :: cs) = ch :: cs :=
    trimStart_spaces (by simpa using isBlank_of_isAlphanum hch)
  have hwidth : indent + 1 + Text.byteSize (spaces (blanks + 1) ++ ch :: cs) -
      Text.byteSize (ch :: cs) = itemIndent indent blanks := by
    rw [Text.byteSize_append, byteSize_spaces, itemIndent]
    omega
  have hvalue : (splitValue (ch :: cs)).text.isEmpty = false := by
    simpa using splitValue_text_ne_nil hch cs
  unfold withoutDash at hnode
  conv_lhs => unfold readItems
  simp only [hlines, hlt, hgt, hitem, hdrop, hcontent, hwidth, hvalue, hnode, decide_false,
    Bool.not_true, Bool.and_false, Bool.or_self, Bool.false_eq_true, if_false]

/-- A collection is added to the store before its members are read. -/
theorem exists_readNode_block {members : Members shape true} (h : Stands b indent members rest) :
    ∃ n, IsBlock n shape indent ∧ n.content = [] ∧
      readNode (fuel + 1) indent b =
        readMembers shape fuel b.nodes.size indent none (b.push n).2 := by
  obtain ⟨line, lines, hlines, hline, -⟩ := h.lines
  have hitem := members.isItem_first
  cases shape with
  | mapping =>
    have hkey : (splitKey? members.first).isSome = true := members.isSome_splitKey?_first
    refine ⟨{ kind := .mapping, line := line.number, column := indent + 1 },
      ⟨⟨rfl, rfl, rfl, rfl, rfl⟩, rfl, rfl⟩, rfl, ?_⟩
    conv_lhs => unfold readNode
    simp only [hlines, hline.text, hitem, hkey, if_true, reduceCtorEq, decide_false,
      Bool.false_eq_true, if_false]
    rfl
  | sequence =>
    refine ⟨{ kind := .sequence, line := line.number, column := indent + 1 },
      ⟨⟨rfl, rfl, rfl, rfl, rfl⟩, rfl, rfl⟩, rfl, ?_⟩
    conv_lhs => unfold readNode
    simp only [hlines, hline.text, hitem, decide_true, if_true]
    rfl

/-- A scalar behind a dash. -/
theorem exists_readNode_word {word : Word} {trail : Option Comment} {head : List Comment}
    (hlines : b.lines = line :: lines) (htext : line.text = word.text ++ trailText trail)
    (hpending : b.pending.map Pending.text = head.map Comment.text)
    (hcontinue : ∀ l ∈ lines.head?, isContinuation (indent - 1) l = false) (fuel : Nat) :
    ∃ n, IsScalarOf n head word.text trail ∧ readNode (fuel + 1) indent b =
      .ok (b.nodes.size, { nodes := b.nodes.push n, lines, pending := [] }) := by
  obtain ⟨ch, cs, hcs, hch, -⟩ := exists_of_isWord word.isWord
  have hitem : isItem (word.text ++ trailText trail) = false := by
    rw [hcs]
    exact isItem_cons hch _
  have hkey : (splitKey? (word.text ++ trailText trail)).isSome = false := by
    rw [splitKey?_word word.isWord]
    rfl
  obtain ⟨n, hn, iscalar⟩ :=
    exists_scalarNode word trail line (line.indent + 1) hcontinue
  refine ⟨b.withHead n, ⟨⟨iscalar.tag, iscalar.anchor, joinPending_eq hpending,
    iscalar.lineComment, iscalar.footComment⟩, iscalar.kind, iscalar.raw⟩, ?_⟩
  conv_lhs => unfold readNode
  simp only [hlines, htext, hitem, hkey, Bool.false_eq_true, if_false, readScalarLine,
    splitValue_word word.isWord, List.drop_one, List.tail_cons, hn]
  rfl

end

/-! ### Values -/

/-- A value without properties sets none. -/
theorem setProperties_eq_self {v : InlineValue} (hanchor : v.anchor = none) (htag : v.tag = none)
    (b : Build) (id : Nat) : b.setProperties id v = b := by
  have hnodes : b.nodes.modify id (fun n =>
      { n with
        anchor := (v.anchor.map String.ofList).or n.anchor
        tag := (v.tag.map String.ofList).or n.tag }) = b.nodes := by
    apply Array.ext_getElem?
    intro i
    rw [Array.getElem?_modify, hanchor, htag]
    split
    · cases b.nodes[i]? <;> rfl
    · rfl
  simp only [setProperties, Build.modify, hnodes]

section

variable {shape : Shape} {any : Bool} {fuel indent key : Nat} {b c : Build} {line : Line}
  {keyText : List Char} {lines rest : List Line}

/-- A scalar behind a key. -/
theorem exists_readValue_word (word : Word) (trail : Option Comment) (fuel : Nat) (line : Line)
    (key : Nat) (keyText : List Char)
    (hcontinue : ∀ l ∈ b.lines.head?, isContinuation indent l = false) :
    ∃ n, IsScalarOf n [] word.text trail ∧
      readValue (fuel + 1) indent line key keyText (' ' :: (word.text ++ trailText trail)) b =
        .ok (b.nodes.size, (b.push n).2) := by
  obtain ⟨ch, cs, hcs, -, -⟩ := exists_of_isWord word.isWord
  have hne : word.text.isEmpty = false := by simp [hcs]
  obtain ⟨n, hn, iscalar⟩ := exists_scalarNode word trail line
    (line.indent + Text.byteSize line.text -
      Text.byteSize (Text.trimStart (' ' :: (word.text ++ trailText trail))) + 1) hcontinue
  refine ⟨n, iscalar, ?_⟩
  unfold readValue
  simp only [splitValue_blank, splitValue_word word.isWord, hne, Bool.false_eq_true, if_false, hn]
  rfl

/-- The reader of a node reads a collection with the given members. -/
def ReadsBlock (members : Members shape true) : Prop :=
  ∀ (fuel : Nat) {indent : Nat} {b : Build} {rest : List Line}, Stands b indent members rest →
    Ends shape indent rest → members.cost indent ≤ fuel →
    ∃ b', readNode (fuel + 1) indent b = .ok (b.nodes.size, b') ∧
      collect [] rest = (b'.pending, b'.lines) ∧ Adds b.nodes b'.nodes ∧
      HoldsBlock b'.nodes b.nodes.size b.nodes.size indent members

/-- A block below a key is read as the node on the next line. -/
theorem readNested_block {block : Members shape true} {deeper : Nat}
    (h : Stands b.toContent (blockIndent indent deeper shape) block rest)
    (fuel number column : Nat) :
    readNested (fuel + 1) indent true number column b =
      readNode fuel (blockIndent indent deeper shape) b.toContent := by
  obtain ⟨line, lines, hlines, hline, -⟩ := h.lines
  have hitem := block.isItem_first
  have hnested : (decide (indent < blockIndent indent deeper shape) ||
      (true && blockIndent indent deeper shape == indent && isItem block.first)) = true := by
    cases shape with
    | mapping =>
      have hlt : indent < blockIndent indent deeper .mapping := by
        rw [blockIndent]
        omega
      simp [hlt]
    | sequence =>
      -- without further indentation the block is known by its dash
      rw [hitem, blockIndent]
      by_cases hdeeper : deeper = 0
      · simp [hdeeper]
      · have hlt : indent < indent + deeper := by omega
        simp [hlt]
  unfold readNested
  simp only [hlines, hline.text, hline.indent, hnested, if_true]

/-- The comment behind a key, attached to it. -/
def addTrail (line : Line) (trail : Option Comment) (n : Node) : Node :=
  { n with
    lineComment := String.ofList (trailComment trail)
    linePosition := line.commentPoint? (trailComment trail) }

theorem IsScalarOf.addTrail {n : Node} {head : List Comment} {text : List Char}
    (h : IsScalarOf n head text none) (line : Line) (trail : Option Comment) :
    IsScalarOf (addTrail line trail n) head text trail :=
  ⟨⟨h.tag, h.anchor, h.headComment, rfl, h.footComment⟩, h.kind, h.raw⟩

/-- A block below a key. The key gets the comment behind it. -/
theorem exists_readValue_block {block : Members shape true} (hblock : ReadsBlock block)
    {deeper : Nat} (trail : Option Comment) (fuel : Nat) (line : Line) (key : Nat)
    (keyText : List Char) (hb : collect b.pending b.lines = collect [] (lines ++ rest))
    (hlines : List.Forall₂ Shows lines (block.rows (blockIndent indent deeper shape)))
    (hends : Ends shape (blockIndent indent deeper shape) rest)
    (hfuel : block.cost (blockIndent indent deeper shape) + 3 ≤ fuel) :
    ∃ b', readValue fuel indent line key keyText (trailText trail) b = .ok (b.nodes.size, b') ∧
      collect [] rest = (b'.pending, b'.lines) ∧
      Adds (b.nodes.modify key (addTrail line trail)) b'.nodes ∧
      HoldsBlock b'.nodes b.nodes.size b.nodes.size (blockIndent indent deeper shape) block := by
  obtain ⟨fuel, rfl⟩ : ∃ f, fuel = f + 3 := ⟨fuel - 3, by omega⟩
  have hstands : Stands (b.modify key (addTrail line trail)).toContent
      (blockIndent indent deeper shape) block rest :=
    (before_of_collect hlines (b := b.modify key (addTrail line trail)) hb).stands rfl
  obtain ⟨b', hread, hcollect, hadds, hholds⟩ := hblock fuel hstands hends (by omega)
  have hsize : (b.modify key (addTrail line trail)).toContent.nodes.size = b.nodes.size :=
    Array.size_modify
  rw [hsize] at hread hholds
  refine ⟨b', ?_, hcollect, hadds, hholds⟩
  have hnested := readNested_block hstands (fuel + 1)
  rw [hread] at hnested
  unfold addTrail at hnested
  unfold readValue
  simp only [splitValue_trailText, List.isEmpty_nil, if_true, hnested, setProperties_eq_self]

end

end ManifestMarkers.Manifest.Canonical
