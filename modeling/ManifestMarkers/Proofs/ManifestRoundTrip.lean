import ManifestMarkers.Proofs.ManifestReading

/-!
# Canonical manifests are written as they stood

Every layout is read into a store that holds it, member by member and document by document, and what
a store holds is written as the layout.

* `readsMembers`: every layout is read, by induction on the layout.
* `exists_documentLines`, `exists_readDocuments`: every stream of documents is read.
* `exists_parse_of_isCanonical`: a canonical text is written as it stood.
-/

namespace ManifestMarkers.Manifest.Canonical

open Build

/-! ### Members -/

section

variable {shape : Shape} {any : Bool}

/-- The reader of a collection reads the given members into it. -/
def ReadsMembers (members : Members shape any) : Prop :=
  ∀ (fuel id : Nat) {indent : Nat} (last : Option Nat) {b : Build} {rest : List Line},
    Before b indent members rest → Ends shape indent rest → members.cost indent ≤ fuel →
    id < b.nodes.size →
    ∃ b' ids, readMembers shape fuel id indent last b = .ok (id, b') ∧
      collect [] rest = (b'.pending, b'.lines) ∧ Grows b.nodes id ids b'.nodes ∧
      Holds b'.nodes b.nodes.size indent members ids

theorem readsMembers_nil (shape : Shape) : ReadsMembers (.nil shape) := by
  intro fuel id indent last b rest hb hends hfuel hid
  obtain ⟨fuel, rfl⟩ : ∃ f, fuel = f + 1 := ⟨fuel - 1, by rw [Members.cost] at hfuel; omega⟩
  refine ⟨b.toContent, [], readMembers_close hends (hb.done rfl), (hb.done rfl).symm,
    grows_refl _ id, .nil shape _ indent⟩

theorem readsBlock_of_readsMembers {members : Members shape true} (h : ReadsMembers members) :
    ReadsBlock members := by
  intro fuel indent b rest hstands hends hfuel
  obtain ⟨n, isblock, hcontent, hnode⟩ := exists_readNode_block hstands
  have hsize : (b.push n).2.nodes.size = b.nodes.size + 1 := by simp [push]
  obtain ⟨b', ids, hread, hcollect, hgrows, hholds⟩ :=
    h fuel b.nodes.size none (hstands.before (b := (b.push n).2) rfl rfl) hends hfuel (by omega)
  refine ⟨b', by rw [hnode, hread], hcollect, adds_of_grows hgrows, ?_⟩
  have hget : b'.nodes[b.nodes.size]? = some { n with content := ids } := by
    rw [hgrows.grown]
    simp [push, hcontent]
  rw [hsize] at hholds
  exact ⟨_, ⟨Nat.le_refl _, hget⟩, ⟨⟨isblock.tag, isblock.anchor, isblock.headComment,
    isblock.lineComment, isblock.footComment⟩, isblock.kind, isblock.column⟩, hholds⟩

/-- The collection takes in the members that have been read, and the others are read. -/
theorem ReadsMembers.take {more : Members shape any} (h : ReadsMembers more) (fuel : Nat)
    {id indent : Nat} (last : Option Nat) {nodes : Array Node} {c : Build} {lines rest : List Line}
    (ids : List Nat) (hadds : Adds nodes c.nodes) (hid : id < nodes.size)
    (hc : collect c.pending c.lines = collect [] (lines ++ rest))
    (hlines : List.Forall₂ Shows lines (more.rows indent)) (hends : Ends shape indent rest)
    (hfuel : more.cost indent ≤ fuel) :
    ∃ b' ids', readMembers shape fuel id indent last
        (c.modify id fun n => { n with content := n.content ++ ids }) = .ok (id, b') ∧
      collect [] rest = (b'.pending, b'.lines) ∧ Grows nodes id (ids ++ ids') b'.nodes ∧
      (∀ i, nodes.size ≤ i → i < c.nodes.size → b'.nodes[i]? = c.nodes[i]?) ∧
      Holds b'.nodes nodes.size indent more ids' := by
  have hsize := hadds.size_le
  have hmodify : (c.modify id fun n => { n with content := n.content ++ ids }).nodes.size =
      c.nodes.size := Array.size_modify
  obtain ⟨b', ids', hread, hcollect, hgrows, hholds⟩ :=
    h fuel id last (before_of_collect hlines
      (b := c.modify id fun n => { n with content := n.content ++ ids }) hc) hends hfuel (by omega)
  refine ⟨b', ids', hread, hcollect, hgrows.of_take hadds hid, hgrows.kept_middle hid, ?_⟩
  exact hholds.congr (by omega) fun i _ _ => rfl

/-- The pairs behind one whose value has been read. -/
theorem ReadsMembers.pair {more : Members .mapping any} (h : ReadsMembers more)
    {fuel id indent : Nat} {last : Option Nat} {b c : Build} {line : Line}
    {below lines rest : List Line} {key : Key} {after : List Char}
    (hlines : b.toContent.lines = line :: below) (hindent : line.indent = indent)
    (hsplit : splitKey? line.text = some (key.text, after))
    (hvalue : readValue fuel indent line b.nodes.size key.text after
      (withKey b.toContent line indent key) = .ok (b.nodes.size + 1, c))
    (hadds : Adds b.nodes c.nodes) (hid : id < b.nodes.size)
    (hc : collect c.pending c.lines = collect [] (lines ++ rest))
    (hmore : List.Forall₂ Shows lines (more.rows indent)) (hends : Ends .mapping indent rest)
    (hfuel : more.cost indent ≤ fuel) :
    ∃ b' ids, readMembers .mapping (fuel + 1) id indent last b = .ok (id, b') ∧
      collect [] rest = (b'.pending, b'.lines) ∧
      Grows b.nodes id (b.nodes.size :: (b.nodes.size + 1) :: ids) b'.nodes ∧
      (∀ i, b.nodes.size ≤ i → i < c.nodes.size → b'.nodes[i]? = c.nodes[i]?) ∧
      Holds b'.nodes b.nodes.size indent more ids := by
  obtain ⟨b', ids, hread, hcollect, hgrows, hkept, hholds⟩ :=
    h.take fuel (some b.nodes.size) [b.nodes.size, b.nodes.size + 1] hadds hid hc hmore hends hfuel
  refine ⟨b', ids, ?_, hcollect, hgrows, hkept, hholds⟩
  rw [readMembers, readPairs_pair hlines hindent hsplit hvalue]
  exact hread

/-- The key and its scalar are two nodes, and the next line does not continue the scalar. -/
theorem readsMembers_scalarPair {head : List Comment} {key : Key} {word : Word}
    {trail : Option Comment} {more : Members .mapping any} (ih : ReadsMembers more) :
    ReadsMembers (.scalarPair head key word trail more) := by
  intro fuel id indent last b rest hb hends hfuel hid
  obtain ⟨⟨line, lines, hlines, hline, hbelow⟩, hpending⟩ := hb.stands rfl
  have hcost : more.cost indent + 4 ≤ (Members.scalarPair head key word trail more).cost indent :=
    more.cost_add_le _ (Nat.le_refl _)
  obtain ⟨fuel, rfl⟩ : ∃ f, fuel = f + 2 := ⟨fuel - 2, by omega⟩
  have hsplit : splitKey? line.text = some (key.text, ' ' :: (word.text ++ trailText trail)) := by
    rw [hline.text]
    exact splitKey?_key key.isKey (by simp)
  have hcontinue : ∀ l ∈ (withKey b.toContent line indent key).lines.head?,
      isContinuation indent l = false := by
    rw [lines_withKey hlines]
    exact (ends_of_rows hbelow hends (.inl (Nat.lt_succ_self indent))).isContinuation_eq
      (Nat.le_refl _)
  obtain ⟨n, isvalue, hvalue⟩ :=
    exists_readValue_word word trail fuel line b.nodes.size key.text hcontinue
  have hnodes : ((withKey b.toContent line indent key).push n).2.nodes =
      (b.nodes.push (keyNode b.toContent line indent key)).push n := rfl
  have hadds : Adds b.nodes ((withKey b.toContent line indent key).push n).2.nodes :=
    (adds_push _ _).trans (adds_push _ _)
  rw [size_withKey] at hvalue
  have hindent : line.indent = indent := hline.indent
  obtain ⟨b', ids, hread, hcollect, hgrows, hkept, hholds⟩ :=
    ih.pair hlines hindent hsplit hvalue hadds hid (collect_withKey hlines indent key) hbelow hends
      (by omega)
  rw [hnodes] at hkept
  refine ⟨b', _, hread, hcollect, hgrows, .scalarPair ⟨Nat.le_refl _, ?_⟩
    (isScalarOf_keyNode hpending line indent key) ⟨Nat.le_succ _, ?_⟩ isvalue hholds⟩
  · rw [hkept _ (Nat.le_refl _) (by rw [Array.size_push, Array.size_push]; omega),
      (adds_push _ n).kept _ (by simp), Array.getElem?_push_size]
  · rw [hkept _ (Nat.le_succ _) (by simp), Array.getElem?_push, if_pos (by simp)]

/-- The key is a node that gets the comment behind it before the block below it is read. -/
theorem readsMembers_blockPair {shape : Shape} {head : List Comment} {key : Key}
    {trail : Option Comment} {deeper : Nat} {block : Members shape true}
    {more : Members .mapping any} (ihblock : ReadsMembers block) (ihmore : ReadsMembers more) :
    ReadsMembers (.blockPair head key trail deeper block more) := by
  intro fuel id indent last b rest hb hends hfuel hid
  obtain ⟨⟨line, lines, hlines, hline, hbelow⟩, hpending⟩ := hb.stands rfl
  obtain ⟨lines, moreLines, rfl, hblock, hmore⟩ := exists_of_forall₂_append hbelow
  rw [List.append_assoc] at hlines
  obtain ⟨hblockCost, hcost⟩ := Members.cost_blockPair head key trail deeper block more indent
  obtain ⟨fuel, rfl⟩ : ∃ f, fuel = f + 1 := ⟨fuel - 1, by omega⟩
  have hsplit : splitKey? line.text = some (key.text, trailText trail) := by
    rw [hline.text]
    exact splitKey?_key key.isKey (by cases trail <;> simp [trailText])
  have hblockEnds := ends_block hmore hends deeper shape
  obtain ⟨c, hvalue, hc, hadds, n, hn, isblock, hblockHolds⟩ :=
    exists_readValue_block (readsBlock_of_readsMembers ihblock) trail fuel line b.nodes.size
      key.text (collect_withKey hlines indent key) hblock hblockEnds (by omega)
  rw [size_withKey] at hvalue hn hblockHolds
  have hkeyed : (withKey b.toContent line indent key).nodes.modify b.nodes.size
      (addTrail line trail) =
        b.nodes.push (addTrail line trail (keyNode b.toContent line indent key)) :=
    modify_push _ _ _
  rw [hkeyed] at hadds
  -- the block has been read up to the comments and the line of the next pair
  have hindent : line.indent = indent := hline.indent
  obtain ⟨b', ids, hread, hcollect, hgrows, hkept, hholds⟩ :=
    ihmore.pair hlines hindent hsplit hvalue ((adds_push _ _).trans hadds) hid
      (by rw [hc]; exact collect_idem hc) hmore hends (by omega)
  have iskey := (isScalarOf_keyNode hpending line indent key).addTrail line trail
  have hsize : b.nodes.size + 1 ≤ c.nodes.size := by simpa using hadds.size_le
  refine ⟨b', _, hread, hcollect, hgrows, .blockPair ⟨Nat.le_refl _, ?_⟩ iskey
    ⟨Nat.le_succ _, ?_⟩ isblock ?_ hholds⟩
  · rw [hkept _ (Nat.le_refl _) (by omega), hadds.kept _ (by simp), Array.getElem?_push_size]
  · exact (hn.congr (Nat.le_succ _) fun i hi => hkept i (by omega)).get
  · exact hblockHolds.congr (Nat.le_refl _) fun i hi => hkept i (by omega)

/-- The items behind one that has been read. -/
theorem ReadsMembers.item {more : Members .sequence any} (h : ReadsMembers more)
    {fuel id indent blanks : Nat} {last : Option Nat} {b c : Build} {line : Line}
    {below lines rest : List Line} {ch : Char} {cs : List Char}
    (hlines : b.toContent.lines = line :: below) (hindent : line.indent = indent)
    (htext : line.text = '-' :: ' ' :: (spaces blanks ++ ch :: cs)) (hch : ch.isAlphanum = true)
    (hnode : readNode fuel (itemIndent indent blanks)
      (withoutDash b.toContent line below (itemIndent indent blanks) (ch :: cs)) =
        .ok (b.nodes.size, c))
    (hadds : Adds b.nodes c.nodes) (hid : id < b.nodes.size)
    (hc : collect c.pending c.lines = collect [] (lines ++ rest))
    (hmore : List.Forall₂ Shows lines (more.rows indent)) (hends : Ends .sequence indent rest)
    (hfuel : more.cost indent ≤ fuel) :
    ∃ b' ids, readMembers .sequence (fuel + 1) id indent last b = .ok (id, b') ∧
      collect [] rest = (b'.pending, b'.lines) ∧ Grows b.nodes id (b.nodes.size :: ids) b'.nodes ∧
      (∀ i, b.nodes.size ≤ i → i < c.nodes.size → b'.nodes[i]? = c.nodes[i]?) ∧
      Holds b'.nodes b.nodes.size indent more ids := by
  obtain ⟨b', ids, hread, hcollect, hgrows, hkept, hholds⟩ :=
    h.take fuel (some b.nodes.size) [b.nodes.size] hadds hid hc hmore hends hfuel
  refine ⟨b', ids, ?_, hcollect, hgrows, hkept, hholds⟩
  rw [readMembers, readItems_item hlines hindent htext hch hnode]
  exact hread

/-- The scalar takes the comments above the dash. -/
theorem readsMembers_scalarItem {head : List Comment} {word : Word} {trail : Option Comment}
    {more : Members .sequence any} (ih : ReadsMembers more) :
    ReadsMembers (.scalarItem head word trail more) := by
  intro fuel id indent last b rest hb hends hfuel hid
  obtain ⟨⟨line, lines, hlines, hline, hbelow⟩, hpending⟩ := hb.stands rfl
  have hindent : line.indent = indent := hline.indent
  have hcost : more.cost indent + 4 ≤ (Members.scalarItem head word trail more).cost indent :=
    more.cost_add_le _ (Nat.le_refl _)
  obtain ⟨fuel, rfl⟩ : ∃ f, fuel = f + 2 := ⟨fuel - 2, by omega⟩
  obtain ⟨ch, cs, hcs, hch, -⟩ := exists_of_isWord word.isWord
  have htext : line.text = '-' :: ' ' :: (spaces 0 ++ ch :: (cs ++ trailText trail)) := by
    rw [hline.text, Members.first, hcs]
    rfl
  have hcontinue : ∀ l ∈ (lines ++ rest).head?,
      isContinuation (itemIndent indent 0 - 1) l = false :=
    (ends_of_rows hbelow hends (.inl (Nat.lt_succ_self indent))).isContinuation_eq
      (by rw [itemIndent]; omega)
  obtain ⟨n, isvalue, hnode⟩ := exists_readNode_word
    (b := withoutDash b.toContent line (lines ++ rest) (itemIndent indent 0)
      (ch :: (cs ++ trailText trail))) rfl (by rw [hcs]; rfl) hpending hcontinue fuel
  obtain ⟨b', ids, hread, hcollect, hgrows, hkept, hholds⟩ :=
    ih.item hlines hindent htext hch hnode (adds_push b.nodes n) hid rfl hbelow hends (by omega)
  refine ⟨b', _, hread, hcollect, hgrows, .scalarItem ⟨Nat.le_refl _, ?_⟩ isvalue hholds⟩
  have hsize : (b.nodes.push n).size = b.nodes.size + 1 := Array.size_push _
  exact (hkept _ (Nat.le_refl _) (Nat.lt_of_lt_of_eq (Nat.lt_succ_self _) hsize.symm)).trans
    Array.getElem?_push_size

/-- The comments above the dash wait for the first key of the mapping. -/
theorem readsMembers_mappingItem {blanks : Nat} {block : Members .mapping true}
    {more : Members .sequence any} (ihblock : ReadsMembers block) (ihmore : ReadsMembers more) :
    ReadsMembers (.mappingItem blanks block more) := by
  intro fuel id indent last b rest hb hends hfuel hid
  obtain ⟨⟨line, lines, hlines, hline, hbelow⟩, hpending⟩ := hb.stands rfl
  obtain ⟨lines, moreLines, rfl, hblock, hmore⟩ := exists_of_forall₂_append hbelow
  rw [List.append_assoc] at hlines
  have hindent : line.indent = indent := hline.indent
  obtain ⟨hblockCost, hcost⟩ := Members.cost_mappingItem blanks block more indent
  obtain ⟨fuel, rfl⟩ : ∃ f, fuel = f + 2 := ⟨fuel - 2, by omega⟩
  obtain ⟨ch, cs, hcs, hch⟩ := block.exists_first_mapping
  have htext : line.text = '-' :: ' ' :: (spaces blanks ++ ch :: cs) := by
    rw [hline.text, Members.first, hcs]
  have hkind : line.kind = .content := kind_of_shows_first hline
  -- the line without its dash is the first line of the mapping
  have hstands : Stands
      (withoutDash b.toContent line (lines ++ (moreLines ++ rest)) (itemIndent indent blanks)
        (ch :: cs)) (itemIndent indent blanks) block (moreLines ++ rest) := by
    refine ⟨⟨_, lines, rfl, ⟨rfl, hcs.symm, ?_⟩, hblock⟩, hpending⟩
    rw [kind_first]
    exact hkind
  have hblockEnds : Ends .mapping (itemIndent indent blanks) (moreLines ++ rest) :=
    ends_of_rows hmore hends (.inl (by rw [itemIndent]; omega))
  obtain ⟨c, hnode, hc, hadds, n, hn, isblock, hblockHolds⟩ :=
    readsBlock_of_readsMembers ihblock fuel hstands hblockEnds (by omega)
  have hadds : Adds b.nodes c.nodes := hadds
  obtain ⟨b', ids, hread, hcollect, hgrows, hkept, hholds⟩ :=
    ihmore.item hlines hindent htext hch hnode hadds hid (by rw [hc]; exact collect_idem hc) hmore
      hends (by omega)
  have hn : Found c.nodes b.nodes.size b.nodes.size n := hn
  refine ⟨b', _, hread, hcollect, hgrows, .mappingItem (hn.congr (Nat.le_refl _) hkept) isblock ?_
    hholds⟩
  exact hblockHolds.congr (Nat.le_refl _) fun i hi => hkept i (Nat.le_of_succ_le hi)

/-- Every layout is read. -/
theorem readsMembers (members : Members shape any) : ReadsMembers members := by
  -- on the layout, since a line is read twice and the lines do not shrink with every call
  induction members with
  | nil shape => exact readsMembers_nil shape
  | scalarPair head key word trail more ih => exact readsMembers_scalarPair ih
  | blockPair head key trail deeper block more ihblock ihmore =>
    exact readsMembers_blockPair ihblock ihmore
  | scalarItem head word trail more ih => exact readsMembers_scalarItem ih
  | mappingItem blanks block more ihblock ihmore => exact readsMembers_mappingItem ihblock ihmore

end

/-! ### Documents -/

/-- Lines that show a document, with nothing but blank lines behind it. -/
def ShowsDocument (lines : List Line) (d : Document) : Prop :=
  ∃ above below, lines = above ++ below ∧ List.Forall₂ Shows above (d.block.rows d.indent) ∧
    collect [] below = ([], [])

theorem linesWeight_append (lines lines' : List Line) :
    linesWeight (lines ++ lines') = linesWeight lines + linesWeight lines' := by
  induction lines with
  | nil => simp [linesWeight]
  | cons line lines ih =>
    simp only [List.cons_append, linesWeight, ih]
    omega

theorem linesWeight_eq {lines : List Line} {rows : List Row} (h : List.Forall₂ Shows lines rows) :
    linesWeight lines = rowsWeight rows := by
  induction h with
  | nil => rfl
  | cons hline _ ih => simp [linesWeight, rowsWeight, hline.text, ih]

theorem exists_readDocument {lines : List Line} {d : Document} (h : ShowsDocument lines d)
    (nodes : Array Node) :
    ∃ root nodes', readDocument nodes lines = .ok (root, nodes') ∧ Adds nodes nodes' ∧
      HoldsDocument nodes' nodes.size root d := by
  obtain ⟨above, below, rfl, habove, hbelow⟩ := h
  have hstands :
      Stands { nodes, lines := above ++ below : Build }.toContent d.indent d.block below :=
    (before_of_collect habove (b := { nodes, lines := above ++ below : Build }) rfl).stands rfl
  obtain ⟨line, lines, hlines, hline, hrest⟩ := hstands.lines
  have hindent : line.indent = d.indent := hline.indent
  have hfuel : d.block.cost d.indent ≤ 4 * linesWeight (line :: (lines ++ below)) + 3 := by
    rw [Members.cost, linesWeight, linesWeight_append, linesWeight_eq hrest, hline.text]
    simp only
    omega
  obtain ⟨b', hnode, hcollect, hadds, hholds⟩ :=
    readsBlock_of_readsMembers (readsMembers d.block) _ hstands (.nothing hbelow) hfuel
  obtain ⟨hpending, hempty⟩ := Prod.mk.inj (hbelow.symm.trans hcollect)
  have hend : b'.toContent.lines = [] ∧ b'.toContent.pending = [] := by
    rw [toContent, ← hpending, ← hempty]
    exact ⟨rfl, rfl⟩
  refine ⟨{ node := some nodes.size }, b'.nodes, ?_, hadds, ⟨nodes.size, rfl, hholds⟩, rfl⟩
  unfold readDocument
  simp only [hlines, hindent, hnode, hend]
  rfl

theorem exists_readDocuments {chunks : List (Bool × List Line)} {ds : List Document}
    (h : List.Forall₂ (fun chunk d => ShowsDocument chunk.2 d) chunks ds) (nodes : Array Node) :
    ∃ roots nodes', readDocuments nodes chunks = .ok (roots, nodes') ∧ Adds nodes nodes' ∧
      List.Forall₂ (HoldsDocument nodes' nodes.size) roots ds ∧
      roots.map Root.isExplicit = chunks.map Prod.fst := by
  induction h generalizing nodes with
  | nil => exact ⟨[], nodes, rfl, ⟨Nat.le_refl _, fun _ _ => rfl⟩, .nil, rfl⟩
  | @cons chunk d chunks ds hchunk _ ih =>
    obtain ⟨root, middle, hroot, hadds, hholds⟩ := exists_readDocument hchunk nodes
    obtain ⟨roots, nodes', hroots, hadds', hholds', hflags⟩ := ih middle
    have hsize := hadds.size_le
    refine ⟨{ root with isExplicit := chunk.1 } :: roots, nodes', ?_, hadds.trans hadds', ?_, ?_⟩
    · simp only [readDocuments, hroot, hroots]
    · refine .cons ?_ (hholds'.imp fun root d hroot => hroot.congr hsize fun _ _ _ => rfl)
      have hkept := hholds.congr (Nat.le_refl _) fun i _ hi => hadds'.kept i hi
      exact ⟨hkept.node, hkept.comment⟩
    · simp [hflags]

/-! ### Streams -/

theorem numberLines_append (number : Nat) (a b : List (List Char)) :
    numberLines number (a ++ b) = numberLines number a ++ numberLines (number + a.length) b := by
  induction a generalizing number with
  | nil => rfl
  | cons cs a ih =>
    simp only [List.cons_append, numberLines, ih, List.length_cons]
    rw [Nat.add_assoc, Nat.add_comm 1]

theorem forall₂_numberLines {rows : List Row} (h : ∀ r ∈ rows, IsRowText r.text) (number : Nat) :
    List.Forall₂ Shows (numberLines number (rows.map Row.chars)) rows := by
  induction rows generalizing number with
  | nil => exact .nil
  | cons row rows ih =>
    exact .cons (shows_of number (h row (by simp))) (ih (fun r hr => h r (by simp [hr])) _)

/-- The rows of a document belong to the document that goes on behind them. -/
theorem chunkLines_append {lines rest chunk : List Line} {rows : List Row}
    {chunks : List (Bool × List Line)} (h : List.Forall₂ Shows lines rows)
    (hrest : chunkLines rest = .ok (chunk, chunks)) :
    chunkLines (lines ++ rest) = .ok (lines ++ chunk, chunks) := by
  induction h with
  | nil => exact hrest
  | @cons line row lines rows hline _ ih =>
    have hkind : line.kind = .comment ∨ line.kind = .content := by
      rw [hline.kind, Row.kind]
      split
      · exact .inl rfl
      · exact .inr rfl
    rcases hkind with hkind | hkind <;> simp [chunkLines, hkind, ih]

/-- An indicator starts a document. -/
theorem chunkLines_start {rest chunk : List Line} {chunks : List (Bool × List Line)}
    (hrest : chunkLines rest = .ok (chunk, chunks)) (number : Nat) :
    chunkLines (.of number ['-', '-', '-'] :: rest) = .ok ([], (true, chunk) :: chunks) := by
  have hkind : (Line.of number ['-', '-', '-']).kind = .documentStart := rfl
  have htext : Text.trim ((Line.of number ['-', '-', '-']).text.drop 3) = [] := rfl
  simp only [chunkLines, hkind, htext, hrest, List.nil_append]

/-- The lines of a document and of what is behind it. -/
theorem lines_document (d : Document) (rest : List Char) :
    Text.lines (d.text ++ rest) = (d.block.rows d.indent).map Row.chars ++ Text.lines rest :=
  lines_rowsText (fun r hr => (d.block.isRowText_rows d.indent r hr).isLine) rest

theorem lines_indicator (rest : List Char) :
    Text.lines ("---\n".toList ++ rest) = ['-', '-', '-'] :: Text.lines rest := by
  have hline : '\n' ∉ ['-', '-', '-'] := by decide
  exact Text.splitOn_append hline rest

/-- A document at the start of a text, if what is behind it has blank lines up to an indicator. -/
theorem exists_chunkLines_document {d : Document} {number : Nat} {rest : List Char}
    {blanks : List Line} {chunks : List (Bool × List Line)}
    (hrest : chunkLines (numberLines (number + (d.block.rows d.indent).length) (Text.lines rest)) =
      .ok (blanks, chunks)) (hblanks : collect [] blanks = ([], [])) :
    ∃ lines, chunkLines (numberLines number (Text.lines (d.text ++ rest))) = .ok (lines, chunks) ∧
      ShowsDocument lines d := by
  have hrows := forall₂_numberLines (d.block.isRowText_rows d.indent) number
  refine ⟨_, ?_, _, blanks, rfl, hrows, hblanks⟩
  rw [lines_document, numberLines_append, List.length_map]
  exact chunkLines_append hrows hrest

/-- The lines of documents after indicators: blank lines before the first of them, and each
document. -/
theorem exists_chunkLines (ds : List Document) (number : Nat) :
    ∃ blanks chunks,
      chunkLines (numberLines number (Text.lines
        (ds.flatMap fun d => "---\n".toList ++ d.text))) = .ok (blanks, chunks) ∧
      collect [] blanks = ([], []) ∧ blanks.all (·.kind == .blank) = true ∧
      List.Forall₂ (fun chunk d => chunk.1 = true ∧ ShowsDocument chunk.2 d) chunks ds := by
  induction ds generalizing number with
  | nil =>
    -- the text behind the last line feed is a blank line
    exact ⟨[.of number []], [], rfl, rfl, rfl, .nil⟩
  | cons d ds ih =>
    obtain ⟨blanks, chunks, hchunks, hcollect, -, hshows⟩ := ih _
    obtain ⟨lines, hdocument, hlines⟩ := exists_chunkLines_document hchunks hcollect
    refine ⟨[], (true, lines) :: chunks, ?_, rfl, rfl, .cons ⟨rfl, hlines⟩ hshows⟩
    rw [List.flatMap_cons, List.append_assoc, lines_indicator, numberLines]
    exact chunkLines_start hdocument number

theorem ShowsDocument.all_blank_eq {lines : List Line} {d : Document} (h : ShowsDocument lines d) :
    lines.all (·.kind == .blank) = false := by
  obtain ⟨above, below, rfl, habove, -⟩ := h
  obtain ⟨comments, line, more, rfl, -, hline, -⟩ := exists_of_forall₂_rows habove
  simp [kind_of_shows_first hline]

/-- The documents of a stream, as lines. -/
theorem exists_documentLines (isExplicit : Bool) (first : Document) (more : List Document) :
    ∃ lines chunks, documentLines (streamText isExplicit first more) =
        .ok ((isExplicit, lines) :: chunks) ∧ ShowsDocument lines first ∧
      List.Forall₂ (fun chunk d => ShowsDocument chunk.2 d) chunks more := by
  cases isExplicit with
  | true =>
    obtain ⟨blanks, chunks, hchunks, -, hblank, hshows⟩ := exists_chunkLines (first :: more) 1
    obtain ⟨⟨flag, lines⟩, chunks, ⟨hflag, hlines⟩, hmore, rfl⟩ :=
      List.forall₂_cons_right_iff.1 hshows
    have hstream : streamText true first more =
        (first :: more).flatMap fun d => "---\n".toList ++ d.text := by
      simp [streamText]
    refine ⟨lines, chunks, ?_, hlines, hmore.imp fun _ _ h => h.2⟩
    obtain rfl : flag = true := hflag
    rw [documentLines, hstream, hchunks]
    simp only [hblank, if_true]
  | false =>
    obtain ⟨blanks, chunks, hchunks, hcollect, -, hshows⟩ := exists_chunkLines more _
    obtain ⟨lines, hdocument, hlines⟩ := exists_chunkLines_document hchunks hcollect
    refine ⟨lines, chunks, ?_, hlines, hshows.imp fun _ _ h => h.2⟩
    have hstream : streamText false first more =
        first.text ++ more.flatMap fun d => "---\n".toList ++ d.text := by
      simp [streamText]
    rw [documentLines, hstream, hdocument]
    cases chunks with
    | nil => rfl
    | cons chunk chunks => simp [hlines.all_blank_eq]

/-! ### Canonical texts -/

/-- A text that is the rendering of one or more documents. -/
def IsCanonical (text : String) : Prop :=
  ∃ isExplicit first more, text = String.ofList (streamText isExplicit first more)

/-- A canonical text that can be decoded is a manifest, and it is written as it stood. -/
theorem exists_parse_of_isCanonical {text : String} (h : IsCanonical text)
    (hdecode : (Yaml.decodeAll? text.toList).isSome = true) :
    ∃ m, parse text = .ok m ∧ m.text = text := by
  obtain ⟨isExplicit, first, more, rfl⟩ := h
  obtain ⟨lines, chunks, hchunks, hlines, hmore⟩ := exists_documentLines isExplicit first more
  obtain ⟨roots, nodes, hread, -, hholds, hflags⟩ :=
    exists_readDocuments (.cons (a := (isExplicit, lines)) hlines hmore) #[]
  obtain ⟨root, roots, hroot, hroots, rfl⟩ := List.forall₂_cons_right_iff.1 hholds
  obtain ⟨values, hvalues⟩ := Option.isSome_iff_exists.1 hdecode
  have hflag : root.isExplicit = isExplicit := by
    simpa using congrArg List.head? hflags
  refine ⟨{ nodes, documents := root :: roots }, ?_, ?_⟩
  · rw [String.toList_ofList] at hvalues
    simp only [parse, String.toList_ofList, hvalues, ofLayout, hchunks, hread]
  · rw [text_of_holds rfl hroot hroots, hflag]

/-- A document with comments that hold colons, a sequence at the indentation of its key, and a
mapping behind a dash with a block below its second key. -/
def nestedDocument : Document where
  indent := 0
  shape := .mapping
  block :=
    .blockPair [⟨"# Service: main".toList, rfl, by decide, by rintro _ ⟨⟩; rfl⟩]
      ⟨"meta".toList, by decide⟩
      (some ⟨"# key: value".toList, rfl, by decide, by rintro _ ⟨⟩; rfl⟩) 1
      (.scalarPair [] ⟨"name".toList, by decide⟩ ⟨"web".toList, by decide⟩
          (some ⟨"# a: b".toList, rfl, by decide, by rintro _ ⟨⟩; rfl⟩) <|
        .blockPair [⟨"# ports".toList, rfl, by decide, by rintro _ ⟨⟩; rfl⟩]
          ⟨"ports".toList, by decide⟩ none 0
          (.mappingItem 1
              (.scalarPair [⟨"# first".toList, rfl, by decide, by rintro _ ⟨⟩; rfl⟩]
                  ⟨"port".toList, by decide⟩ ⟨"80".toList, by decide⟩ none <|
                .blockPair [] ⟨"tags".toList, by decide⟩ none 1
                  (.scalarItem [] ⟨"a.b/c".toList, by decide⟩ none (.nil _)) (.nil _)) <|
            .scalarItem [] ⟨"tcp".toList, by decide⟩ none (.nil _)) (.nil _)) (.nil _)

/-- A document with one item. -/
def itemDocument : Document where
  indent := 0
  shape := .sequence
  block := .scalarItem [] ⟨"x".toList, by decide⟩ none (.nil _)

/-- The text of both documents. -/
def nestedText : String :=
  "# Service: main\nmeta: # key: value\n  name: web # a: b\n  # ports\n  ports:\n" ++
    "  # first\n  -  port: 80\n     tags:\n      - a.b/c\n  - tcp\n---\n- x\n"

theorem exists_parse_of_isCanonical_nested :
    IsCanonical nestedText ∧ (Yaml.decodeAll? nestedText.toList).isSome = true ∧
      ∃ m, parse nestedText = .ok m ∧ m.text = nestedText := by
  have hcanonical : IsCanonical nestedText := by
    refine ⟨false, nestedDocument, [itemDocument], String.toList_inj.1 ?_⟩
    unfold nestedText
    rw [String.toList_append, String.toList_ofList, String.toList_ofList, String.toList_ofList]
    decide +kernel
  have hdecode : (Yaml.decodeAll? nestedText.toList).isSome = true := by
    unfold nestedText
    rw [String.toList_append, String.toList_ofList, String.toList_ofList]
    decide +kernel
  exact ⟨hcanonical, hdecode, exists_parse_of_isCanonical hcanonical hdecode⟩

end ManifestMarkers.Manifest.Canonical
