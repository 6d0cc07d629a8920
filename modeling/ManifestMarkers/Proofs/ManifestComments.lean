import ManifestMarkers.Proofs.BuildComments

/-!
# Comments of a manifest

The books of the builder: the comments after a run and the lost ones are those before and the ones
that were read.

* `spares_of_reads`: a task leaves the comments above and behind the nodes so far alone.
* `ownComments_of_reads`: what a scalar below a dash has got is what it loses.
* `settles_of_reads`: every task balances.
* `comments_of_parse`: the comments of a manifest and the lost ones are those that are read from its
  text. Scalars below a dash lose comments, and nothing else does.
-/

namespace ManifestMarkers.Manifest

/-! ### Nodes keep their comments -/

/-- The nodes so far keep the comments above and behind them. -/
structure Spares (nodes nodes' : Array Node) : Prop where
  size_le : nodes.size ≤ nodes'.size
  kept : ∀ i < nodes.size, ownComments nodes' i = ownComments nodes i

section

variable {nodes middle nodes' : Array Node} {id : Nat}

theorem Spares.refl (nodes : Array Node) : Spares nodes nodes := ⟨Nat.le_refl _, fun _ _ => rfl⟩

theorem Spares.trans (h : Spares nodes middle) (h' : Spares middle nodes') :
    Spares nodes nodes' := by
  have hsize := h.size_le
  refine ⟨Nat.le_trans hsize h'.size_le, fun i hi => ?_⟩
  rw [h'.kept i (by omega), h.kept i hi]

section

variable {b : Build} (h : Spares nodes b.nodes)

include h

theorem Spares.push (n : Node) : Spares nodes (b.push n).2.nodes := by
  have hsize := h.size_le
  refine ⟨by simp; omega, fun i hi => ?_⟩
  rw [← h.kept i hi, ownComments, ownComments, Build.push, Array.getElem?_push, if_neg (by omega)]

/-- A new node may change in any way. -/
theorem Spares.modify (hid : nodes.size ≤ id) (f : Node → Node) :
    Spares nodes (b.modify id f).nodes := by
  refine ⟨by simpa using h.size_le, fun i hi => ?_⟩
  rw [← h.kept i hi, ownComments, ownComments, Build.modify, Array.getElem?_modify,
    if_neg (by omega)]

theorem Spares.modify_eq {f : Node → Node} (hf : ∀ n, (f n).ownComments = n.ownComments) :
    Spares nodes (b.modify id f).nodes := by
  refine ⟨by simpa using h.size_le, fun i hi => ?_⟩
  rw [← h.kept i hi, ownComments, ownComments, Build.modify, Array.getElem?_modify]
  split
  · cases b.nodes[i]? <;> simp [hf]
  · rfl

theorem Spares.addContent (ids : List Nat) : Spares nodes (b.addContent id ids).nodes := by
  apply h.modify_eq
  exact fun _ => rfl

theorem Spares.setProperties (v : InlineValue) : Spares nodes (b.setProperties id v).nodes := by
  apply h.modify_eq
  exact fun _ => rfl

theorem Spares.withFoot (last : Option Nat) (indent : Nat) :
    Spares nodes (b.withFoot last indent).nodes := by
  cases last with
  | none => exact h
  | some id =>
    show Spares nodes (b.attachFoot id indent).nodes
    unfold Build.attachFoot
    dsimp only
    split
    · exact h
    · apply Spares.modify_eq
      · exact h
      · exact fun _ => rfl

end

end

/-- Whether a task gives a new node. -/
def Task.IsFresh : Task → Prop
  | .node _ | .nested _ _ _ _ => True
  | _ => False

/-- A task leaves the comments of the nodes so far alone. -/
theorem spares_of_reads {task : Task} {b b' : Build} {t : Tally} {id : Nat}
    (h : Reads task b t id b') :
    Spares b.nodes b'.nodes ∧ (task.IsFresh → b.nodes.size ≤ id ∧ id < b'.nodes.size) := by
  induction h with
  | @sequence indent line lines b b' t hlines hitem h ih =>
    have hsize : b.nodes.size + 1 ≤ b'.nodes.size := by simpa using ih.1.size_le
    exact ⟨((Spares.refl b.nodes).push _).trans ih.1, fun _ => ⟨Nat.le_refl _, hsize⟩⟩
  | @mapping indent line lines b b' t hlines hkey h ih =>
    have hsize : b.nodes.size + 1 ≤ b'.nodes.size := by simpa using ih.1.size_le
    exact ⟨((Spares.refl b.nodes).push _).trans ih.1, fun _ => ⟨Nat.le_refl _, hsize⟩⟩
  | @scalarLine indent line lines rest n b hlines hitem hkey hn =>
    have hscalar : Spares b.nodes (b.addScalarLine n rest).nodes := (Spares.refl b.nodes).push _
    exact ⟨hscalar, fun _ => ⟨Nat.le_refl _, by simp⟩⟩
  | @pairsEnd mapping indent last b hend =>
    exact ⟨(Spares.refl b.toContent.nodes).withFoot last indent, False.elim⟩
  | @inlinePair mapping indent last line lines lines' keyText keyValue rest n b b' t hlines hindent
      hkey hn h ih =>
    have hkeyed : Spares b.nodes (b.toContent.addKey line indent keyText keyValue).nodes :=
      (Spares.refl b.nodes).push _
    have hpair : Spares b.nodes
        ((b.toContent.addKey line indent keyText keyValue).addScalar n lines').nodes :=
      hkeyed.push n
    exact ⟨(hpair.addContent _).trans ih.1, False.elim⟩
  | @nestedPair mapping indent value last line lines keyText keyValue rest b c b' s t hlines hindent
      hkey hempty hvalue h ihvalue ih =>
    have hkeyed : Spares b.nodes (b.toContent.addKey line indent keyText keyValue).nodes :=
      (Spares.refl b.nodes).push _
    have htrail : Spares b.nodes ((b.toContent.addKey line indent keyText keyValue).setTrail
      b.nodes.size line (splitValue rest)).nodes := hkeyed.modify (Nat.le_refl _) _
    exact ⟨(((htrail.trans ihvalue.1).setProperties _).addContent _).trans ih.1, False.elim⟩
  | @itemsEnd sequence indent last b hend =>
    exact ⟨(Spares.refl b.toContent.nodes).withFoot last indent, False.elim⟩
  | @nestedItem sequence indent id last line lines b c b' s t hlines hindent hitem hempty hvalue h
      ihvalue ih =>
    have hc : Spares b.nodes c.nodes := ihvalue.1
    -- only the item gets other comments, and it is new
    have hset : Spares b.nodes (c.setItem b.toContent id line (dashValue line)).nodes :=
      (hc.setProperties _).modify (ihvalue.2 trivial).1 _
    exact ⟨(hset.addContent _).trans ih.1, False.elim⟩
  | @compactItem sequence indent id last line lines b c b' s t hlines hindent hitem hvalue h ihvalue
      ih =>
    have hc : Spares b.nodes c.nodes := ihvalue.1
    exact ⟨(hc.addContent _).trans ih.1, False.elim⟩
  | @deeper indent number column id allowSequence line lines b b' t hlines hindent h ih =>
    exact ⟨ih.1, fun _ => ih.2 trivial⟩
  | @missing indent number column allowSequence b hnone =>
    exact ⟨(Spares.refl b.toContent.nodes).push _, fun _ => ⟨Nat.le_refl _, by simp⟩⟩

/-- A collection has no comments above or behind it when it has been read. -/
theorem ownComments_of_reads_collection {task : Task} {kind : NodeKind} {line : Line} {indent : Nat}
    {b b' : Build} {t : Tally} {id : Nat}
    (h : Reads task (b.push (emptyCollection kind line indent)).2 t id b') :
    ownComments b'.nodes b.nodes.size = [] := by
  rw [(spares_of_reads h).1.kept b.nodes.size (by simp)]
  exact ownComments_push b.nodes (emptyCollection kind line indent)

/-- What stands below a dash has the comments that will be lost. -/
theorem ownComments_of_reads {indent number column id : Nat} {b b' : Build} {t : Tally}
    (h : Reads (.nested indent false number column) b t id b') (hplain : b.Plain)
    (hpending : b.pending = []) : ownComments b'.nodes id = b.lostBelow indent t.read := by
  unfold Build.lostBelow
  cases h with
  | @deeper _ _ _ _ _ line lines _ _ t hlines hindent h =>
    rw [hlines]
    dsimp only
    cases h with
    | @sequence _ first more _ _ _ hfirst hitem h =>
      obtain ⟨rfl, rfl⟩ := List.cons.inj (hlines.symm.trans hfirst)
      rw [if_neg (by simp [hitem])]
      exact ownComments_of_reads_collection h
    | @mapping _ first more _ _ _ hfirst hkey h =>
      obtain ⟨rfl, rfl⟩ := List.cons.inj (hlines.symm.trans hfirst)
      rw [if_neg (by simp [Option.isSome_iff_ne_none.1 hkey])]
      exact ownComments_of_reads_collection h
    | @scalarLine _ first more rest n _ hfirst hitem hkey hn =>
      obtain ⟨rfl, rfl⟩ := List.cons.inj (hlines.symm.trans hfirst)
      have hlt : indent < line.indent := by simpa using hindent
      rw [if_pos ⟨hlt, hitem, hkey⟩]
      have hahead : b.toContent.pending.map Pending.text = commentsAhead b.lines := by
        have hcollect : b.toContent.pending.map Pending.text = _ :=
          map_text_collect b.pending b.lines
        rw [hcollect, hpending, List.map_nil, List.nil_append]
      have hnode : ownComments (b.toContent.addScalarLine n rest).nodes b.toContent.nodes.size =
          (b.toContent.withHead n).ownComments := ownComments_push _ _
      rw [hnode]
      simp [Node.ownComments, Build.withHead, commentParts_joinPending hplain.toContent.pending,
        hahead, (hasTrail_of_scalarNode hn).trail]
  | missing hnone =>
    have hnode : ownComments (b.toContent.push (missingNode number column)).2.nodes
        b.nodes.size = [] := ownComments_push _ _
    rw [hnode]
    split
    · rfl
    · next line lines hlines =>
      have hle : line.indent ≤ indent := hnone line (by rw [hlines]; rfl)
      rw [if_neg (by omega)]

/-! ### Runs balance -/

/-- The comments after a run and the lost ones are those before and the ones that were read. -/
def Balances (b : Build) (t : Tally) (b' : Build) : Prop :=
  ∀ x, b'.comments.count x + t.lost.count x = b.comments.count x + t.read.count x

section

variable {b c b' : Build} {s t : Tally}

theorem Balances.trans (h : Balances b s c) (h' : Balances c t b') : Balances b (s ++ t) b' := by
  intro x
  have hx := h x
  have hx' := h' x
  simp only [Tally.read_append, Tally.lost_append, List.count_append]
  omega

/-- Comments that are read are put down. -/
theorem balances_of_eq {cs : List (List Char)} (h : b'.comments = b.comments ++ cs) :
    Balances b { read := cs } b' := by
  intro x
  rw [h, List.count_append]
  rfl

theorem balances_toContent (b : Build) : Balances b { read := commentsAhead b.lines } b.toContent :=
  balances_of_eq b.comments_toContent

end

/-- The last key or item of the collection that a task goes on with, if there is one. -/
def Task.last : Task → Option Nat
  | .pairs _ _ last | .items _ _ last => last
  | _ => none

/-- What a task does to the comments. -/
structure Settles (b : Build) (t : Tally) (b' : Build) : Prop where
  plain : b'.Plain
  balances : Balances b t b'

section

variable {b c b' : Build} {s t : Tally}

/-- A step and a task after it. -/
theorem Settles.after (h : Settles c t b') (hbalances : Balances b s c) : Settles b (s ++ t) b' :=
  ⟨h.plain, hbalances.trans h.balances⟩

/-- A step that leaves the comments as they are, and a task after it. -/
theorem Settles.after_eq (h : Settles c t b') (hcomments : c.comments = b.comments) :
    Settles b t b' := by
  have hsame : Balances b {} c := fun x => by rw [hcomments]
  exact h.after hsame

end

/-- The end of a collection. -/
theorem settles_end {b : Build} {indent : Nat} {last : Option Nat} (hplain : b.Plain)
    (hlast : ∀ i ∈ last, i < b.nodes.size) :
    Settles b { read := commentsAhead b.lines } (b.toContent.withFoot last indent) := by
  refine ⟨hplain.toContent.withFoot last indent, fun x => ?_⟩
  have hfoot := Build.count_withFoot (b := b.toContent) hlast hplain.toContent.pending indent x
  rw [hfoot]
  exact balances_toContent b x

/-- The lines behind the current one and a scalar. -/
theorem plainLines_of_scalarNode {v : InlineValue} {line : Line} {parent column : Nat}
    {lines rest : List Line} {n : Node} (h : PlainLines (line :: lines))
    (hn : scalarNode v line parent column lines = .ok (n, rest)) : PlainLines rest :=
  (h.suffix (List.suffix_cons line lines)).suffix (scalarNode_suffix hn)

/-- Every task keeps the books. -/
theorem settles_of_reads {task : Task} {b b' : Build} {t : Tally} {id : Nat}
    (h : Reads task b t id b') (hplain : b.Plain) (hlast : ∀ i ∈ task.last, i < b.nodes.size) :
    Settles b t b' := by
  -- comments are counted one by one, which is why those that wait have to be single lines
  induction h with
  | @sequence indent line lines b b' t hlines hitem h ih =>
    have hitems := ih ⟨hplain.pending, hplain.lines⟩ (by simp [Task.last])
    exact hitems.after_eq (b.comments_push rfl)
  | @mapping indent line lines b b' t hlines hkey h ih =>
    have hpairs := ih ⟨hplain.pending, hplain.lines⟩ (by simp [Task.last])
    exact hpairs.after_eq (b.comments_push rfl)
  | @scalarLine indent line lines rest n b hlines hitem hkey hn =>
    have hrest := plainLines_of_scalarNode (hlines ▸ hplain.lines) hn
    have hcomments := Build.comments_addScalarLine hplain.pending (hasTrail_of_scalarNode hn) rest
    exact ⟨.of_lines hrest rfl, balances_of_eq hcomments⟩
  | @pairsEnd mapping indent last b hend => exact settles_end hplain hlast
  | @inlinePair mapping indent last line lines lines' keyText keyValue rest n b b' t hlines hindent
      hkey hn h ih =>
    have hstart := hplain.toContent
    have hlines' := plainLines_of_scalarNode (hlines ▸ hstart.lines) hn
    have hsize : (((b.toContent.addKey line indent keyText keyValue).addScalar n lines').addContent
        mapping [b.nodes.size, b.nodes.size + 1]).nodes.size = b.nodes.size + 1 + 1 := by simp
    have hmore := ih (.of_lines hlines' rfl) (by rintro i ⟨⟩; omega)
    refine Settles.after (c := b.toContent) ?_ (balances_toContent b)
    refine hmore.after (balances_of_eq ?_)
    rw [Build.comments_addContent, Build.comments_addScalar rfl (hasTrail_of_scalarNode hn) lines',
      Build.comments_addKey hstart.pending]
    rfl
  | @nestedPair mapping indent value last line lines keyText keyValue rest b c b' s t hlines hindent
      hkey hempty hvalue h ihvalue ih =>
    have hstart := hplain.toContent
    have hbelow := hstart.lines.suffix (List.drop_suffix 1 _)
    have hread := ihvalue (.of_lines hbelow rfl) (by simp [Task.last])
    have hsize : b.nodes.size + 1 ≤ c.nodes.size := by
      simpa using (spares_of_reads hvalue).1.size_le
    have hmore := ih ⟨hread.plain.pending, hread.plain.lines⟩ (by
      rintro i ⟨⟩
      rwa [Build.size_addContent, Build.size_setProperties])
    have hc : Settles c t b' := hmore.after_eq (by simp)
    have htrail := Build.comments_setTrail hstart.pending line indent keyText keyValue
      (splitValue rest)
    refine Settles.after (c := b.toContent) ?_ (balances_toContent b)
    exact hc.after ((balances_of_eq htrail).trans hread.balances)
  | @itemsEnd sequence indent last b hend => exact settles_end hplain hlast
  | @nestedItem sequence indent id last line lines b c b' s t hlines hindent hitem hempty hvalue h
      ihvalue ih =>
    have hstart := hplain.toContent
    have hbelow := hstart.lines.suffix (List.drop_suffix 1 _)
    have hread := ihvalue (.of_lines hbelow rfl) (by simp [Task.last])
    have hid : id < c.nodes.size := ((spares_of_reads hvalue).2 trivial).2
    have hmore := ih ⟨hread.plain.pending, hread.plain.lines⟩ (by simpa [Task.last] using hid)
    have hnext := hmore.after_eq (b := c.setItem b.toContent id line (dashValue line)) (by simp)
    refine Settles.after (c := b.toContent) ?_ (balances_toContent b)
    refine ⟨hnext.plain, fun x => ?_⟩
    -- the comments at the dash are in no build while the item is read, and are given to it then
    have hdash : b.toContent.dropLine.clearPending.comments.count x +
        (b.toContent.pending.map Pending.text).count x = b.toContent.comments.count x := by
      simp [Build.comments, Build.clearPending, Build.dropLine]
    have hset := Build.count_setItem hid hstart.pending line (dashValue line) x
    rw [ownComments_of_reads hvalue (.of_lines hbelow rfl) rfl] at hset
    have hbalance := hread.balances x
    have hrest := hnext.balances x
    simp only [Tally.read_append, Tally.lost_append, List.count_append, List.count_nil]
    omega
  | @compactItem sequence indent id last line lines b c b' s t hlines hindent hitem hvalue h ihvalue
      ih =>
    have hread := ihvalue (hplain.toContent.behindDash hlines _) (by simp [Task.last])
    have hid : id < c.nodes.size := ((spares_of_reads hvalue).2 trivial).2
    have hmore := ih ⟨hread.plain.pending, hread.plain.lines⟩ (by simpa [Task.last] using hid)
    have hc : Settles c t b' := hmore.after_eq (by simp)
    refine Settles.after (c := b.toContent) ?_ (balances_toContent b)
    exact hc.after hread.balances
  | @deeper indent number column id allowSequence line lines b b' t hlines hindent h ih =>
    exact (ih hplain.toContent (by simp [Task.last])).after (balances_toContent b)
  | @missing indent number column allowSequence b hnone =>
    have hcomments : (b.toContent.push (missingNode number column)).2.comments =
        b.comments ++ commentsAhead b.lines := by
      rw [Build.comments_push _ rfl, Build.comments_toContent]
    exact ⟨⟨hplain.toContent.pending, hplain.toContent.lines⟩, balances_of_eq hcomments⟩

/-! ### Documents -/

/-- The comments that belong to no node of a document. -/
def Root.comments (r : Root) : List (List Char) := commentParts r.comment

theorem count_of_readsDocument {nodes nodes' : Array Node} {lines : List Line} {t : Tally}
    {root : Root} (h : ReadsDocument nodes lines t root nodes') (hlines : PlainLines lines)
    (x : List Char) :
    (nodeComments nodes').count x + root.comments.count x + t.lost.count x =
      (nodeComments nodes).count x + t.read.count x := by
  -- a document ends without lines, and what waits then is the comment of its root
  have hroot {b : Build} {r : Root} (hcomment : r.comment = joinPending b.pending)
      (hplain : b.Plain) (hbalances : Balances { nodes, lines } t b) :
      (nodeComments b.nodes).count x + r.comments.count x + t.lost.count x =
        (nodeComments nodes).count x + t.read.count x := by
    have hx := hbalances x
    rw [Root.comments, hcomment, commentParts_joinPending hplain.pending]
    simpa [Build.comments, List.count_append] using hx
  have hinit : Build.Plain { nodes, lines } := .of_lines hlines rfl
  have hstart := balances_toContent { nodes, lines }
  cases h with
  | empty hend => exact hroot (b := Build.start nodes lines) rfl hinit.toContent hstart
  | @node line rest b t id hfirst h hend =>
    have hread := settles_of_reads h hinit.toContent (by simp [Task.last])
    exact hroot (b := b.toContent) rfl hread.plain.toContent
      (hstart.trans (hread.balances.trans (balances_toContent _)))

theorem count_of_readDocuments {nodes nodes' : Array Node} {chunks : List (Bool × List Line)}
    {roots : List Root} (h : readDocuments nodes chunks = .ok (roots, nodes'))
    (hlines : ∀ chunk ∈ chunks, PlainLines chunk.2) (x : List Char) :
    (nodeComments nodes').count x + (roots.flatMap Root.comments).count x +
      (documentsTally nodes chunks).lost.count x =
        (nodeComments nodes).count x + (documentsTally nodes chunks).read.count x := by
  induction chunks generalizing nodes roots with
  | nil =>
    cases h
    rfl
  | cons chunk chunks ih =>
    unfold readDocuments at h
    split at h
    · cases h
    · next root middle hroot =>
      have htally : documentsTally nodes (chunk :: chunks) =
          documentTally nodes chunk.2 ++ documentsTally middle chunks := by
        rw [documentsTally, hroot]
      have hfirst := count_of_readsDocument (readsDocument_of_readDocument hroot)
        (hlines chunk (by simp)) x
      split at h
      · cases h
      · next more final hmore =>
        cases h
        have hrest := ih hmore fun c hc => hlines c (by simp [hc])
        have hcomments : ({ root with isExplicit := chunk.1 } : Root).comments = root.comments :=
          rfl
        rw [htally, List.flatMap_cons, hcomments]
        simp only [List.count_append, Tally.lost_append, Tally.read_append]
        omega

/-! ### Lines of a text -/

/-- A line of a text: its text is one line, and not empty if it is a comment. -/
structure Line.IsPlain (l : Line) : Prop where
  oneLine : '\n' ∉ l.text
  ne_nil : l.kind = .comment → l.text ≠ []

theorem subset_dropCarriageReturn (cs : List Char) : dropCarriageReturn cs ⊆ cs := by
  unfold dropCarriageReturn
  split
  · next rest hreverse =>
    intro c hc
    rw [← List.mem_reverse, hreverse]
    exact List.mem_cons_of_mem _ (List.mem_reverse.1 hc)
  · exact fun _ => id

theorem isPlain_of (number : Nat) {cs : List Char} (h : '\n' ∉ cs) :
    (Line.of number cs).IsPlain := by
  constructor
  · intro hmem
    have hindented := (Text.trimEnd_prefix _).subset hmem
    have hraw := (List.dropWhile_suffix _).subset hindented
    exact h (subset_dropCarriageReturn cs hraw)
  · intro hkind hnil
    have hblank : (Line.of number cs).kind = .blank := by
      show lineKind _ (Line.of number cs).text = .blank
      rw [hnil]
      rfl
    rw [hblank] at hkind
    cases hkind

theorem isPlain_numberLines {number : Nat} {parts : List (List Char)}
    (h : ∀ part ∈ parts, '\n' ∉ part) : ∀ l ∈ numberLines number parts, l.IsPlain := by
  induction parts generalizing number with
  | nil => nofun
  | cons part parts ih =>
    intro l hl
    rcases List.mem_cons.1 hl with rfl | hl
    · exact isPlain_of number (h part (by simp))
    · exact ih (fun p hp => h p (by simp [hp])) l hl

theorem plainLines_cons {line : Line} {lines : List Line} (h : line.IsPlain)
    (hlines : PlainLines lines) : PlainLines (line :: lines) := by
  intro l hl hkind
  rcases List.mem_cons.1 hl with rfl | hl
  · exact ⟨h.ne_nil hkind, h.oneLine⟩
  · exact hlines l hl hkind

/-- The comment behind an indicator. -/
theorem isPlain_indicator {line : Line} (h : line.IsPlain) {rest : List Char} {c : Char}
    (hrest : Text.trim (line.text.drop 3) = c :: rest) :
    ({ line with kind := .comment, text := c :: rest } : Line).IsPlain := by
  refine ⟨fun hmem => h.oneLine ?_, fun _ => List.cons_ne_nil c rest⟩
  have hmem : '\n' ∈ Text.trim (line.text.drop 3) := hrest ▸ hmem
  have hstart := (Text.trimEnd_prefix _).subset hmem
  exact List.mem_of_mem_drop ((List.dropWhile_suffix _).subset hstart)

theorem plainLines_of_chunkLines {lines chunk : List Line} {chunks : List (Bool × List Line)}
    (h : chunkLines lines = .ok (chunk, chunks)) (hlines : ∀ l ∈ lines, l.IsPlain) :
    PlainLines chunk ∧ ∀ c ∈ chunks, PlainLines c.2 := by
  induction lines generalizing chunk chunks with
  | nil =>
    cases h
    exact ⟨nofun, nofun⟩
  | cons line lines ih =>
    have hline := hlines line (by simp)
    have hmore : ∀ l ∈ lines, l.IsPlain := fun l hl => hlines l (by simp [hl])
    unfold chunkLines at h
    split at h
    · dsimp only at h
      split at h
      · cases h
      · next first hfirst =>
        split at h
        · cases h
        · next chunk' chunks' hrest =>
          cases h
          obtain ⟨hchunk, hchunks⟩ := ih hrest hmore
          refine ⟨nofun, fun c hc => ?_⟩
          rcases List.mem_cons.1 hc with rfl | hc
          · split at hfirst
            · cases hfirst
              exact hchunk
            · next rest hrest =>
              -- the comment behind an indicator is a line of the document that starts there
              cases hfirst
              exact plainLines_cons (hrest ▸ isPlain_indicator hline hrest) hchunk
            · cases hfirst
          · exact hchunks c hc
    · exact ih h hmore
    · split at h
      · cases h
      · next chunk' chunks' hrest =>
        cases h
        obtain ⟨hchunk, hchunks⟩ := ih hrest hmore
        exact ⟨plainLines_cons hline hchunk, hchunks⟩

theorem plainLines_of_documentLines {cs : List Char} {chunks : List (Bool × List Line)}
    (h : documentLines cs = .ok chunks) : ∀ c ∈ chunks, PlainLines c.2 := by
  have hall : ∀ l ∈ numberLines 1 (Text.lines cs), l.IsPlain :=
    isPlain_numberLines fun _ => Text.notMem_of_mem_splitOn
  unfold documentLines at h
  split at h
  · cases h
  · next first hchunks =>
    cases h
    intro c hc
    obtain rfl := List.mem_singleton.1 hc
    exact (plainLines_of_chunkLines hchunks hall).1
  · next first chunks hne hchunks =>
    obtain ⟨hfirst, hrest⟩ := plainLines_of_chunkLines hchunks hall
    cases h
    split
    · exact hrest
    · intro c hc
      rcases List.mem_cons.1 hc with rfl | hc
      · exact hfirst
      · exact hrest c hc

/-! ### Manifests -/

/-- The comments that are read from a text, and those that are lost. -/
def textTally (text : String) : Tally :=
  match documentLines text.toList with
  | .error _ => {}
  | .ok chunks => documentsTally #[] chunks

/-- The comments of all nodes in the order of the document, and those that belong to no node. -/
def comments (m : Manifest) : List (List Char) :=
  (m.preorder.flatMap fun id => (m.node? id).elim [] Node.comments) ++
    m.documents.flatMap Root.comments

theorem flatMap_range_elim {α β : Type} (xs : Array α) (view : α → List β) :
    ((List.range xs.size).flatMap fun i => xs[i]?.elim [] view) = xs.toList.flatMap view := by
  rw [List.flatMap_def, List.flatMap_def]
  congr 1
  apply List.ext_getElem?
  intro i
  by_cases hi : i < xs.size
  · simp [hi]
  · simp [hi]

theorem count_of_parse {text : String} {m : Manifest} (h : parse text = .ok m) (x : List Char) :
    m.comments.count x + (textTally text).lost.count x = (textTally text).read.count x := by
  have hnodes : (m.preorder.flatMap fun id => (m.node? id).elim [] Node.comments) =
      nodeComments m.nodes := by
    rw [preorder_of_parse h]
    exact flatMap_range_elim m.nodes Node.comments
  rw [comments, hnodes, List.count_append]
  unfold parse at h
  split at h
  · cases h
  · unfold ofLayout at h
    split at h
    · cases h
    · next chunks hchunks =>
      have htally : textTally text = documentsTally #[] chunks := by rw [textTally, hchunks]
      rw [htally]
      split at h
      · cases h
      · next documents nodes hdocuments =>
        cases h
        have hcount := count_of_readDocuments hdocuments (plainLines_of_documentLines hchunks) x
        simpa [nodeComments] using hcount

/-- The comments of a manifest and the lost ones are those that are read from its text. So all are
kept exactly when none is lost. -/
theorem comments_of_parse {text : String} {m : Manifest} (h : parse text = .ok m) :
    (textTally text).read.Perm (m.comments ++ (textTally text).lost) ∧
      ((textTally text).read.Perm m.comments ↔ (textTally text).lost = []) := by
  have hperm : (textTally text).read.Perm (m.comments ++ (textTally text).lost) := by
    rw [List.perm_iff_count]
    intro x
    rw [List.count_append, count_of_parse h]
  refine ⟨hperm, fun hall => ?_, fun hlost => ?_⟩
  · have hlength := hperm.length_eq
    rw [List.length_append, hall.length_eq] at hlength
    exact List.length_eq_zero_iff.1 (by omega)
  · rwa [hlost, List.append_nil] at hperm

/-- Comments above and below a key, behind a closing quote, an indicator and a dash, and behind a
value are kept. -/
theorem comments_of_parse_kept : ∃ m,
    parse "# a\nk: \"x\n  y\" # b\n  # c\n--- # d\n- # e\n  l: m # f\n" = .ok m ∧
      m.comments.length = 6 ∧
      (textTally "# a\nk: \"x\n  y\" # b\n  # c\n--- # d\n- # e\n  l: m # f\n").read.Perm
        m.comments := by
  have hlength : (parse
      "# a\nk: \"x\n  y\" # b\n  # c\n--- # d\n- # e\n  l: m # f\n").toOption.map
      (·.comments.length) = some 6 := by
    rw [parse_eq_ite, String.toList_ofList]
    with_unfolding_all decide
  have hlost : (textTally
      "# a\nk: \"x\n  y\" # b\n  # c\n--- # d\n- # e\n  l: m # f\n").lost = [] := by
    rw [textTally, String.toList_ofList]
    with_unfolding_all decide
  obtain ⟨m, hm, hlength⟩ := Option.map_eq_some_iff.1 hlength
  have hm := eq_ok_of_toOption hm
  exact ⟨m, hm, hlength, (comments_of_parse hm).2.2 hlost⟩

/-- A scalar item below its dash loses the comment above it. -/
theorem not_perm_of_item_comment : ∃ m, parse "-\n  # c\n  x\n" = .ok m ∧
    (textTally "-\n  # c\n  x\n").read = ["# c".toList] ∧ m.comments = [] ∧
      ¬ (textTally "-\n  # c\n  x\n").read.Perm m.comments := by
  have hcomments : (parse "-\n  # c\n  x\n").toOption.map comments = some [] := by
    with_unfolding_all decide
  have hread : (textTally "-\n  # c\n  x\n").read = ["# c".toList] := by with_unfolding_all decide
  obtain ⟨m, hm, hnone⟩ := Option.map_eq_some_iff.1 hcomments
  refine ⟨m, eq_ok_of_toOption hm, hread, hnone, fun hperm => ?_⟩
  rw [hread, hnone] at hperm
  cases hperm.eq_nil

end ManifestMarkers.Manifest
