import ManifestMarkers.Proofs.InlineValues
import ManifestMarkers.Proofs.ManifestOrder

/-!
# What reading keeps

Many properties of nodes hold because of the lines that the nodes are read from. This module says
once which properties reading keeps.

* `Lasting`: every part of a node has its property, if the lines that it is made of have theirs.
* `Build.Each`: a build has the properties; every task keeps them (`each_of_reads`).
* `each_of_readDocuments`: so does reading documents, whose comments are made of lines as well.
-/

namespace ManifestMarkers.Manifest

/-- Properties of nodes, of lines, and of comment lines that wait: what is read has its property, if
what it is made of has. -/
structure Lasting (N : Node → Prop) (L : Line → Prop) (P : Pending → Prop) : Prop where
  pending : ∀ {l}, L l → l.kind = .comment → P ⟨l.indent, l.number, l.text⟩
  /-- What stands behind a dash is a line of its own. -/
  dash : ∀ {l} indent, L l → l.kind = .content →
    L { l with indent, text := Text.trimStart (l.text.drop 1) }
  collection : ∀ kind line indent, N (emptyCollection kind line indent)
  missing : ∀ number column, N (missingNode number column)
  key : ∀ {line text rest} indent value, L line → splitKey? line.text = some (text, rest) →
    N (plainKey line indent text value)
  scalar : ∀ {line lines rest text parent column n}, L line → (∀ l ∈ lines, L l) →
    text <:+: line.text → scalarNode (splitValue text) line parent column lines = .ok (n, rest) →
    N n
  head : ∀ {n ps}, N n → (∀ p ∈ ps, P p) →
    N { n with headComment := joinPending ps, headPositions := pendingPoints ps }
  trail : ∀ {n line text}, N n → L line → text <:+: line.text →
    N { n with
      lineComment := String.ofList (splitValue text).comment
      linePosition := line.commentPoint? (splitValue text).comment }
  properties : ∀ {n line text}, N n → L line → text <:+: line.text →
    N { n with
      anchor := ((splitValue text).anchor.map String.ofList).or n.anchor
      tag := ((splitValue text).tag.map String.ofList).or n.tag }
  foot : ∀ {n ps}, N n → (∀ p ∈ ps, P p) → ps ≠ [] →
    N { n with
      footComment :=
        (if n.footComment.isEmpty then "" else n.footComment ++ "\n") ++ joinPending ps
      footPositions := n.footPositions ++ pendingPoints ps }
  content : ∀ {n} ids, N n → N { n with content := n.content ++ ids }

/-- All nodes of a build, its lines and the comment lines that wait have their properties. -/
structure Build.Each (N : Node → Prop) (L : Line → Prop) (P : Pending → Prop) (b : Build) :
    Prop where
  nodes : ∀ (i : Nat) (n : Node), b.nodes[i]? = some n → N n
  lines : ∀ l ∈ b.lines, L l
  pending : ∀ p ∈ b.pending, P p

section

variable {N : Node → Prop} {L : Line → Prop} {P : Pending → Prop}

theorem each_collect (hlasting : Lasting N L P) {ps : List Pending} {lines : List Line}
    (hps : ∀ p ∈ ps, P p) (hlines : ∀ l ∈ lines, L l) :
    ∀ p ∈ (Build.collect ps lines).1, P p := by
  induction lines generalizing ps with
  | nil => exact hps
  | cons line lines ih =>
    have hrest : ∀ l ∈ lines, L l := fun l hl => hlines l (by simp [hl])
    unfold Build.collect
    split
    · next hkind =>
      refine ih (fun p hp => ?_) hrest
      rcases List.mem_append.1 hp with hp | hp
      · exact hps p hp
      · obtain rfl := List.mem_singleton.1 hp
        exact hlasting.pending (hlines line (by simp)) hkind
    · exact hps
    · exact ih hps hrest

/-! ### Changes of the build -/

namespace Build.Each

variable {b : Build} (hlasting : Lasting N L P) (h : b.Each N L P)

include h

theorem dropLine : b.dropLine.Each N L P :=
  ⟨h.nodes, fun l hl => h.lines l (List.mem_of_mem_drop hl), h.pending⟩

theorem clearPending : b.clearPending.Each N L P := ⟨h.nodes, h.lines, by simp [Build.clearPending]⟩

theorem withLines {lines : List Line} (hlines : lines <:+ b.lines) :
    { b with lines : Build }.Each N L P :=
  ⟨h.nodes, fun l hl => h.lines l (hlines.subset hl), h.pending⟩

theorem push {n : Node} (hn : N n) : (b.push n).2.Each N L P := by
  refine ⟨fun i n' hn' => ?_, h.lines, h.pending⟩
  rw [Build.push, Array.getElem?_push] at hn'
  split at hn'
  · cases hn'
    exact hn
  · exact h.nodes i n' hn'

theorem modify {f : Node → Node} (id : Nat) (hf : ∀ n, N n → N (f n)) :
    (b.modify id f).Each N L P := by
  refine ⟨fun i n hn => ?_, h.lines, h.pending⟩
  rw [Build.modify, Array.getElem?_modify] at hn
  split at hn
  · obtain ⟨n', hn', rfl⟩ := Option.map_eq_some_iff.1 hn
    exact hf n' (h.nodes i n' hn')
  · exact h.nodes i n hn

include hlasting

theorem toContent : b.toContent.Each N L P :=
  ⟨h.nodes, fun l hl => h.lines l (b.toContent_suffix.subset hl),
    each_collect hlasting h.pending h.lines⟩

/-- The comments that wait go above a node. -/
theorem withHead {n : Node} (hn : N n) : N (b.withHead n) := hlasting.head hn h.pending

theorem addKey {line : Line} {text rest : List Char} (indent : Nat) (value : List Char)
    (hline : L line) (hkey : splitKey? line.text = some (text, rest)) :
    (b.addKey line indent text value).Each N L P :=
  h.dropLine.clearPending.push (h.withHead hlasting (hlasting.key indent value hline hkey))

omit hlasting in
theorem addScalar {n : Node} {lines : List Line} (hlines : lines <:+ b.lines) (hn : N n) :
    (b.addScalar n lines).Each N L P := (h.withLines hlines).push hn

theorem addScalarLine {n : Node} {lines : List Line} (hlines : lines <:+ b.lines) (hn : N n) :
    (b.addScalarLine n lines).Each N L P :=
  (h.withLines hlines).clearPending.push (h.withHead hlasting hn)

theorem setTrail {line : Line} {text : List Char} (id : Nat) (hline : L line)
    (htext : text <:+: line.text) : (b.setTrail id line (splitValue text)).Each N L P :=
  h.modify id fun _ hn => hlasting.trail hn hline htext

theorem setProperties {line : Line} {text : List Char} (id : Nat) (hline : L line)
    (htext : text <:+: line.text) : (b.setProperties id (splitValue text)).Each N L P :=
  h.modify id fun _ hn => hlasting.properties hn hline htext

theorem addContent (id : Nat) (ids : List Nat) : (b.addContent id ids).Each N L P :=
  h.modify id fun _ hn => hlasting.content ids hn

theorem setItem {before : Build} {line : Line} {text : List Char} (id : Nat)
    (hbefore : before.Each N L P) (hline : L line) (htext : text <:+: line.text) :
    (b.setItem before id line (splitValue text)).Each N L P :=
  (h.setProperties hlasting id hline htext).modify id fun _ hn =>
    hlasting.trail (hbefore.withHead hlasting hn) hline htext

theorem withFoot (last : Option Nat) (indent : Nat) : (b.withFoot last indent).Each N L P := by
  cases last with
  | none => exact h
  | some id =>
    show (b.attachFoot id indent).Each N L P
    unfold attachFoot
    dsimp only
    generalize hfoot : b.pending.takeWhile _ = foot
    have hpending : ∀ p ∈ foot, P p := by
      rw [← hfoot]
      exact fun p hp => h.pending p ((List.takeWhile_subset _) hp)
    split
    · exact h
    · next hne =>
      have hshort : { b with pending := b.pending.drop foot.length : Build }.Each N L P :=
        ⟨h.nodes, h.lines, fun p hp => h.pending p (List.mem_of_mem_drop hp)⟩
      exact hshort.modify id fun n hn => hlasting.foot hn hpending (by simpa using hne)

theorem behindDash {line : Line} {lines : List Line} (hlines : b.lines = line :: lines)
    (hkind : line.kind = .content) (indent : Nat) :
    (b.behindDash line lines indent).Each N L P := by
  refine ⟨h.nodes, fun l hl => ?_, h.pending⟩
  rcases List.mem_cons.1 hl with rfl | hl
  · exact hlasting.dash indent (h.lines line (by simp [hlines])) hkind
  · exact h.lines l (by simp [hlines, hl])

end Build.Each

/-! ### Tasks and documents -/

theorem infix_dash (line : Line) : Text.trimStart (line.text.drop 1) <:+: line.text :=
  ((List.dropWhile_suffix _).trans (List.drop_suffix _ _)).isInfix

/-- Every task keeps what is lasting. -/
theorem each_of_reads (hlasting : Lasting N L P) {task : Task} {b b' : Build} {t : Tally} {id : Nat}
    (h : Reads task b t id b') (hb : b.Each N L P) : b'.Each N L P := by
  induction h with
  | @sequence indent line lines b b' t hlines hitem h ih =>
    exact ih (hb.push (hlasting.collection _ _ _))
  | @mapping indent line lines b b' t hlines hkey h ih =>
    exact ih (hb.push (hlasting.collection _ _ _))
  | @scalarLine indent line lines rest n b hlines hitem hkey hn =>
    have hline : L line := hb.lines line (by simp [hlines])
    have hmore : ∀ l ∈ lines, L l := fun l hl => hb.lines l (by simp [hlines, hl])
    have hrest : rest <:+ b.lines := by
      rw [hlines]
      exact (scalarNode_suffix hn).trans (List.suffix_cons line lines)
    exact hb.addScalarLine hlasting hrest (hlasting.scalar hline hmore List.infix_rfl hn)
  | @pairsEnd mapping indent last b hend =>
    exact (hb.toContent hlasting).withFoot hlasting last indent
  | @inlinePair mapping indent last line lines lines' keyText keyValue rest n b b' t hlines hindent
      hkey hn h ih =>
    have hc := hb.toContent hlasting
    have hline : L line := hc.lines line (by simp [hlines])
    have hmore : ∀ l ∈ lines, L l := fun l hl => hc.lines l (by simp [hlines, hl])
    have hrest : lines' <:+ (b.toContent.addKey line indent keyText keyValue).lines := by
      show lines' <:+ b.toContent.lines.drop 1
      rw [hlines]
      exact scalarNode_suffix hn
    have hvalue := hlasting.scalar hline hmore (suffix_splitKey? hkey).isInfix hn
    have hkeyed := hc.addKey hlasting indent keyValue hline hkey
    exact ih ((hkeyed.addScalar hrest hvalue).addContent hlasting _ _)
  | @nestedPair mapping indent value last line lines keyText keyValue rest b c b' s t hlines hindent
      hkey hempty hvalue h ihvalue ih =>
    have hc := hb.toContent hlasting
    have hline : L line := hc.lines line (by simp [hlines])
    have htext : rest <:+: line.text := (suffix_splitKey? hkey).isInfix
    have hkeyed := hc.addKey hlasting indent keyValue hline hkey
    have hread := ihvalue (hkeyed.setTrail hlasting _ hline htext)
    exact ih ((hread.setProperties hlasting _ hline htext).addContent hlasting _ _)
  | @itemsEnd sequence indent last b hend =>
    exact (hb.toContent hlasting).withFoot hlasting last indent
  | @nestedItem sequence indent id last line lines b c b' s t hlines hindent hitem hempty hvalue h
      ihvalue ih =>
    have hc := hb.toContent hlasting
    have hline : L line := hc.lines line (by simp [hlines])
    have hread := ihvalue hc.dropLine.clearPending
    exact ih ((hread.setItem hlasting id hc hline (infix_dash line)).addContent hlasting _ _)
  | @compactItem sequence indent id last line lines b c b' s t hlines hindent hitem hvalue h ihvalue
      ih =>
    -- the dash is cut off, and the item is read from the rest of its line
    have hkind : line.kind = .content := Build.kind_of_collect (Prod.ext rfl hlines)
    have hread := ihvalue ((hb.toContent hlasting).behindDash hlasting hlines hkind _)
    exact ih (hread.addContent hlasting _ _)
  | @deeper indent number column id allowSequence line lines b b' t hlines hindent h ih =>
    exact ih (hb.toContent hlasting)
  | @missing indent number column allowSequence b hnone =>
    exact (hb.toContent hlasting).push (hlasting.missing number column)

/-- The lines of a document: comments, and then other lines. -/
def IsChunk (L : Line → Prop) (P : Pending → Prop) (lines : List Line) : Prop :=
  ∃ first rest, lines = first ++ rest ∧ (∀ l ∈ rest, L l) ∧
    ∀ l ∈ first, l.kind = .comment ∧ P ⟨l.indent, l.number, l.text⟩

theorem isChunk_of_forall {lines : List Line} (h : ∀ l ∈ lines, L l) : IsChunk L P lines :=
  ⟨[], lines, rfl, h, by simp⟩

theorem collect_append_comments {ps : List Pending} {first rest : List Line}
    (h : ∀ l ∈ first, l.kind = .comment) :
    Build.collect ps (first ++ rest) =
      Build.collect (ps ++ first.map fun l => ⟨l.indent, l.number, l.text⟩) rest := by
  induction first generalizing ps with
  | nil => simp
  | cons line first ih =>
    have hrest : ∀ l ∈ first, l.kind = .comment := fun l hl => h l (by simp [hl])
    rw [List.cons_append, Build.collect, h line (by simp)]
    dsimp only
    rw [ih hrest]
    simp

/-- At the first content line of a document, the comment behind its indicator waits already. -/
theorem each_start (hlasting : Lasting N L P) {nodes : Array Node} {lines : List Line}
    (hnodes : ∀ (i : Nat) (n : Node), nodes[i]? = some n → N n) (h : IsChunk L P lines) :
    (Build.start nodes lines).Each N L P := by
  obtain ⟨first, rest, rfl, hrest, hfirst⟩ := h
  -- the build starts as if the first comments had been collected before
  have hstart : Build.start nodes (first ++ rest) =
      { nodes
        lines := rest
        pending := first.map fun l => ⟨l.indent, l.number, l.text⟩ : Build }.toContent := by
    simp only [Build.start, Build.toContent,
      collect_append_comments fun l hl => (hfirst l hl).1, List.nil_append]
  rw [hstart]
  refine Build.Each.toContent hlasting ⟨hnodes, hrest, fun p hp => ?_⟩
  obtain ⟨l, hl, rfl⟩ := List.mem_map.1 hp
  exact (hfirst l hl).2

theorem each_of_readsDocument (hlasting : Lasting N L P) {nodes nodes' : Array Node}
    {lines : List Line} {t : Tally} {root : Root} (h : ReadsDocument nodes lines t root nodes')
    (hnodes : ∀ (i : Nat) (n : Node), nodes[i]? = some n → N n) (hlines : IsChunk L P lines) :
    (∀ (i : Nat) (n : Node), nodes'[i]? = some n → N n) ∧
      ∃ ps, (∀ p ∈ ps, P p) ∧ root.comment = joinPending ps := by
  have hstart := each_start hlasting hnodes hlines
  cases h with
  | empty hempty => exact ⟨hnodes, _, hstart.pending, rfl⟩
  | node hfirst h hend =>
    have hread := each_of_reads hlasting h hstart
    exact ⟨hread.nodes, _, (hread.toContent hlasting).pending, rfl⟩

/-- Reading documents keeps what is lasting. -/
theorem each_of_readDocuments (hlasting : Lasting N L P) {nodes nodes' : Array Node}
    {chunks : List (Bool × List Line)} {roots : List Root}
    (h : readDocuments nodes chunks = .ok (roots, nodes'))
    (hnodes : ∀ (i : Nat) (n : Node), nodes[i]? = some n → N n)
    (hchunks : ∀ c ∈ chunks, IsChunk L P c.2) :
    (∀ (i : Nat) (n : Node), nodes'[i]? = some n → N n) ∧
      ∀ root ∈ roots, ∃ ps, (∀ p ∈ ps, P p) ∧ root.comment = joinPending ps := by
  induction chunks generalizing nodes roots with
  | nil =>
    cases h
    exact ⟨hnodes, by simp⟩
  | cons chunk chunks ih =>
    unfold readDocuments at h
    split at h
    · cases h
    · next root middle hroot =>
      obtain ⟨hmiddle, hcomment⟩ := each_of_readsDocument hlasting
        (readsDocument_of_readDocument hroot) hnodes (hchunks chunk (by simp))
      split at h
      · cases h
      · next more final hmore =>
        cases h
        obtain ⟨hfinal, hcomments⟩ := ih hmore hmiddle fun c hc => hchunks c (by simp [hc])
        refine ⟨hfinal, fun r hr => ?_⟩
        rcases List.mem_cons.1 hr with rfl | hr
        · exact hcomment
        · exact hcomments r hr

end

end ManifestMarkers.Manifest
