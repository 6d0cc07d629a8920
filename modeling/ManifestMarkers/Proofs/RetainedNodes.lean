import ManifestMarkers.Proofs.CommentPlaces
import ManifestMarkers.Proofs.WrittenParts

/-!
# What stays of a node

Nodes get comments, properties and content after they have been added, but their kind, column and
text stay as they are, and what is in the content stays in front.

* `Retains`: this is so for all nodes of a store; every task retains the nodes so far
  (`retains_of_reads`).
* `Final`: the nodes have become those of a manifest, and from some number on nothing is added to
  their content. `exists_content` says what the content of a collection goes on with.
-/

namespace ManifestMarkers.Manifest

/-- A node, and what has become of it. -/
structure Node.Becomes (n n' : Node) : Prop where
  kind : n'.kind = n.kind
  column : n'.column = n.column
  raw : n'.raw = n.raw
  content : n.content <+: n'.content
  bare : n'.HasNoProperties → n.HasNoProperties

theorem Node.Becomes.refl (n : Node) : n.Becomes n :=
  ⟨rfl, rfl, rfl, List.prefix_refl _, id⟩

theorem Node.Becomes.trans {n n' n'' : Node} (h : n.Becomes n') (h' : n'.Becomes n'') :
    n.Becomes n'' :=
  ⟨h'.kind.trans h.kind, h'.column.trans h.column, h'.raw.trans h.raw,
    h.content.trans h'.content, fun hbare => h.bare (h'.bare hbare)⟩

/-- The nodes are still there. -/
def Retains (nodes nodes' : Array Node) : Prop :=
  ∀ (i : Nat) (n : Node), nodes[i]? = some n → ∃ n', nodes'[i]? = some n' ∧ n.Becomes n'

namespace Retains

variable {nodes middle nodes' : Array Node} {b : Build} {id : Nat}

theorem refl (nodes : Array Node) : Retains nodes nodes := fun _ n hn => ⟨n, hn, .refl n⟩

theorem trans (h : Retains nodes middle) (h' : Retains middle nodes') : Retains nodes nodes' := by
  intro i n hn
  obtain ⟨n', hn', hbecomes⟩ := h i n hn
  obtain ⟨n'', hn'', hbecomes'⟩ := h' i n' hn'
  exact ⟨n'', hn'', hbecomes.trans hbecomes'⟩

variable (h : Retains nodes b.nodes)

include h

theorem push (n : Node) : Retains nodes (b.push n).2.nodes := by
  intro i n' hn'
  obtain ⟨n'', hn'', hbecomes⟩ := h i n' hn'
  have hi : i < b.nodes.size := (Array.getElem?_eq_some_iff.1 hn'').1
  have hpush : (b.push n).2.nodes[i]? = b.nodes[i]? := by
    rw [Build.push, Array.getElem?_push, if_neg (by omega)]
  exact ⟨n'', hpush.trans hn'', hbecomes⟩

theorem modify {f : Node → Node} (hf : ∀ n : Node, n.Becomes (f n)) :
    Retains nodes (b.modify id f).nodes := by
  intro i n hn
  obtain ⟨n', hn', hbecomes⟩ := h i n hn
  rw [Build.modify, Array.getElem?_modify, hn']
  split
  · exact ⟨f n', rfl, hbecomes.trans (hf n')⟩
  · exact ⟨n', rfl, hbecomes⟩

theorem setTrail (line : Line) (v : InlineValue) : Retains nodes (b.setTrail id line v).nodes :=
  h.modify fun _ => ⟨rfl, rfl, rfl, List.prefix_refl _, fun hbare => ⟨hbare.anchor, hbare.tag⟩⟩

theorem setProperties (v : InlineValue) : Retains nodes (b.setProperties id v).nodes :=
  h.modify fun _ => ⟨rfl, rfl, rfl, List.prefix_refl _, fun hbare =>
    ⟨(Option.or_eq_none_iff.1 hbare.anchor).2, (Option.or_eq_none_iff.1 hbare.tag).2⟩⟩

theorem addContent (ids : List Nat) : Retains nodes (b.addContent id ids).nodes :=
  h.modify fun _ =>
    ⟨rfl, rfl, rfl, List.prefix_append _ _, fun hbare => ⟨hbare.anchor, hbare.tag⟩⟩

theorem withFoot (last : Option Nat) (indent : Nat) :
    Retains nodes (b.withFoot last indent).nodes := by
  cases last with
  | none => exact h
  | some id =>
    show Retains nodes (b.attachFoot id indent).nodes
    unfold Build.attachFoot
    dsimp only
    split
    · exact h
    · exact Retains.modify h fun _ =>
        ⟨rfl, rfl, rfl, List.prefix_refl _, fun hbare => ⟨hbare.anchor, hbare.tag⟩⟩

omit h in
/-- The comments of an item come after its properties. -/
theorem setProperties_setItem (b before : Build) (id : Nat) (line : Line) (v : InlineValue) :
    Retains (b.setProperties id v).nodes (b.setItem before id line v).nodes :=
  (refl (b.setProperties id v).nodes).modify fun _ =>
    ⟨rfl, rfl, rfl, List.prefix_refl _, fun hbare => ⟨hbare.anchor, hbare.tag⟩⟩

theorem setItem (before : Build) (line : Line) (v : InlineValue) :
    Retains nodes (b.setItem before id line v).nodes :=
  (h.setProperties v).trans (setProperties_setItem b before id line v)

end Retains

/-- A task retains the nodes so far. -/
theorem retains_of_reads {task : Task} {b b' : Build} {t : Tally} {id : Nat}
    (h : Reads task b t id b') : Retains b.nodes b'.nodes := by
  induction h with
  | @sequence indent line lines b b' t hlines hitem h ih => exact ((Retains.refl _).push _).trans ih
  | @mapping indent line lines b b' t hlines hkey h ih => exact ((Retains.refl _).push _).trans ih
  | @scalarLine indent line lines rest n b hlines hitem hkey hn => exact (Retains.refl _).push _
  | @pairsEnd mapping indent last b hend => exact (Retains.refl b.toContent.nodes).withFoot _ _
  | @inlinePair mapping indent last line lines lines' keyText keyValue rest n b b' t hlines hindent
      hkey hn h ih =>
    have hkeyed : Retains b.nodes (b.toContent.addKey line indent keyText keyValue).nodes :=
      (Retains.refl b.nodes).push _
    have hpair : Retains b.nodes
        ((b.toContent.addKey line indent keyText keyValue).addScalar n lines').nodes :=
      hkeyed.push n
    exact (hpair.addContent _).trans ih
  | @nestedPair mapping indent value last line lines keyText keyValue rest b c b' s t hlines hindent
      hkey hempty hvalue h ihvalue ih =>
    have hkeyed : Retains b.nodes (b.toContent.addKey line indent keyText keyValue).nodes :=
      (Retains.refl b.nodes).push _
    exact ((((hkeyed.setTrail _ _).trans ihvalue).setProperties _).addContent _).trans ih
  | @itemsEnd sequence indent last b hend => exact (Retains.refl b.toContent.nodes).withFoot _ _
  | @nestedItem sequence indent id last line lines b c b' s t hlines hindent hitem hempty hvalue h
      ihvalue ih =>
    have hc : Retains b.nodes c.nodes := ihvalue
    exact ((hc.setItem _ _ _).addContent _).trans ih
  | @compactItem sequence indent id last line lines b c b' s t hlines hindent hitem hvalue h ihvalue
      ih =>
    have hc : Retains b.nodes c.nodes := ihvalue
    exact (hc.addContent _).trans ih
  | @deeper indent number column id allowSequence line lines b b' t hlines hindent h ih => exact ih
  | @missing indent number column allowSequence b hnone =>
    exact (Retains.refl b.toContent.nodes).push _

/-! ### Nodes of a manifest -/

/-- The nodes have become those of the manifest. From the number `lo` on, they have all their
content. -/
def Final (m : Manifest) (lo : Nat) (nodes : Array Node) : Prop :=
  ∀ (i : Nat) (n : Node), nodes[i]? = some n →
    ∃ n', m.node? i = some n' ∧ n.Becomes n' ∧ (lo ≤ i → n'.content = n.content)

theorem final_nodes (m : Manifest) : Final m 0 m.nodes :=
  fun _ n hn => ⟨n, hn, .refl n, fun _ => rfl⟩

section

variable {m : Manifest} {lo lo' id : Nat} {n : Node} {nodes nodes' : Array Node}
  {grows last : Option Nat}

theorem Final.mono (h : Final m lo nodes) (hle : lo ≤ lo') : Final m lo' nodes := by
  intro i n hn
  obtain ⟨n', hn', hbecomes, hcontent⟩ := h i n hn
  exact ⟨n', hn', hbecomes, fun hi => hcontent (hle.trans hi)⟩

/-- Before nodes are read that change the content of no others, the nodes have their content. -/
theorem Final.before (h : Final m lo nodes') (hretains : Retains nodes nodes')
    (hreserves : Reserves grows last nodes nodes') (hgrows : ∀ i ∈ grows, i < lo) :
    Final m lo nodes := by
  intro i n hn
  obtain ⟨n', hn', hbecomes⟩ := hretains i n hn
  obtain ⟨n'', hn'', -, hkept, -⟩ := hreserves.kept i n hn
  obtain rfl : n' = n'' := Option.some.inj (hn'.symm.trans hn'')
  obtain ⟨f, hf, hbecomes', hcontent⟩ := h i n' hn'
  refine ⟨f, hf, hbecomes.trans hbecomes', fun hi => ?_⟩
  have hother : some i ≠ grows := by
    rintro rfl
    exact absurd (hgrows i rfl) (by omega)
  rw [hcontent hi, hkept hother]

/-- What a node has been is seen from what it has become. -/
theorem Final.exists_node (h : Final m lo nodes') (hretains : Retains nodes nodes')
    (hn : nodes[id]? = some n) : ∃ n', m.node? id = some n' ∧ n.Becomes n' := by
  obtain ⟨n', hn', hbecomes⟩ := hretains id n hn
  obtain ⟨f, hf, hbecomes', -⟩ := h id n' hn'
  exact ⟨f, hf, hbecomes.trans hbecomes'⟩

/-- After some nodes have been added to the content of a collection, it goes on with them. -/
theorem exists_content {b c : Build} {new ids : List Nat} (h : Final m lo nodes')
    (hn : b.nodes[id]? = some n) (hreserves : Reserves none last b.nodes c.nodes)
    (hretains : Retains (c.addContent id new).nodes nodes')
    (hids : m.contentOf id = n.content ++ ids) :
    ∃ n' ids', (c.addContent id new).nodes[id]? = some n' ∧ ids = new ++ ids' ∧
      m.contentOf id = n'.content ++ ids' := by
  obtain ⟨n', hn', -, hkept, -⟩ := hreserves.kept id n hn
  have hnew : (c.addContent id new).nodes[id]? = some { n' with content := n'.content ++ new } := by
    rw [Build.addContent, Build.modify, Array.getElem?_modify, if_pos rfl, hn']
    rfl
  obtain ⟨f, hf, hbecomes⟩ := h.exists_node hretains hnew
  obtain ⟨ids', hids'⟩ := hbecomes.content
  have hcontent : m.contentOf id = f.content := by rw [contentOf, hf]
  refine ⟨_, ids', hnew, ?_, ?_⟩
  · rw [hcontent, ← hids'] at hids
    simpa [hkept (Option.some_ne_none id)] using hids.symm
  · rw [hcontent, ← hids']

end

end ManifestMarkers.Manifest
