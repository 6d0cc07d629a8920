import ManifestMarkers.Proofs.InspectionOrder
import ManifestMarkers.Proofs.ManifestComments

/-!
# Nodes without comments

Comments below a collection go to its last key or its last item, and comments at a dash go to the
item behind it. So there are nodes that no comment goes to.

* `Reserves`: a task leaves the nodes so far alone, except for the content of the collection that it
  fills and the foot comment of the last key or item in it (`reserves_of_reads`).
* `footComment_of_mem_pairs`: the value of a key has no foot comment.
* `comments_of_mem_roots`: a root has no comments, unless it is a scalar.
-/

namespace ManifestMarkers.Manifest

/-! ### What a task changes -/

/-- The nodes so far keep their kinds; all but `grows` keep their content, and all but `last` their
foot comments. -/
structure Reserves (grows last : Option Nat) (nodes nodes' : Array Node) : Prop where
  size_le : nodes.size ≤ nodes'.size
  kept : ∀ i n, nodes[i]? = some n → ∃ n', nodes'[i]? = some n' ∧ n'.kind = n.kind ∧
    (some i ≠ grows → n'.content = n.content) ∧ (some i ≠ last → n'.footComment = n.footComment)

namespace Reserves

variable {grows grows' last last' : Option Nat} {nodes middle nodes' : Array Node} {b : Build}
  {id : Nat}

theorem refl (grows last : Option Nat) (nodes : Array Node) : Reserves grows last nodes nodes :=
  ⟨Nat.le_refl _, fun _ n hn => ⟨n, hn, rfl, fun _ => rfl, fun _ => rfl⟩⟩

/-- What the second step may change is new, or the first step may change it too. -/
theorem trans (h : Reserves grows last nodes middle) (h' : Reserves grows' last' middle nodes')
    (hgrows : ∀ i ∈ grows', i < nodes.size → some i = grows)
    (hlast : ∀ i ∈ last', i < nodes.size → some i = last) :
    Reserves grows last nodes nodes' := by
  refine ⟨Nat.le_trans h.size_le h'.size_le, fun i n hn => ?_⟩
  have hi : i < nodes.size := (Array.getElem?_eq_some_iff.1 hn).1
  obtain ⟨n', hn', hkind, hcontent, hfoot⟩ := h.kept i n hn
  obtain ⟨n'', hn'', hkind', hcontent', hfoot'⟩ := h'.kept i n' hn'
  refine ⟨n'', hn'', hkind'.trans hkind, fun hne => ?_, fun hne => ?_⟩
  · rw [hcontent' fun heq => hne (hgrows i heq.symm hi), hcontent hne]
  · rw [hfoot' fun heq => hne (hlast i heq.symm hi), hfoot hne]

section

variable (h : Reserves grows last nodes b.nodes)

include h

theorem push (n : Node) : Reserves grows last nodes (b.push n).2.nodes := by
  have hsize := h.size_le
  refine ⟨by simp; omega, fun i n' hn' => ?_⟩
  have hi : i < nodes.size := (Array.getElem?_eq_some_iff.1 hn').1
  have hpush : (b.push n).2.nodes[i]? = b.nodes[i]? := by
    rw [Build.push, Array.getElem?_push, if_neg (by omega)]
  rw [hpush]
  exact h.kept i n' hn'

theorem modify {f : Node → Node} (hkind : ∀ n, (f n).kind = n.kind)
    (hcontent : some id = grows ∨ ∀ n, (f n).content = n.content)
    (hfoot : some id = last ∨ ∀ n, (f n).footComment = n.footComment) :
    Reserves grows last nodes (b.modify id f).nodes := by
  refine ⟨by simpa using h.size_le, fun i n hn => ?_⟩
  obtain ⟨n', hn', hkept, hcontent', hfoot'⟩ := h.kept i n hn
  rw [Build.modify, Array.getElem?_modify, hn']
  split
  · next hi =>
    subst hi
    refine ⟨f n', rfl, (hkind n').trans hkept, fun hne => ?_, fun hne => ?_⟩
    · rw [hcontent.resolve_left hne, hcontent' hne]
    · rw [hfoot.resolve_left hne, hfoot' hne]
  · exact ⟨n', rfl, hkept, hcontent', hfoot'⟩

theorem setTrail (line : Line) (v : InlineValue) :
    Reserves grows last nodes (b.setTrail id line v).nodes := by
  apply h.modify <;> first | exact fun _ => rfl | exact .inr fun _ => rfl

theorem setProperties (v : InlineValue) :
    Reserves grows last nodes (b.setProperties id v).nodes := by
  apply h.modify <;> first | exact fun _ => rfl | exact .inr fun _ => rfl

theorem setItem (before : Build) (line : Line) (v : InlineValue) :
    Reserves grows last nodes (b.setItem before id line v).nodes := by
  apply (h.setProperties v).modify <;> first | exact fun _ => rfl | exact .inr fun _ => rfl

theorem addContent (hid : some id = grows) (ids : List Nat) :
    Reserves grows last nodes (b.addContent id ids).nodes :=
  h.modify (fun _ => rfl) (.inl hid) (.inr fun _ => rfl)

theorem withFoot (indent : Nat) : Reserves grows last nodes (b.withFoot last indent).nodes := by
  cases last with
  | none => exact h
  | some id =>
    show Reserves grows (some id) nodes (b.attachFoot id indent).nodes
    unfold Build.attachFoot
    dsimp only
    split
    · exact h
    · apply Reserves.modify
      · exact h
      · exact fun _ => rfl
      · exact .inr fun _ => rfl
      · exact .inl rfl

end

end Reserves

/-- The collection that a task fills, if there is one. -/
def Task.grows : Task → Option Nat
  | .pairs id _ _ | .items id _ _ => some id
  | _ => none

/-- The node with a number has no foot comment. -/
def IsFootless (nodes : Array Node) (id : Nat) : Prop :=
  ∃ n, nodes[id]? = some n ∧ n.footComment = ""

theorem IsFootless.after {grows last : Option Nat} {nodes nodes' : Array Node} {id : Nat}
    (hid : IsFootless nodes id) (h : Reserves grows last nodes nodes') (hlast : some id ≠ last) :
    IsFootless nodes' id := by
  obtain ⟨n, hn, hfoot⟩ := hid
  obtain ⟨n', hn', -, -, hfoot'⟩ := h.kept id n hn
  exact ⟨n', hn', (hfoot' hlast).trans hfoot⟩

theorem isFootless_push {n : Node} (hn : n.footComment = "") (nodes : Array Node) :
    IsFootless (nodes.push n) nodes.size := ⟨n, Array.getElem?_push_size, hn⟩

/-- A task changes the collection that it fills and the foot of the last key or item, and the node
that it gives is the first new one. -/
theorem reserves_of_reads {task : Task} {b b' : Build} {t : Tally} {id : Nat}
    (h : Reads task b t id b') : Reserves task.grows task.last b.nodes b'.nodes ∧
      (task.IsFresh → id = b.nodes.size ∧ IsFootless b'.nodes id) := by
  have hempty (b : Build) (kind : NodeKind) (line : Line) (indent : Nat) :
      Reserves none none b.nodes (b.push (emptyCollection kind line indent)).2.nodes :=
    (Reserves.refl none none b.nodes).push _
  induction h with
  | @sequence indent line lines b b' t hlines hitem h ih =>
    have hfoot := isFootless_push (n := emptyCollection .sequence line indent) rfl b.nodes
    refine ⟨(hempty b .sequence line indent).trans ih.1 ?_ nofun,
      fun _ => ⟨rfl, hfoot.after ih.1 nofun⟩⟩
    rintro i ⟨⟩ hi
    omega
  | @mapping indent line lines b b' t hlines hkey h ih =>
    have hfoot := isFootless_push (n := emptyCollection .mapping line indent) rfl b.nodes
    refine ⟨(hempty b .mapping line indent).trans ih.1 ?_ nofun,
      fun _ => ⟨rfl, hfoot.after ih.1 nofun⟩⟩
    rintro i ⟨⟩ hi
    omega
  | @scalarLine indent line lines rest n b hlines hitem hkey hn =>
    have hscalar : Reserves none none b.nodes (b.addScalarLine n rest).nodes :=
      (Reserves.refl none none b.nodes).push _
    have hfoot : (b.withHead n).footComment = "" := (hasTrail_of_scalarNode hn).foot
    exact ⟨hscalar, fun _ => ⟨rfl, isFootless_push hfoot b.nodes⟩⟩
  | @pairsEnd mapping indent last b hend =>
    exact ⟨(Reserves.refl (some mapping) last b.toContent.nodes).withFoot indent, False.elim⟩
  | @inlinePair mapping indent last line lines lines' keyText keyValue rest n b b' t hlines hindent
      hkey hn h ih =>
    have hkeyed : Reserves (some mapping) last b.nodes
        (b.toContent.addKey line indent keyText keyValue).nodes :=
      (Reserves.refl (some mapping) last b.nodes).push _
    have hpair : Reserves (some mapping) last b.nodes
        ((b.toContent.addKey line indent keyText keyValue).addScalar n lines').nodes :=
      hkeyed.push n
    refine ⟨(hpair.addContent rfl _).trans ih.1 (fun _ hi _ => hi.symm) ?_, False.elim⟩
    rintro i ⟨⟩ hi
    omega
  | @nestedPair mapping indent value last line lines keyText keyValue rest b c b' s t hlines hindent
      hkey hempty hvalue h ihvalue ih =>
    have hkeyed : Reserves (some mapping) last b.nodes
        (b.toContent.addKey line indent keyText keyValue).nodes :=
      (Reserves.refl (some mapping) last b.nodes).push _
    have htrail : Reserves (some mapping) last b.nodes ((b.toContent.addKey line indent keyText
        keyValue).setTrail b.nodes.size line (splitValue rest)).nodes := hkeyed.setTrail _ _
    have hc := htrail.trans ihvalue.1 nofun nofun
    refine ⟨((hc.setProperties _).addContent rfl _).trans ih.1 (fun _ hi _ => hi.symm) ?_,
      False.elim⟩
    rintro i ⟨⟩ hi
    omega
  | @itemsEnd sequence indent last b hend =>
    exact ⟨(Reserves.refl (some sequence) last b.toContent.nodes).withFoot indent, False.elim⟩
  | @nestedItem sequence indent id last line lines b c b' s t hlines hindent hitem hempty hvalue h
      ihvalue ih =>
    obtain ⟨rfl, -⟩ := ihvalue.2 trivial
    have hc : Reserves (some sequence) last b.nodes c.nodes :=
      (Reserves.refl (some sequence) last b.nodes).trans ihvalue.1 nofun nofun
    refine ⟨((hc.setItem _ _ _).addContent rfl _).trans ih.1 (fun _ hi _ => hi.symm) ?_,
      False.elim⟩
    rintro i ⟨⟩ hi
    exact absurd hi (Nat.lt_irrefl _)
  | @compactItem sequence indent id last line lines b c b' s t hlines hindent hitem hvalue h ihvalue
      ih =>
    obtain ⟨rfl, -⟩ := ihvalue.2 trivial
    have hc : Reserves (some sequence) last b.nodes c.nodes :=
      (Reserves.refl (some sequence) last b.nodes).trans ihvalue.1 nofun nofun
    refine ⟨(hc.addContent rfl _).trans ih.1 (fun _ hi _ => hi.symm) ?_, False.elim⟩
    rintro i ⟨⟩ hi
    exact absurd hi (Nat.lt_irrefl _)
  | @deeper indent number column id allowSequence line lines b b' t hlines hindent h ih =>
    exact ⟨ih.1, fun _ => ih.2 trivial⟩
  | @missing indent number column allowSequence b hnone =>
    exact ⟨(Reserves.refl none none b.toContent.nodes).push _,
      fun _ => ⟨rfl, isFootless_push rfl b.nodes⟩⟩

/-! ### Values have no foot comments -/

/-- The values of the pairs in `ids` have no foot comments, and they come behind the node `j`. -/
def FootlessValues (nodes : Array Node) (j : Nat) (ids : List Nat) : Prop :=
  ∀ k v, (k, v) ∈ pairsOf ids → j < v ∧ IsFootless nodes v

/-- The values of all mappings from `lo` on have no foot comments. -/
def FootlessFrom (nodes : Array Node) (lo : Nat) : Prop :=
  ∀ j n, lo ≤ j → nodes[j]? = some n → n.kind = .mapping → FootlessValues nodes j n.content

section

variable {grows last : Option Nat} {nodes middle nodes' : Array Node} {lo j : Nat} {ids : List Nat}

theorem FootlessValues.after (hids : FootlessValues nodes j ids)
    (h : Reserves grows last nodes nodes') (hlast : ∀ i ∈ last, i ≤ j) :
    FootlessValues nodes' j ids := by
  intro k v hpair
  obtain ⟨hlt, hv⟩ := hids k v hpair
  refine ⟨hlt, hv.after h fun heq => ?_⟩
  have hle := hlast v heq.symm
  omega

/-- The collection that grows and the last key or item stand before the mappings in question. -/
theorem FootlessFrom.after (hlo : FootlessFrom nodes lo) (h : Reserves grows last nodes nodes')
    (hgrows : ∀ i ∈ grows, i < lo) (hlast : ∀ i ∈ last, i ≤ lo)
    (hnew : FootlessFrom nodes' nodes.size) : FootlessFrom nodes' lo := by
  intro j n' hj hn' hkind
  by_cases hold : j < nodes.size
  · obtain ⟨n, hn⟩ : ∃ n, nodes[j]? = some n := ⟨nodes[j], Array.getElem?_eq_getElem hold⟩
    obtain ⟨n'', hn'', hkept, hcontent, -⟩ := h.kept j n hn
    obtain rfl : n' = n'' := Option.some.inj (hn'.symm.trans hn'')
    have hne : some j ≠ grows := by
      intro heq
      have hlt := hgrows j heq.symm
      omega
    rw [hcontent hne]
    refine (hlo j n hj hn (hkept.symm.trans hkind)).after h fun i hi => ?_
    have hle := hlast i hi
    omega
  · exact hnew j n' (by omega) hn' hkind

/-- A new node that is no mapping. -/
theorem FootlessFrom.push {n : Node} (hlo : FootlessFrom nodes lo) (hn : n.kind ≠ .mapping) :
    FootlessFrom (nodes.push n) lo := by
  have hnew : FootlessFrom (nodes.push n) nodes.size := by
    intro j n' hj hn' hkind
    have hsize := (Array.getElem?_eq_some_iff.1 hn').1
    rw [Array.size_push] at hsize
    obtain rfl : j = nodes.size := by omega
    rw [Array.getElem?_push_size] at hn'
    cases hn'
    exact absurd hkind hn
  have hpush : Reserves none none nodes (nodes.push n) :=
    (Reserves.refl none none nodes).push (b := { nodes }) n
  exact hlo.after hpush nofun nofun hnew

theorem FootlessFrom.cons (hlo : FootlessFrom nodes (lo + 1))
    (hnode : ∀ n, nodes[lo]? = some n → n.kind = .mapping → FootlessValues nodes lo n.content) :
    FootlessFrom nodes lo := by
  intro j n hj hn hkind
  rcases Nat.eq_or_lt_of_le hj with rfl | hlt
  · exact hnode n hn hkind
  · exact hlo j n hlt hn hkind

theorem footlessFrom_size (nodes : Array Node) : FootlessFrom nodes nodes.size := by
  intro j n hj hn _
  have hlt := (Array.getElem?_eq_some_iff.1 hn).1
  omega

theorem FootlessFrom.of_size (hlo : FootlessFrom nodes lo) (h : Reserves none none nodes nodes')
    (hsize : nodes'.size = nodes.size) : FootlessFrom nodes' lo :=
  hlo.after h nofun nofun (hsize ▸ footlessFrom_size nodes')

end

@[simp] theorem Build.size_withFoot (b : Build) (last : Option Nat) (indent : Nat) :
    (b.withFoot last indent).nodes.size = b.nodes.size := by
  rw [← size_forms, forms_withFoot, size_forms]

/-- What a task that reads pairs adds to its mapping. -/
def Task.AddsFootless (b b' : Build) : Task → Prop
  | .pairs mapping _ _ => ∀ n, b.nodes[mapping]? = some n → ∃ n' ids,
    b'.nodes[mapping]? = some n' ∧ n'.content = n.content ++ ids ∧
      FootlessValues b'.nodes mapping ids
  | _ => True

/-- What a task does to the values of mappings. -/
structure AddsFootless (task : Task) (b b' : Build) : Prop where
  new : FootlessFrom b'.nodes b.nodes.size
  grown : task.AddsFootless b b'

section

variable {b c b' : Build} {last : Option Nat} {indent : Nat}

/-- A mapping takes in a pair and goes on. The nodes from `b` to `c` are those of the pair. -/
theorem addsFootless_pair {mapping value : Nat} (hmapping : mapping < b.nodes.size)
    (hc : Reserves none none b.nodes c.nodes) (hnew : FootlessFrom c.nodes b.nodes.size)
    (hlt : b.nodes.size < value) (hvalue : IsFootless c.nodes value)
    (hread : Reserves (some mapping) (some b.nodes.size)
      (c.addContent mapping [b.nodes.size, value]).nodes b'.nodes)
    (hmore : AddsFootless (.pairs mapping indent (some b.nodes.size))
      (c.addContent mapping [b.nodes.size, value]) b') :
    AddsFootless (.pairs mapping indent last) b b' := by
  have hall : Reserves (some mapping) (some b.nodes.size) c.nodes b'.nodes := by
    refine Reserves.trans ?_ hread (fun _ hi _ => hi.symm) fun _ hi _ => hi.symm
    exact (Reserves.refl _ _ c.nodes).addContent rfl _
  constructor
  · have hrest : FootlessFrom b'.nodes c.nodes.size := by simpa using hmore.new
    exact hnew.after hall (by rintro i ⟨⟩; exact hmapping) (by rintro i ⟨⟩; omega) hrest
  · intro n hn
    obtain ⟨n', hn', -, hcontent, -⟩ := hc.kept mapping n hn
    have htake : (c.addContent mapping [b.nodes.size, value]).nodes[mapping]? =
        some { n' with content := n'.content ++ [b.nodes.size, value] } := by
      simp [Build.addContent, Build.modify, Array.getElem?_modify, hn']
    obtain ⟨n'', ids, hn'', hgrown, hids⟩ := hmore.grown _ htake
    refine ⟨n'', b.nodes.size :: value :: ids, hn'', ?_, fun k v hpair => ?_⟩
    · rw [hgrown, hcontent (by simp), List.append_assoc]
      rfl
    · rcases List.mem_cons.1 hpair with heq | hpair
      · cases heq
        exact ⟨by omega, hvalue.after hall (by simpa using Nat.ne_of_gt hlt)⟩
      · exact hids k v hpair

/-- A sequence takes in an item and goes on. The nodes from `b` to `c` are those of the item. -/
theorem addsFootless_item {sequence : Nat} (hsequence : sequence < b.nodes.size)
    (hnew : FootlessFrom c.nodes b.nodes.size)
    (hread : Reserves (some sequence) (some b.nodes.size)
      (c.addContent sequence [b.nodes.size]).nodes b'.nodes)
    (hmore : AddsFootless (.items sequence indent (some b.nodes.size))
      (c.addContent sequence [b.nodes.size]) b') :
    AddsFootless (.items sequence indent last) b b' := by
  have hall : Reserves (some sequence) (some b.nodes.size) c.nodes b'.nodes := by
    refine Reserves.trans ?_ hread (fun _ hi _ => hi.symm) fun _ hi _ => hi.symm
    exact (Reserves.refl _ _ c.nodes).addContent rfl _
  have hrest : FootlessFrom b'.nodes c.nodes.size := by simpa using hmore.new
  refine ⟨hnew.after hall ?_ ?_ hrest, trivial⟩
  · rintro i ⟨⟩
    exact hsequence
  · rintro i ⟨⟩
    exact Nat.le_refl _

end

/-- Every task gives values without foot comments to mappings. -/
theorem addsFootless_of_reads {task : Task} {b b' : Build} {t : Tally} {id : Nat}
    (h : Reads task b t id b') (hgrows : ∀ i ∈ task.grows, i < b.nodes.size) :
    AddsFootless task b b' := by
  induction h with
  | @sequence indent line lines b b' t hlines hitem h ih =>
    have hitems := ih (by rintro i ⟨⟩; simp)
    have hnew : FootlessFrom b'.nodes (b.nodes.size + 1) := by simpa using hitems.new
    obtain ⟨n, hn, hkind, -⟩ := (reserves_of_reads h).1.kept b.nodes.size _
      Array.getElem?_push_size
    refine ⟨hnew.cons fun n' hn' hmapping => ?_, trivial⟩
    obtain rfl : n = n' := Option.some.inj (hn.symm.trans hn')
    rw [hkind] at hmapping
    cases hmapping
  | @mapping indent line lines b b' t hlines hkey h ih =>
    have hpairs := ih (by rintro i ⟨⟩; simp)
    have hnew : FootlessFrom b'.nodes (b.nodes.size + 1) := by simpa using hpairs.new
    obtain ⟨n, ids, hn, hcontent, hids⟩ := hpairs.grown _ Array.getElem?_push_size
    refine ⟨hnew.cons fun n' hn' _ => ?_, trivial⟩
    obtain rfl : n = n' := Option.some.inj (hn.symm.trans hn')
    rw [hcontent]
    exact hids
  | @scalarLine indent line lines rest n b hlines hitem hkey hn =>
    have hkind : n.kind = .scalar := congrArg Form.kind (form_of_scalarNode hn)
    have hscalar : (b.withHead n).kind ≠ .mapping := by
      show n.kind ≠ .mapping
      simp [hkind]
    exact ⟨(footlessFrom_size b.nodes).push hscalar, trivial⟩
  | @pairsEnd mapping indent last b hend =>
    have hfoot := (Reserves.refl none last b.toContent.nodes).withFoot indent
    have hsize := Build.size_withFoot b.toContent last indent
    refine ⟨hsize ▸ footlessFrom_size _, fun n hn => ?_⟩
    obtain ⟨n', hn', -, hcontent, -⟩ := hfoot.kept mapping n hn
    exact ⟨n', [], hn', by simp [hcontent nofun], nofun⟩
  | @inlinePair mapping indent last line lines lines' keyText keyValue rest n b b' t hlines hindent
      hkey hn h ih =>
    have hmapping : mapping < b.nodes.size := hgrows mapping rfl
    have hkeyed : Reserves none none b.nodes
        (b.toContent.addKey line indent keyText keyValue).nodes :=
      (Reserves.refl none none b.nodes).push _
    have hkeyNew : FootlessFrom (b.toContent.addKey line indent keyText keyValue).nodes
        b.nodes.size := (footlessFrom_size b.nodes).push nofun
    have hkind : n.kind = .scalar := congrArg Form.kind (form_of_scalarNode hn)
    have hvalue := isFootless_push (hasTrail_of_scalarNode hn).foot
      (b.toContent.addKey line indent keyText keyValue).nodes
    rw [Build.size_addKey] at hvalue
    have hpair : Reserves none none b.nodes
        ((b.toContent.addKey line indent keyText keyValue).addScalar n lines').nodes :=
      hkeyed.push n
    have hsize := hpair.size_le
    refine addsFootless_pair hmapping hpair (hkeyNew.push (by simp [hkind])) (Nat.lt_succ_self _)
      hvalue (reserves_of_reads h).1 (ih ?_)
    rintro i ⟨⟩
    rw [Build.size_addContent]
    omega
  | @nestedPair mapping indent value last line lines keyText keyValue rest b c b' s t hlines hindent
      hkey hempty hvalue h ihvalue ih =>
    have hmapping : mapping < b.nodes.size := hgrows mapping rfl
    have hkeyed : Reserves none none b.nodes
        (b.toContent.addKey line indent keyText keyValue).nodes :=
      (Reserves.refl none none b.nodes).push _
    have hkeyNew : FootlessFrom (b.toContent.addKey line indent keyText keyValue).nodes
        b.nodes.size := (footlessFrom_size b.nodes).push nofun
    have htrailNew : FootlessFrom ((b.toContent.addKey line indent keyText keyValue).setTrail
        b.nodes.size line (splitValue rest)).nodes b.nodes.size :=
      hkeyNew.of_size ((Reserves.refl none none _).setTrail line _) (by simp)
    obtain ⟨hreads, hfresh⟩ := reserves_of_reads hvalue
    obtain ⟨hid, hfoot⟩ := hfresh trivial
    have hlt : b.nodes.size < value := by simp [hid]
    have hcNew := htrailNew.after hreads nofun nofun (ihvalue nofun).new
    have hset : Reserves none none c.nodes (c.setProperties value (splitValue rest)).nodes :=
      (Reserves.refl none none c.nodes).setProperties _
    have hc : Reserves none none b.nodes (c.setProperties value (splitValue rest)).nodes :=
      ((hkeyed.setTrail line _).trans hreads nofun nofun).setProperties _
    have hsize := hc.size_le
    refine addsFootless_pair hmapping hc (hcNew.of_size hset (by simp)) hlt (hfoot.after hset nofun)
      (reserves_of_reads h).1 (ih ?_)
    rintro i ⟨⟩
    rw [Build.size_addContent]
    omega
  | @itemsEnd sequence indent last b hend =>
    exact ⟨Build.size_withFoot b.toContent last indent ▸ footlessFrom_size _, trivial⟩
  | @nestedItem sequence indent id last line lines b c b' s t hlines hindent hitem hempty hvalue h
      ihvalue ih =>
    obtain ⟨hreads, hfresh⟩ := reserves_of_reads hvalue
    obtain ⟨rfl, -⟩ := hfresh trivial
    have hsequence : sequence < b.nodes.size := hgrows sequence rfl
    have hsize : b.nodes.size ≤ c.nodes.size := hreads.size_le
    have hset : Reserves none none c.nodes
        (c.setItem b.toContent b.nodes.size line (dashValue line)).nodes :=
      (Reserves.refl none none c.nodes).setItem _ _ _
    have hcNew : FootlessFrom c.nodes b.nodes.size := (ihvalue nofun).new
    refine addsFootless_item hsequence (hcNew.of_size hset (by simp)) (reserves_of_reads h).1
      (ih ?_)
    rintro i ⟨⟩
    rw [Build.size_addContent, Build.size_setItem]
    omega
  | @compactItem sequence indent id last line lines b c b' s t hlines hindent hitem hvalue h ihvalue
      ih =>
    obtain ⟨hreads, hfresh⟩ := reserves_of_reads hvalue
    obtain ⟨rfl, -⟩ := hfresh trivial
    have hsequence : sequence < b.nodes.size := hgrows sequence rfl
    have hsize : b.nodes.size ≤ c.nodes.size := hreads.size_le
    refine addsFootless_item hsequence (ihvalue nofun).new (reserves_of_reads h).1 (ih ?_)
    rintro i ⟨⟩
    rw [Build.size_addContent]
    omega
  | @deeper indent number column id allowSequence line lines b b' t hlines hindent h ih =>
    exact ⟨(ih nofun).new, trivial⟩
  | @missing indent number column allowSequence b hnone =>
    exact ⟨(footlessFrom_size b.nodes).push nofun, trivial⟩

/-! ### Documents -/

/-- The node with a number has no comments, unless it is a scalar. -/
def IsBare (nodes : Array Node) (id : Nat) : Prop :=
  ∃ n, nodes[id]? = some n ∧ (n.kind ≠ .scalar → n.comments = [])

theorem isBare_of_reads {indent id : Nat} {b b' : Build} {t : Tally}
    (h : Reads (.node indent) b t id b') : IsBare b'.nodes id := by
  obtain ⟨n, hn, hfoot⟩ := ((reserves_of_reads h).2 trivial).2
  have hbare (hown : ownComments b'.nodes id = []) : IsBare b'.nodes id := by
    rw [ownComments, hn] at hown
    refine ⟨n, hn, fun _ => ?_⟩
    rw [Node.comments, hfoot]
    exact List.append_eq_nil_iff.2 ⟨hown, rfl⟩
  cases h with
  | sequence hlines hitem h => exact hbare (ownComments_of_reads_collection h)
  | mapping hlines hkey h => exact hbare (ownComments_of_reads_collection h)
  | @scalarLine _ line lines rest n _ hlines hitem hkey hscalar =>
    have hkind : n.kind = .scalar := congrArg Form.kind (form_of_scalarNode hscalar)
    exact ⟨b.withHead n, Array.getElem?_push_size, fun hne => absurd hkind hne⟩

/-- Later documents leave a node as it is. -/
theorem IsBare.after {nodes nodes' : Array Node} {id : Nat} (hid : IsBare nodes id)
    (h : Reserves none none nodes nodes') (hspares : Spares nodes nodes') : IsBare nodes' id := by
  obtain ⟨n, hn, hbare⟩ := hid
  obtain ⟨n', hn', hkind, -, hfoot⟩ := h.kept id n hn
  have hown := hspares.kept id (Array.getElem?_eq_some_iff.1 hn).1
  rw [ownComments, ownComments, hn, hn'] at hown
  refine ⟨n', hn', fun hne => ?_⟩
  have hcomments : n'.comments = n.comments := by
    rw [Node.comments, Node.comments, hfoot (by simp)]
    exact congrArg (· ++ _) hown
  rw [hcomments, hbare (hkind ▸ hne)]

/-- What reading documents does to the nodes so far and to the new ones. -/
structure AddsDocuments (nodes : Array Node) (roots : List Root) (nodes' : Array Node) : Prop where
  reserves : Reserves none none nodes nodes'
  spares : Spares nodes nodes'
  footless : FootlessFrom nodes' nodes.size
  bare : ∀ id ∈ roots.filterMap Root.node, IsBare nodes' id

theorem addsDocuments_of_readsDocument {nodes nodes' : Array Node} {lines : List Line} {t : Tally}
    {root : Root} (h : ReadsDocument nodes lines t root nodes') :
    AddsDocuments nodes [root] nodes' := by
  cases h with
  | empty hlines =>
    exact ⟨Reserves.refl none none nodes, Spares.refl nodes, footlessFrom_size nodes, nofun⟩
  | node hlines h hend =>
    refine ⟨(reserves_of_reads h).1, (spares_of_reads h).1, (addsFootless_of_reads h nofun).new,
      fun id hid => ?_⟩
    obtain rfl := List.mem_singleton.1 hid
    exact isBare_of_reads h

theorem addsDocuments_of_readDocuments {nodes nodes' : Array Node}
    {chunks : List (Bool × List Line)} {roots : List Root}
    (h : readDocuments nodes chunks = .ok (roots, nodes')) : AddsDocuments nodes roots nodes' := by
  induction chunks generalizing nodes roots with
  | nil =>
    cases h
    exact ⟨Reserves.refl _ _ _, Spares.refl _, footlessFrom_size _, by simp⟩
  | cons chunk chunks ih =>
    unfold readDocuments at h
    split at h
    · cases h
    · next root middle hroot =>
      have hfirst := addsDocuments_of_readsDocument (readsDocument_of_readDocument hroot)
      split at h
      · cases h
      · next more final hmore =>
        cases h
        have hrest := ih hmore
        refine ⟨hfirst.reserves.trans hrest.reserves (by simp) (by simp),
          hfirst.spares.trans hrest.spares,
          hfirst.footless.after hrest.reserves (by simp) (by simp) hrest.footless,
          fun id hid => ?_⟩
        obtain ⟨r, hr, hnode⟩ := List.mem_filterMap.1 hid
        rcases List.mem_cons.1 hr with rfl | hr
        · have hbare := hfirst.bare id (List.mem_filterMap.2 ⟨root, by simp, hnode⟩)
          exact hbare.after hrest.reserves hrest.spares
        · exact hrest.bare id (List.mem_filterMap.2 ⟨r, hr, hnode⟩)

theorem addsDocuments_of_parse {text : String} {m : Manifest} (h : parse text = .ok m) :
    AddsDocuments #[] m.documents m.nodes := by
  unfold parse at h
  split at h
  · cases h
  · unfold ofLayout at h
    split at h
    · cases h
    · split at h
      · cases h
      · next documents nodes hdocuments =>
        cases h
        exact addsDocuments_of_readDocuments hdocuments

/-- The value of a key has no foot comment. -/
theorem footComment_of_mem_pairs {text : String} {m : Manifest} (h : parse text = .ok m)
    {k v : Nat} {n : Node} (hpair : (k, v) ∈ m.pairs) (hn : m.node? v = some n) :
    n.footComment = "" := by
  obtain ⟨id, mapping, hmapping, hkind, hmem⟩ := mem_pairs_iff.1 hpair
  have hfootless := (addsDocuments_of_parse h).footless
  obtain ⟨-, n', hn', hfoot⟩ := hfootless id mapping (Nat.zero_le _) hmapping hkind k v hmem
  obtain rfl : n = n' := Option.some.inj (hn.symm.trans hn')
  exact hfoot

/-- A root has no comments, unless it is a scalar. -/
theorem comments_of_mem_roots {text : String} {m : Manifest} (h : parse text = .ok m) {id : Nat}
    {n : Node} (hid : id ∈ m.roots) (hn : m.node? id = some n) (hkind : n.kind ≠ .scalar) :
    n.comments = [] := by
  obtain ⟨n', hn', hbare⟩ := (addsDocuments_of_parse h).bare id hid
  obtain rfl : n = n' := Option.some.inj (hn.symm.trans hn')
  exact hbare hkind

end ManifestMarkers.Manifest
