import Mathlib.Data.List.Infix
import Mathlib.Data.List.Nodup
import Mathlib.Data.List.Pairwise
import ManifestMarkers.Proofs.ManifestOrder
import ManifestMarkers.Proofs.MarkerMention

/-!
# The order of an inspection

An inspection goes through targets: pair by pair in mappings, item by item in sequences. All the
same it reads the comments of every node once, in the order of the document.

* `targetOf` finds what a node belongs to among the pairs of all mappings.
* `targetNodes_targets`: the nodes of the targets are all nodes in order, so no node belongs to two
  of them (`nodup_targets_of_parse`), and each target is what its nodes belong to
  (`targetOf_of_mem_targets`).
* `readComments` goes on with the comments of one node, and `inspect_eq_foldlM` says that an
  inspection does so for one node after the other.
-/

namespace ManifestMarkers

namespace Manifest

/-! ### Pairs -/

/-- The pairs of all mappings. -/
def pairs (m : Manifest) : List (Nat × Nat) :=
  m.nodes.toList.flatMap fun n => if n.kind = .mapping then pairsOf n.content else []

/-- What the comments of a node annotate: the pair that the node belongs to, or else the node. -/
def targetOf (m : Manifest) (id : Nat) : Target :=
  match m.pairs.find? fun pair => pair.1 = id ∨ pair.2 = id with
  | some (key, value) => .pair key value
  | none => .node id

variable {m : Manifest} {k v : Nat}

theorem mem_pairs_iff : (k, v) ∈ m.pairs ↔
    ∃ id n, m.node? id = some n ∧ n.kind = .mapping ∧ (k, v) ∈ pairsOf n.content := by
  simp only [pairs, List.mem_flatMap, Array.mem_toList_iff, Array.mem_iff_getElem?]
  constructor
  · rintro ⟨n, ⟨id, hn⟩, hmem⟩
    split at hmem
    · next hkind => exact ⟨id, n, hn, hkind, hmem⟩
    · simp at hmem
  · rintro ⟨id, n, hn, hkind, hmem⟩
    exact ⟨n, ⟨id, hn⟩, by rwa [if_pos hkind]⟩

/-- Content of even length is made of pairs. -/
theorem exists_pair_of_mem {ids : List Nat} (heven : Even ids.length) {i : Nat} (hi : i ∈ ids) :
    ∃ k v, (k, v) ∈ pairsOf ids ∧ (i = k ∨ i = v) := by
  fun_induction pairsOf ids with
  | case1 k v rest ih =>
    have hrest : Even rest.length := by simpa [Nat.even_add_one] using heven
    rcases List.mem_cons.1 hi with rfl | hi
    · exact ⟨i, v, by simp, .inl rfl⟩
    rcases List.mem_cons.1 hi with rfl | hi
    · exact ⟨k, i, by simp, .inr rfl⟩
    obtain ⟨k', v', hpair, heq⟩ := ih hrest hi
    exact ⟨k', v', List.mem_cons_of_mem _ hpair, heq⟩
  | case2 ids hids =>
    rcases ids with - | ⟨k, - | ⟨v, rest⟩⟩
    · simp at hi
    · simp at heven
    · exact absurd rfl (hids k v rest)

/-! ### Targets cover the tree -/

/-- Mappings are made of pairs, and nothing is below their keys. -/
def KeysAreLeaves (m : Manifest) : Prop :=
  ∀ id n, m.node? id = some n → n.kind = .mapping →
    Even n.content.length ∧ ∀ k v, (k, v) ∈ pairsOf n.content → m.contentOf k = []

theorem keysAreLeaves_of_parse {text : String} (h : parse text = .ok m) : m.KeysAreLeaves := by
  obtain ⟨hshaped, -⟩ := shaped_of_parse h
  intro id n hn hkind
  obtain ⟨-, heven, hpairs⟩ := mapping_of_shaped hshaped hn hkind
  refine ⟨heven, fun k v hpair => ?_⟩
  obtain ⟨⟨key, hkey, hof⟩, -⟩ := hpairs k v hpair
  rw [contentOf, hkey]
  exact scalar_of_shaped hshaped hkey hof.1

/-- The nodes of targets, target by target. -/
def targetNodes (targets : List Target) : List Nat := targets.flatMap Target.nodes

theorem preorderFrom_nil (m : Manifest) (fuel : Nat) : m.preorderFrom fuel [] = [] := by
  cases fuel <;> rfl

theorem targetsBelow_of_none {id : Nat} (hn : m.node? id = none) (fuel : Nat) :
    m.targetsBelow fuel id = [] := by
  cases fuel with
  | zero => rfl
  | succ fuel => rw [targetsBelow, hn]

/-- The targets below a node, by the kind of the node. -/
theorem targetsBelow_of_some {id : Nat} {n : Node} (hn : m.node? id = some n) (fuel : Nat) :
    m.targetsBelow (fuel + 1) id =
      if n.kind = .mapping then
        (pairsOf n.content).flatMap fun (k, v) => .pair k v :: m.targetsBelow fuel v
      else n.content.flatMap fun item => .node item :: m.targetsBelow fuel item := by
  rw [targetsBelow, hn]
  dsimp only
  cases n.kind <;> rfl

/-- The targets of pairs, if those below each value are known. -/
theorem targetNodes_pairs {fuel : Nat}
    (ih : ∀ id, targetNodes (m.targetsBelow fuel id) = m.preorderFrom fuel (m.contentOf id))
    {ids : List Nat} (heven : Even ids.length)
    (hkeys : ∀ k v, (k, v) ∈ pairsOf ids → m.contentOf k = []) :
    targetNodes ((pairsOf ids).flatMap fun (k, v) => .pair k v :: m.targetsBelow fuel v) =
      m.preorderFrom (fuel + 1) ids := by
  fun_induction pairsOf ids with
  | case1 k v rest ihs =>
    have hrest : Even rest.length := by simpa [Nat.even_add_one] using heven
    have hkey : m.contentOf k = [] := hkeys k v (by simp)
    have ihs := ihs hrest fun k v hpair => hkeys k v (by simp [hpair])
    simp only [targetNodes, preorderFrom, List.flatMap_cons, List.flatMap_append,
      Target.nodes] at ih ihs ⊢
    rw [ih v, ihs, hkey, preorderFrom_nil]
    rfl
  | case2 ids hids =>
    rcases ids with - | ⟨k, - | ⟨v, rest⟩⟩
    · rfl
    · simp at heven
    · exact absurd rfl (hids k v rest)

/-- The targets of items, if those below each are known. -/
theorem targetNodes_items {fuel : Nat}
    (ih : ∀ id, targetNodes (m.targetsBelow fuel id) = m.preorderFrom fuel (m.contentOf id))
    (ids : List Nat) :
    targetNodes (ids.flatMap fun item => .node item :: m.targetsBelow fuel item) =
      m.preorderFrom (fuel + 1) ids := by
  induction ids with
  | nil => rfl
  | cons id ids ihs =>
    simp only [targetNodes, preorderFrom, List.flatMap_cons, List.flatMap_append,
      Target.nodes] at ih ihs ⊢
    rw [ih id, ihs]
    rfl

theorem targetNodes_targetsBelow (hm : m.KeysAreLeaves) (fuel id : Nat) :
    targetNodes (m.targetsBelow fuel id) = m.preorderFrom fuel (m.contentOf id) := by
  induction fuel generalizing id with
  | zero => rfl
  | succ fuel ih =>
    cases hn : m.node? id with
    | none =>
      rw [targetsBelow_of_none hn, contentOf, hn]
      rfl
    | some n =>
      have hcontent : m.contentOf id = n.content := by rw [contentOf, hn]
      rw [targetsBelow_of_some hn, hcontent]
      split
      · next hkind =>
        obtain ⟨heven, hkeys⟩ := hm id n hn hkind
        exact targetNodes_pairs ih heven hkeys
      · exact targetNodes_items ih n.content

/-- The nodes of the targets are all nodes in the order of the document. -/
theorem targetNodes_targets {text : String} (h : parse text = .ok m) :
    targetNodes m.targets = List.range m.nodes.size := by
  have hbelow := targetNodes_targetsBelow (keysAreLeaves_of_parse h) (m.nodes.size + 1)
  rw [targets, targetNodes_items hbelow,
    preorderFrom_of_spans (spans_of_parse h) (m.nodes.size + 2) (by omega), List.range_eq_range']
  rfl

/-- No node belongs to two targets of a manifest. -/
theorem nodup_targets_of_parse {text : String} (h : parse text = .ok m) :
    (targetNodes m.targets).Nodup := by
  rw [targetNodes_targets h]
  exact List.nodup_range

theorem eq_of_mem_targets {text : String} (h : parse text = .ok m) {s t : Target} {id : Nat}
    (hs : s ∈ m.targets) (ht : t ∈ m.targets) (hids : id ∈ s.nodes) (hidt : id ∈ t.nodes) :
    s = t := by
  have hdisjoint := (List.nodup_flatMap.1 (nodup_targets_of_parse h)).2
  have hsymm : Std.Symm (Function.onFun List.Disjoint Target.nodes) :=
    ⟨fun _ _ hst => List.disjoint_symm hst⟩
  by_contra hne
  exact hdisjoint.forall hs ht hne hids hidt

/-! ### Targets are what their nodes belong to -/

/-- Pairs of targets are pairs of mappings. -/
theorem mem_pairs_of_mem_targetsBelow {fuel id : Nat} (h : .pair k v ∈ m.targetsBelow fuel id) :
    (k, v) ∈ m.pairs := by
  induction fuel generalizing id with
  | zero => cases h
  | succ fuel ih =>
    cases hn : m.node? id with
    | none =>
      rw [targetsBelow_of_none hn] at h
      cases h
    | some n =>
      rw [targetsBelow_of_some hn] at h
      split at h
      · next hkind =>
        obtain ⟨⟨key, value⟩, hpair, hmem⟩ := List.mem_flatMap.1 h
        rcases List.mem_cons.1 hmem with heq | hmem
        · obtain ⟨rfl, rfl⟩ := Target.pair.inj heq
          exact mem_pairs_iff.2 ⟨id, n, hn, hkind, hpair⟩
        · exact ih hmem
      · obtain ⟨item, hitem, hmem⟩ := List.mem_flatMap.1 h
        rcases List.mem_cons.1 hmem with heq | hmem
        · cases heq
        · exact ih hmem

theorem mem_pairs_of_mem_targets (h : .pair k v ∈ m.targets) : (k, v) ∈ m.pairs := by
  obtain ⟨root, hroot, hmem⟩ := List.mem_flatMap.1 h
  rcases List.mem_cons.1 hmem with heq | hmem
  · cases heq
  · exact mem_pairs_of_mem_targetsBelow hmem

theorem targetsBelow_of_leaf {id : Nat} (h : m.contentOf id = []) (fuel : Nat) :
    m.targetsBelow fuel id = [] := by
  cases fuel with
  | zero => rfl
  | succ fuel =>
    cases hn : m.node? id with
    | none => exact targetsBelow_of_none hn _
    | some n =>
      rw [contentOf, hn] at h
      rw [targetsBelow_of_some hn]
      split <;> simp [h, pairsOf]

/-- A target below a member of a collection is below the collection. -/
theorem mem_targetsBelow_of_mem (hm : m.KeysAreLeaves) {fuel id i : Nat} {n : Node} {t : Target}
    (hn : m.node? id = some n) (hi : i ∈ n.content) (ht : t ∈ m.targetsBelow fuel i) :
    t ∈ m.targetsBelow (fuel + 1) id := by
  rw [targetsBelow_of_some hn]
  split
  · next hkind =>
    obtain ⟨heven, hkeys⟩ := hm id n hn hkind
    obtain ⟨k, v, hpair, rfl | rfl⟩ := exists_pair_of_mem heven hi
    · rw [targetsBelow_of_leaf (hkeys i v hpair)] at ht
      cases ht
    · exact List.mem_flatMap.2 ⟨(k, i), hpair, List.mem_cons_of_mem _ ht⟩
  · exact List.mem_flatMap.2 ⟨i, hi, List.mem_cons_of_mem _ ht⟩

/-- Every pair of a mapping on the way is a target. -/
theorem exists_mem_targetsBelow (hm : m.KeysAreLeaves) {ids order : List Nat}
    (h : Visits m ids order) {id : Nat} {n : Node} (hn : m.node? id = some n)
    (hkind : n.kind = .mapping) (hpair : (k, v) ∈ pairsOf n.content) (hid : id ∈ order) :
    ∀ fuel, order.length ≤ fuel → ∃ i ∈ ids, .pair k v ∈ m.targetsBelow fuel i := by
  induction h with
  | nil => cases hid
  | @cons first ids below rest n' hn' hbelow hrest ihbelow ihrest =>
    intro fuel hfuel
    simp only [List.length_cons, List.length_append] at hfuel
    rcases List.mem_append.1 hid with hid | hid
    · obtain ⟨fuel, rfl⟩ : ∃ f, fuel = f + 1 := ⟨fuel - 1, by omega⟩
      refine ⟨first, by simp, ?_⟩
      rcases List.mem_cons.1 hid with rfl | hid
      · rw [targetsBelow_of_some hn, if_pos hkind]
        exact List.mem_flatMap.2 ⟨(k, v), hpair, by simp⟩
      · obtain ⟨i, hi, hmem⟩ := ihbelow hid fuel (by omega)
        exact mem_targetsBelow_of_mem hm hn' hi hmem
    · obtain ⟨i, hi, hmem⟩ := ihrest hid fuel (by omega)
      exact ⟨i, List.mem_cons_of_mem _ hi, hmem⟩

/-- All pairs of mappings are targets. -/
theorem mem_targets_of_mem_pairs {text : String} (h : parse text = .ok m)
    (hpair : (k, v) ∈ m.pairs) : .pair k v ∈ m.targets := by
  obtain ⟨id, n, hn, hkind, hpair⟩ := mem_pairs_iff.1 hpair
  have hid : id < m.nodes.size := (Array.getElem?_eq_some_iff.1 hn).1
  obtain ⟨root, hroot, hmem⟩ := exists_mem_targetsBelow (keysAreLeaves_of_parse h)
    (visits_of_parse h) hn hkind hpair (List.mem_range.2 hid) (m.nodes.size + 1) (by simp)
  exact List.mem_flatMap.2 ⟨root, hroot, List.mem_cons_of_mem _ hmem⟩

/-- A target is what its nodes belong to. -/
theorem targetOf_of_mem_targets {text : String} (h : parse text = .ok m) {t : Target} {id : Nat}
    (ht : t ∈ m.targets) (hid : id ∈ t.nodes) : m.targetOf id = t := by
  unfold targetOf
  split
  · next key value hfind =>
    have hpair := mem_targets_of_mem_pairs h (List.mem_of_find?_eq_some hfind)
    have heq : key = id ∨ value = id := by simpa using List.find?_some hfind
    refine eq_of_mem_targets h hpair ht ?_ hid
    rcases heq with rfl | rfl <;> simp [Target.nodes]
  · next hnone =>
    cases t with
    | node id' =>
      obtain rfl : id = id' := by simpa [Target.nodes] using hid
      rfl
    | pair key value =>
      have hno := List.find?_eq_none.1 hnone (key, value) (mem_pairs_of_mem_targets ht)
      obtain rfl | rfl : id = key ∨ id = value := by simpa [Target.nodes] using hid
      · simp at hno
      · simp at hno

theorem targetOf_of_not_mem_pairs {id : Nat} (h : ∀ k v, (k, v) ∈ m.pairs → id ≠ k ∧ id ≠ v) :
    m.targetOf id = .node id := by
  have hnone : (m.pairs.find? fun pair => pair.1 = id ∨ pair.2 = id) = none := by
    rw [List.find?_eq_none]
    rintro ⟨k, v⟩ hpair
    obtain ⟨hk, hv⟩ := h k v hpair
    simp [Ne.symm hk, Ne.symm hv]
  rw [targetOf, hnone]

/-- Both nodes of a pair belong to it. -/
theorem targetOf_of_mem_pairs {text : String} (h : parse text = .ok m) (hpair : (k, v) ∈ m.pairs) :
    m.targetOf k = .pair k v ∧ m.targetOf v = .pair k v := by
  have hmem := mem_targets_of_mem_pairs h hpair
  exact ⟨targetOf_of_mem_targets h hmem (by simp [Target.nodes]),
    targetOf_of_mem_targets h hmem (by simp [Target.nodes])⟩

end Manifest

/-! ### One node after the other -/

namespace Inspection

theorem append_assoc (i j k : Inspection) : (i.append j).append k = i.append (j.append k) := by
  simp [append]

/-- Inspecting a list in two parts. -/
theorem gather_append {α : Type} (f : α → Except Fault Inspection) (xs ys : List α) :
    gather f (xs ++ ys) = match gather f xs with
      | .error e => .error e
      | .ok first => (gather f ys).map first.append := by
  induction xs with
  | nil =>
    rw [List.nil_append, gather]
    cases gather f ys <;> rfl
  | cons x xs ih =>
    rw [List.cons_append, gather, gather, ih]
    cases f x with
    | error e => rfl
    | ok first =>
      cases gather f xs with
      | error e => rfl
      | ok second =>
        cases gather f ys with
        | error e => rfl
        | ok rest => simp [Except.map, append_assoc]

/-- The markers in the comments of the node with a number. -/
def ofId (registry : Registry) (m : Manifest) (id : Nat) : Except Fault Inspection :=
  match m.node? id with
  | none => .ok {}
  | some n => ofNode registry (m.targetOf id) (m.node? (m.targetOf id).value) n

variable {registry : Registry} {m : Manifest}

/-- The nodes of a target are inspected by number. -/
theorem gather_ofNode {t : Target} {ids : List Nat} (h : ∀ id ∈ ids, m.targetOf id = t) :
    gather (ofNode registry t (m.node? t.value)) (ids.filterMap m.node?) =
      gather (ofId registry m) ids := by
  induction ids with
  | nil => rfl
  | cons id ids ih =>
    obtain ⟨hid, hids⟩ := List.forall_mem_cons.1 h
    have hread : ofId registry m id = match m.node? id with
      | none => .ok {}
      | some n => ofNode registry t (m.node? t.value) n := by rw [ofId, hid]
    rw [List.filterMap_cons, gather, hread, ← ih hids]
    cases m.node? id with
    | none => cases gather _ (ids.filterMap m.node?) <;> rfl
    | some n => rfl

/-- Targets are inspected node by node. -/
theorem gather_ofTarget {ts : List Target} (h : ∀ t ∈ ts, ∀ id ∈ t.nodes, m.targetOf id = t) :
    gather (ofTarget registry m) ts = gather (ofId registry m) (Manifest.targetNodes ts) := by
  induction ts with
  | nil => rfl
  | cons t ts ih =>
    obtain ⟨ht, hts⟩ := List.forall_mem_cons.1 h
    have hfirst : ofTarget registry m t = gather (ofId registry m) t.nodes := gather_ofNode ht
    have hsplit : Manifest.targetNodes (t :: ts) = t.nodes ++ Manifest.targetNodes ts :=
      List.flatMap_cons
    rw [gather, hfirst, ih hts, hsplit, gather_append]
    cases gather (ofId registry m) t.nodes with
    | error e => rfl
    | ok first => cases gather (ofId registry m) (Manifest.targetNodes ts) <;> rfl

end Inspection

/-- Go on with the comments of a node. They are read only if a registered path occurs in them. -/
def Manifest.readComments (m : Manifest) (registry : Registry) (before : Inspection) (id : Nat) :
    Except Fault Inspection :=
  match m.node? id with
  | none => .ok before
  | some n =>
    if ∃ path ∈ registry.paths, path.toList <:+: n.commentText.toList then
      match parseMarkers registry n.commentText with
      | .error e => .error (Inspection.faultIn n e)
      | .ok (markers, warnings) =>
        .ok {
          findings := before.findings ++ markers.map fun found =>
            { path := found.path
              marker := Inspection.withValue (m.node? (m.targetOf id).value) found.marker
              target := m.targetOf id
              raw := n.commentText
              position := found.position
              line := n.line }
          warnings := before.warnings ++ warnings.map (Inspection.warningIn n) }
    else .ok before

namespace Inspection

variable {registry : Registry} {m : Manifest}

theorem readComments_eq (before : Inspection) (id : Nat) :
    m.readComments registry before id = (ofId registry m id).map before.append := by
  have hskip : (Except.ok {}).map before.append = (.ok before : Except Fault Inspection) := by
    simp [Except.map, append]
  unfold Manifest.readComments ofId ofNode
  cases m.node? id with
  | none => exact hskip.symm
  | some n =>
    dsimp only
    by_cases hmention : mentionsMarker registry n.commentText.toList = true
    · have hpath : ∃ path ∈ registry.paths, path.toList <:+: n.commentText.toList := by
        simpa [mentionsMarker, Text.occursIn_eq_true] using hmention
      rw [if_pos hmention, if_pos hpath]
      cases parseMarkers registry n.commentText <;> rfl
    · have hno := mentionsMarker_eq_false.1 (Bool.eq_false_iff.2 hmention)
      rw [if_neg hmention, if_neg (by simpa using hno), hskip]

/-- Going on node by node appends what the nodes hold. -/
theorem foldlM_readComments (before : Inspection) (ids : List Nat) :
    ids.foldlM (m.readComments registry) before =
      (gather (ofId registry m) ids).map before.append := by
  induction ids generalizing before with
  | nil => simp [gather, Except.map, append, pure, Except.pure]
  | cons id ids ih =>
    rw [List.foldlM_cons, readComments_eq, gather]
    cases ofId registry m id with
    | error e => rfl
    | ok first =>
      show ids.foldlM (m.readComments registry) (before.append first) = _
      rw [ih]
      cases gather (ofId registry m) ids with
      | error e => rfl
      | ok rest => simp [Except.map, append_assoc]

/-! ### Findings -/

/-- What is found in the comments of a node. -/
structure IsFoundAt (m : Manifest) (id : Nat) (f : Finding) : Prop where
  target : f.target = m.targetOf id
  line : ∀ n, m.node? id = some n → f.line = n.line
  /-- A field has the value that it annotates, if that is a scalar. -/
  value : ∀ field, f.marker.field? = some field →
    field.manifestValue = (m.node? f.target.value).bind fun n =>
      if n.isScalar then some n.value else none

/-- A field that is read is complete. -/
theorem conforms_of_parseMarkers {text : String} {ms : List FoundMarker} {ws : List Warning}
    (h : parseMarkers registry text = .ok (ms, ws)) {found : FoundMarker} (hfound : found ∈ ms)
    {field : Field} (hfield : found.marker.field? = some field) : field.Conforms := by
  have hc : found.Conforms registry :=
    Reader.conforms_of_run .idle trivial _ _ (mem_items_of_collectItems h found hfound)
  exact Marker.conforms_of_field? hc.marker hfield

theorem manifestValue_withValue {value? : Option Manifest.Node} {marker : Marker} {field : Field}
    (hnone : ∀ f, marker.field? = some f → f.manifestValue = none)
    (h : (withValue value? marker).field? = some field) :
    field.manifestValue = value?.bind fun n => if n.isScalar then some n.value else none := by
  cases value? with
  | none => exact hnone field h
  | some n =>
    unfold withValue at h
    dsimp only at h
    rw [Option.bind_some]
    split at h
    · next hscalar =>
      rw [if_pos hscalar]
      cases marker with
      | field f => cases h; rfl
      | collectionField f => cases h; rfl
      | resource r => cases h
    · next hscalar =>
      rw [if_neg hscalar]
      exact hnone field h

theorem isFoundAt_of_ofId {id : Nat} {i : Inspection} (h : ofId registry m id = .ok i) :
    ∀ f ∈ i.findings, IsFoundAt m id f := by
  unfold ofId ofNode at h
  dsimp only at h
  split at h
  · cases h; simp
  · next n hn =>
    split at h
    · split at h
      · cases h
      · next markers warnings hparse =>
        cases h
        intro f hf
        obtain ⟨found, hfound, rfl⟩ := List.mem_map.1 hf
        refine ⟨rfl, fun n' hn' => ?_, fun field hfield => ?_⟩
        · rw [hn] at hn'
          cases hn'
          rfl
        · exact manifestValue_withValue
            (fun _ hf => (conforms_of_parseMarkers hparse hfound hf).manifestValue) hfield
    · cases h; simp

/-- Nodes on lines in order have findings on lines in order. -/
theorem pairwise_line_of_gather {ids : List Nat} {i : Inspection}
    (h : gather (ofId registry m) ids = .ok i) (hids : ∀ id ∈ ids, (m.node? id).isSome = true)
    (horder : ids.Pairwise fun i j => ∀ a b, m.node? i = some a → m.node? j = some b →
      a.line ≤ b.line) : i.findings.Pairwise fun f g => f.line ≤ g.line := by
  induction ids generalizing i with
  | nil => cases h; exact .nil
  | cons id ids ih =>
    obtain ⟨hid, hids⟩ := List.forall_mem_cons.1 hids
    obtain ⟨hfirst, hrest⟩ := List.pairwise_cons.1 horder
    obtain ⟨n, hn⟩ := Option.isSome_iff_exists.1 hid
    unfold gather at h
    split at h
    · cases h
    · next first hread =>
      split at h
      · cases h
      · next rest hgather =>
        cases h
        have hline : ∀ f ∈ first.findings, f.line = n.line := fun f hf =>
          (isFoundAt_of_ofId hread f hf).line n hn
        refine List.pairwise_append.2 ⟨?_, ih hgather hids hrest, fun f hf g hg => ?_⟩
        · exact List.pairwise_iff_forall_sublist.2 fun {f g} hsub => by
            have hf := hline f (hsub.subset (by simp))
            have hg := hline g (hsub.subset (by simp))
            omega
        · obtain ⟨j, hj, k, hk, hgk⟩ := (mem_findings_of_gather hgather).2 g hg
          obtain ⟨n', hn'⟩ := Option.isSome_iff_exists.1 (hids j hj)
          rw [hline f hf, (isFoundAt_of_ofId hk g hgk).line n' hn']
          exact hfirst j hj n n' hn hn'

end Inspection

namespace Manifest

variable {text : String} {m : Manifest}

theorem inspect_eq_gather (h : parse text = .ok m) (registry : Registry) :
    m.inspect registry =
      Inspection.gather (Inspection.ofId registry m) (List.range m.nodes.size) := by
  rw [← targetNodes_targets h]
  exact Inspection.gather_ofTarget fun t ht id hid => targetOf_of_mem_targets h ht hid

/-- Targets are made of nodes. -/
theorem exists_node_of_mem_targets (h : parse text = .ok m) {t : Target} (ht : t ∈ m.targets)
    {id : Nat} (hid : id ∈ t.nodes) : ∃ n, m.node? id = some n := by
  have hmem : id ∈ targetNodes m.targets := List.mem_flatMap.2 ⟨t, ht, hid⟩
  rw [targetNodes_targets h, List.mem_range] at hmem
  exact ⟨_, Array.getElem?_eq_getElem hmem⟩

/-- The value of every target is a node. -/
theorem exists_value_targetOf (h : parse text = .ok m) {id : Nat} (hid : id < m.nodes.size) :
    ∃ n, m.node? (m.targetOf id).value = some n := by
  have hmem : id ∈ targetNodes m.targets := by
    rw [targetNodes_targets h]
    exact List.mem_range.2 hid
  obtain ⟨t, ht, hid⟩ := List.mem_flatMap.1 hmem
  rw [targetOf_of_mem_targets h ht hid]
  exact exists_node_of_mem_targets h ht (by cases t <;> simp [Target.nodes, Target.value])

/-- A field has the value that it annotates, if that is a scalar. -/
theorem manifestValue_of_inspect (h : parse text = .ok m) {registry : Registry} {i : Inspection}
    (hi : m.inspect registry = .ok i) : ∀ f ∈ i.findings, ∀ field, f.marker.field? = some field →
      ∃ n, m.node? f.target.value = some n ∧
        field.manifestValue = if n.isScalar then some n.value else none := by
  intro f hf field hfield
  rw [inspect_eq_gather h] at hi
  obtain ⟨id, hid, j, hj, hfj⟩ := (Inspection.mem_findings_of_gather hi).2 f hf
  have hfound := Inspection.isFoundAt_of_ofId hj f hfj
  obtain ⟨n, hn⟩ := exists_value_targetOf h (List.mem_range.1 hid)
  rw [← hfound.target] at hn
  refine ⟨n, hn, ?_⟩
  rw [hfound.value field hfield, hn, Option.bind_some]

/-- An inspection goes on with the comments of one node after the other, in the order of the
document, up to the first fault. Both nodes of a pair stand for the pair, a field gets the value of
its target if that is a scalar, and findings come line by line. -/
theorem inspect_eq_foldlM (h : parse text = .ok m) (registry : Registry) :
    (∃ order, Visits m m.roots order ∧
      m.inspect registry = order.foldlM (m.readComments registry) {}) ∧
    (∀ k v, (k, v) ∈ m.pairs → m.targetOf k = .pair k v ∧ m.targetOf v = .pair k v) ∧
    (∀ id, (∀ k v, (k, v) ∈ m.pairs → id ≠ k ∧ id ≠ v) → m.targetOf id = .node id) ∧
    ∀ i, m.inspect registry = .ok i →
      (∀ f ∈ i.findings, ∀ field, f.marker.field? = some field →
        ∃ n, m.node? f.target.value = some n ∧
          field.manifestValue = if n.isScalar then some n.value else none) ∧
      i.findings.Pairwise fun f g => f.line ≤ g.line := by
  refine ⟨⟨_, visits_of_parse h, ?_⟩, fun k v => targetOf_of_mem_pairs h,
    fun id hno => targetOf_of_not_mem_pairs hno, fun i hi => ⟨manifestValue_of_inspect h hi, ?_⟩⟩
  · rw [Inspection.foldlM_readComments, inspect_eq_gather h]
    cases Inspection.gather (Inspection.ofId registry m) (List.range m.nodes.size) <;> rfl
  · rw [inspect_eq_gather h] at hi
    refine Inspection.pairwise_line_of_gather hi (fun id hid => ?_) ?_
    · simpa [node?] using hid
    · refine List.pairwise_lt_range.imp fun hlt a b ha hb => ?_
      exact line_le_of_pairwise (shaped_of_parse h).2 ha hb (Nat.le_of_lt hlt)

/-- Markers behind a key and behind an item. -/
def markedText : String :=
  "a: # +operator-builder:field:name=b,type=int\n" ++
    "- 1 # +operator-builder:field:name=c,type=int\n"

theorem inspect_eq_foldlM_nested : ∃ m i, parse markedText = .ok m ∧
    m.inspect operatorRegistry = .ok i ∧ i.findings.length = 2 ∧
    (∃ order, Visits m m.roots order ∧
      m.inspect operatorRegistry = order.foldlM (m.readComments operatorRegistry) {}) ∧
    i.findings.Pairwise fun f g => f.line ≤ g.line := by
  have hcount : ((parse markedText).toOption.bind fun m =>
      (m.inspect operatorRegistry).toOption.map fun i => i.findings.length) = some 2 := by
    unfold markedText
    rw [parse_eq_ite, String.toList_append, String.toList_ofList, String.toList_ofList]
    decide +kernel
  obtain ⟨m, hm, hcount⟩ := Option.bind_eq_some_iff.1 hcount
  obtain ⟨i, hi, hlength⟩ := Option.map_eq_some_iff.1 hcount
  have hm := eq_ok_of_toOption hm
  have hi := eq_ok_of_toOption hi
  obtain ⟨horder, -, -, hfindings⟩ := inspect_eq_foldlM hm operatorRegistry
  exact ⟨m, i, hm, hi, hlength, horder, (hfindings i hi).2⟩

end Manifest

end ManifestMarkers
