import ManifestMarkers.Proofs.ManifestOrder

/-!
# Paths in a manifest

What `getPath?` finds from a node, as chains of nodes.

* `Manifest.IsEntry` is the value of the first pair with a key, `Manifest.Chain` a chain of such
  steps from nodes of some kinds.
* `Manifest.getPath?_iff_chain` is the chain that the lookup follows. It reads the content of every
  collection in pairs, so that it goes through sequences as well, as if their items were keys and
  values.
* `Manifest.getPath?_of_parse` says that no step starts at a scalar, and that the lookup follows
  keys of mappings only as long as no sequence on the way happens to have the next key among its
  items.
-/

namespace ManifestMarkers.Manifest

variable {m : Manifest}

/-- The value `v` stands behind the first key with the value `key`, where the nodes `ids` are read
in pairs. -/
def IsEntry (m : Manifest) (ids : List Nat) (key : String) (v : Nat) : Prop :=
  ∃ before k after, pairsOf ids = before ++ (k, v) :: after ∧
    (∃ n, m.node? k = some n ∧ n.value = key) ∧
      ∀ pair ∈ before, ∀ n, m.node? pair.1 = some n → n.value ≠ key

/-- A chain of entries from a node, one for each key of the path, where each step starts at a node
of one of the kinds. -/
inductive Chain (m : Manifest) (kinds : NodeKind → Prop) : Nat → List String → Nat → Prop
  | nil (id : Nat) : Chain m kinds id [] id
  | cons {id v v' : Nat} {n : Node} {key : String} {path : List String}
      (hn : m.node? id = some n) (hkind : kinds n.kind) (hentry : m.IsEntry n.content key v)
      (hrest : Chain m kinds v path v') : Chain m kinds id (key :: path) v'

/-! ### One step -/

theorem any_value_eq_iff {k : Nat} {key : String} :
    ((m.node? k).any (·.value == key)) = true ↔ ∃ n, m.node? k = some n ∧ n.value = key := by
  cases h : m.node? k <;> simp

theorem lookup?_eq_some_iff {ids : List Nat} {key : String} {v : Nat} :
    m.lookup? key ids = some v ↔ m.IsEntry ids key v := by
  fun_induction m.lookup? key ids with
  | case1 k v' rest hkey =>
    obtain ⟨n, hn, hvalue⟩ := any_value_eq_iff.1 hkey
    constructor
    · rintro h
      obtain rfl := Option.some.inj h
      exact ⟨[], k, pairsOf rest, by rw [pairsOf, List.nil_append], ⟨n, hn, hvalue⟩, by simp⟩
    · rintro ⟨_ | ⟨pair, before⟩, k', after, hpairs, -, hbefore⟩
      · rw [pairsOf, List.nil_append] at hpairs
        obtain ⟨hpair, -⟩ := List.cons.inj hpairs
        rw [(Prod.mk.inj hpair).2]
      · -- the first pair has the key already
        rw [pairsOf, List.cons_append] at hpairs
        obtain ⟨rfl, -⟩ := List.cons.inj hpairs
        exact absurd hvalue (hbefore (k, v') (by simp) n hn)
  | case2 k v' rest hkey ih =>
    have hother : ∀ n, m.node? k = some n → n.value ≠ key :=
      fun n hn hvalue => hkey (any_value_eq_iff.2 ⟨n, hn, hvalue⟩)
    rw [ih]
    constructor
    · rintro ⟨before, k', after, hpairs, hk', hbefore⟩
      refine ⟨(k, v') :: before, k', after, by rw [pairsOf, hpairs, List.cons_append], hk', ?_⟩
      exact List.forall_mem_cons.2 ⟨hother, hbefore⟩
    · rintro ⟨_ | ⟨pair, before⟩, k', after, hpairs, ⟨n, hn, hvalue⟩, hbefore⟩
      · rw [pairsOf, List.nil_append] at hpairs
        obtain ⟨hpair, -⟩ := List.cons.inj hpairs
        rw [← (Prod.mk.inj hpair).1] at hn
        exact absurd hvalue (hother n hn)
      · rw [pairsOf, List.cons_append] at hpairs
        obtain ⟨-, hrest⟩ := List.cons.inj hpairs
        exact ⟨before, k', after, hrest, ⟨n, hn, hvalue⟩, (List.forall_mem_cons.1 hbefore).2⟩
  | case3 ids hids =>
    constructor
    · rintro ⟨⟩
    · rintro ⟨before, k, after, hpairs, -⟩
      have hnil : pairsOf ids = [] := by
        unfold pairsOf
        split
        · next k v rest => exact absurd rfl (hids k v rest)
        · rfl
      simp [hnil] at hpairs

/-- A step starts at a node that has content. -/
theorem lookup?_contentOf_eq_some_iff {id : Nat} {key : String} {v : Nat} :
    m.lookup? key (m.contentOf id) = some v ↔
      ∃ n, m.node? id = some n ∧ m.IsEntry n.content key v := by
  unfold contentOf
  split
  · next n hn => simp [hn, lookup?_eq_some_iff]
  · next hn => simp [hn, lookup?]

/-! ### Paths -/

/-- The lookup follows entries from any node. -/
theorem getPath?_iff_chain {id : Nat} {path : List String} {v : Nat} :
    m.getPath? id path = some v ↔ m.Chain (fun _ => True) id path v := by
  induction path generalizing id with
  | nil =>
    constructor
    · rintro h
      obtain rfl := Option.some.inj h
      exact .nil id
    · rintro ⟨⟩
      rfl
  | cons key path ih =>
    rw [getPath?, Option.bind_eq_some_iff]
    constructor
    · rintro ⟨mid, hmid, hrest⟩
      obtain ⟨n, hn, hentry⟩ := lookup?_contentOf_eq_some_iff.1 hmid
      exact .cons hn trivial hentry (ih.1 hrest)
    · rintro (_ | ⟨hn, -, hentry, hrest⟩)
      exact ⟨_, lookup?_contentOf_eq_some_iff.2 ⟨_, hn, hentry⟩, ih.2 hrest⟩

theorem Chain.mono {kinds kinds' : NodeKind → Prop} (hkinds : ∀ k, kinds k → kinds' k) {id v : Nat}
    {path : List String} (h : m.Chain kinds id path v) : m.Chain kinds' id path v := by
  induction h with
  | nil id => exact .nil id
  | cons hn hkind hentry _ ih => exact .cons hn (hkinds _ hkind) hentry ih

/-- A chain is what the lookup follows. -/
theorem Chain.getPath?_eq {kinds : NodeKind → Prop} {id v : Nat} {path : List String}
    (h : m.Chain kinds id path v) : m.getPath? id path = some v :=
  getPath?_iff_chain.2 (h.mono fun _ _ => trivial)

theorem getPath?_append {kinds : NodeKind → Prop} {id mid : Nat} {before : List String}
    (h : m.Chain kinds id before mid) (after : List String) :
    m.getPath? id (before ++ after) = m.getPath? mid after := by
  induction h with
  | nil id => rfl
  | cons hn _ hentry _ ih =>
    rw [List.cons_append, getPath?, lookup?_contentOf_eq_some_iff.2 ⟨_, hn, hentry⟩]
    exact ih

/-- What is behind the first part of a chain. -/
theorem Chain.behind {kinds : NodeKind → Prop} {id mid v : Nat} {before after : List String}
    (h : m.Chain kinds id before mid) (hall : m.Chain kinds id (before ++ after) v) :
    m.Chain kinds mid after v := by
  induction h with
  | nil id => exact hall
  | cons hn _ hentry _ ih =>
    rcases hall with _ | ⟨hn', -, hentry', hrest⟩
    -- both chains start with the one entry of the node
    have heq := (lookup?_contentOf_eq_some_iff.2 ⟨_, hn, hentry⟩).symm.trans
      (lookup?_contentOf_eq_some_iff.2 ⟨_, hn', hentry'⟩)
    obtain rfl := Option.some.inj heq
    exact ih hrest

/-- No sequence that mappings lead to leads any further on the path. -/
def NoSequenceOn (m : Manifest) (id : Nat) (path : List String) : Prop :=
  ∀ before after mid n, path = before ++ after → after ≠ [] →
    m.Chain (· = .mapping) id before mid → m.node? mid = some n → n.kind = .sequence →
      m.getPath? mid after = none

theorem NoSequenceOn.cons {id v : Nat} {n : Node} {key : String} {path : List String}
    (h : m.NoSequenceOn id (key :: path)) (hn : m.node? id = some n) (hkind : n.kind = .mapping)
    (hentry : m.IsEntry n.content key v) : m.NoSequenceOn v path := by
  intro before after mid n' hpath hafter hchain
  exact h (key :: before) after mid n' (by rw [hpath, List.cons_append]) hafter
    (.cons hn hkind hentry hchain)

/-- Without content there are no entries. -/
theorem not_isEntry_nil {key : String} {v : Nat} : ¬ m.IsEntry [] key v := by
  rintro ⟨before, k, after, hpairs, -⟩
  simp [pairsOf] at hpairs

section Parsed

variable {text : String} (h : parse text = .ok m)

include h

/-- A step that starts at a node of a manifest starts at a collection. -/
theorem kind_ne_scalar_of_isEntry {id v : Nat} {n : Node} {key : String}
    (hn : m.node? id = some n) (hentry : m.IsEntry n.content key v) : n.kind ≠ .scalar := by
  intro hkind
  rw [scalar_of_shaped (shaped_of_parse h).1 hn hkind] at hentry
  exact not_isEntry_nil hentry

theorem chain_collections_of_chain {id v : Nat} {path : List String}
    (hchain : m.Chain (fun _ => True) id path v) : m.Chain (· ≠ .scalar) id path v := by
  induction hchain with
  | nil id => exact .nil id
  | cons hn _ hentry _ ih => exact .cons hn (kind_ne_scalar_of_isEntry h hn hentry) hentry ih

theorem chain_mappings_of_chain {id v : Nat} {path : List String}
    (hchain : m.Chain (fun _ => True) id path v) (hno : m.NoSequenceOn id path) :
    m.Chain (· = .mapping) id path v := by
  induction hchain with
  | nil id => exact .nil id
  | @cons id v v' n key path hn _ hentry hrest ih =>
    cases hkind : n.kind with
    | mapping => exact .cons hn hkind hentry (ih (hno.cons hn hkind hentry))
    | scalar => exact absurd hkind (kind_ne_scalar_of_isEntry h hn hentry)
    | sequence =>
      have hnone := hno [] (key :: path) id n rfl (by simp) (.nil id) hn hkind
      rw [(Chain.cons hn trivial hentry hrest).getPath?_eq] at hnone
      cases hnone

/-- In a manifest the lookup follows entries from collection to collection. They are those of
mappings only for a path that no sequence on the way leads further on, and for no other path: such a
sequence is read as pairs of keys and values. -/
theorem getPath?_of_parse (id : Nat) (path : List String) :
    (∀ v, m.getPath? id path = some v ↔ m.Chain (· ≠ .scalar) id path v) ∧
      ((∀ v, m.getPath? id path = some v ↔ m.Chain (· = .mapping) id path v) ↔
        m.NoSequenceOn id path) := by
  refine ⟨fun v => ⟨fun hv => ?_, Chain.getPath?_eq⟩, fun hiff => ?_, fun hno v => ?_⟩
  · exact chain_collections_of_chain h (getPath?_iff_chain.1 hv)
  · rintro before after mid n rfl hafter hchain hn hkind
    refine Option.eq_none_iff_forall_ne_some.2 fun v hv => ?_
    have hall : m.getPath? id (before ++ after) = some v := by rw [getPath?_append hchain, hv]
    -- the chain of mappings would go on from the sequence
    rcases hchain.behind ((hiff v).1 hall) with _ | ⟨hn', hkind', -, -⟩
    · exact hafter rfl
    · rw [hn] at hn'
      cases hn'
      rw [hkind] at hkind'
      cases hkind'
  · exact ⟨fun hv => chain_mappings_of_chain h (getPath?_iff_chain.1 hv) hno, Chain.getPath?_eq⟩

end Parsed

/-- Two keys in a row, and an item of a sequence behind another one that is read as its key. -/
theorem getPath?_of_parse_item : ∃ m, parse "a:\n  b: c\nl:\n- x\n- y\n" = .ok m ∧
    m.Chain (· ≠ .scalar) 0 ["a", "b"] 4 ∧ m.Chain (· ≠ .scalar) 0 ["l", "x"] 8 ∧
      ((∀ v, m.getPath? 0 ["l", "x"] = some v ↔ m.Chain (· = .mapping) 0 ["l", "x"] v) ↔
        m.NoSequenceOn 0 ["l", "x"]) := by
  have h : (parse "a:\n  b: c\nl:\n- x\n- y\n").toOption.map
      (fun m => (m.getPath? 0 ["a", "b"], m.getPath? 0 ["l", "x"])) = some (some 4, some 8) := by
    with_unfolding_all decide
  obtain ⟨m, hm, hpaths⟩ := Option.map_eq_some_iff.1 h
  have hm := eq_ok_of_toOption hm
  obtain ⟨hkeys, hitem⟩ := Prod.mk.inj hpaths
  exact ⟨m, hm, ((getPath?_of_parse hm 0 ["a", "b"]).1 4).1 hkeys,
    ((getPath?_of_parse hm 0 ["l", "x"]).1 8).1 hitem, (getPath?_of_parse hm 0 ["l", "x"]).2⟩

/-- The lookup does not follow keys of mappings only: from the sequence of `a` and `b` the key `a`
leads to `b`. -/
theorem getPath?_of_sequence : ¬ ∀ text m, parse text = .ok m → ∀ id path v,
    m.getPath? id path = some v ↔ m.Chain (· = .mapping) id path v := by
  intro hall
  have h : (parse "- a\n- b\n").toOption.map
      (fun m => (m.getPath? 0 ["a"], (m.node? 0).map (·.kind))) =
        some (some 2, some .sequence) := by with_unfolding_all decide
  obtain ⟨m, hm, hboth⟩ := Option.map_eq_some_iff.1 h
  obtain ⟨hpath, hkind⟩ := Prod.mk.inj hboth
  obtain ⟨n, hn, hsequence⟩ := Option.map_eq_some_iff.1 hkind
  rcases (hall _ m (eq_ok_of_toOption hm) 0 ["a"] 2).1 hpath with _ | ⟨hn', hmapping, -, -⟩
  rw [hn] at hn'
  cases hn'
  rw [hsequence] at hmapping
  cases hmapping

end ManifestMarkers.Manifest
