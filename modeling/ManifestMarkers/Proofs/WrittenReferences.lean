import ManifestMarkers.Proofs.References
import ManifestMarkers.Proofs.WrittenComments

/-!
# References in a written manifest

The pieces of a manifest are cut where no reference can be: at blanks, dashes, colons and line
feeds. So a reference in what is written is in one of the pieces.

* `Piece.IsOf` says what a piece is made of, and `Composed` are such pieces that are cut at gaps;
  `composed_pieces` says so of a manifest.
* `hasReference_text_iff`: the text of a manifest has a reference exactly if one of its pieces has.
* `Shows`: the value and the head comment of a target are among the pieces (`shows_pieces`).
-/

namespace ManifestMarkers.Manifest

/-! ### Gaps -/

/-- Whether what follows `cs` is behind a gap; `gap` says whether `cs` is. -/
def endsGap (gap : Bool) (cs : List Char) : Bool := cs.getLast?.elim gap isGap

/-- Whether a text starts with a gap, if with anything. -/
def startsGap (cs : List Char) : Bool := cs.head?.all isGap

theorem endsGap_append (gap : Bool) (a b : List Char) :
    endsGap gap (a ++ b) = endsGap (endsGap gap a) b := by
  rw [endsGap, List.getLast?_append]
  cases hb : b.getLast? <;> simp [endsGap, hb]

theorem endsGap_of_forall {cs : List Char} (h : ∀ c ∈ cs, isGap c = true) :
    endsGap true cs = true := by
  unfold endsGap
  cases hc : cs.getLast? with
  | none => rfl
  | some c => exact h c (List.mem_of_getLast? hc)

/-- Texts at a gap are apart. -/
theorem apart_of_gap {a b : List Char} (h : endsGap true a = true ∨ startsGap b = true) :
    Apart a b := by
  intro c hc d hd
  rw [Option.mem_def] at hc hd
  simpa [endsGap, startsGap, hc, hd] using h

theorem isGap_of_mem_spaces {n : Nat} : ∀ c ∈ spaces n, isGap c = true := by
  intro c hc
  obtain rfl := List.eq_of_mem_replicate hc
  decide

theorem exists_spaced (cs : List Char) : ∃ lead, (∀ c ∈ lead, isGap c = true) ∧
    spaced cs = lead ++ cs ∧ startsGap (spaced cs) = true := by
  cases cs with
  | nil => exact ⟨[], by simp, rfl, rfl⟩
  | cons c cs => exact ⟨[' '], List.all_eq_true.1 (by decide), rfl, rfl⟩

/-! ### Pieces cut at gaps -/

/-- What a piece is made of. -/
inductive Piece.IsOf (m : Manifest) : Piece → Prop
  | gap {cs : List Char} (h : ∀ c ∈ cs, isGap c = true) : IsOf m (.text cs)
  | scalar {id : Nat} {n : Node} {lead : List Char} (hn : m.node? id = some n)
      (hkind : n.kind = .scalar) (hlead : ∀ c ∈ lead, isGap c = true) :
      IsOf m (.text (lead ++ n.scalarText true))
  | properties {id : Nat} {n : Node} {lead : List Char} (hn : m.node? id = some n)
      (hkind : n.kind ≠ .scalar) (hlead : ∀ c ∈ lead, isGap c = true) :
      IsOf m (.text (lead ++ n.properties true))
  | key {k v : Nat} {key : Node} (hpair : (k, v) ∈ m.pairs) (hkey : m.node? k = some key) :
      IsOf m (.text (key.scalarText false ++ [':']))
  | head {id indent : Nat} {n : Node} {comment : List Char} (hn : m.node? id = some n)
      (h : comment ∈ commentParts n.headComment) : IsOf m (.line (.head id) indent comment)
  | foot {id indent : Nat} {n : Node} {comment : List Char} (hn : m.node? id = some n)
      (h : comment ∈ commentParts n.footComment) : IsOf m (.line (.foot id) indent comment)
  | trail {id : Nat} {n : Node} {comment : List Char} (hn : m.node? id = some n)
      (h : comment ∈ presentComment n.lineComment.toList) : IsOf m (.trail id comment)
  | document {root : Root} {index : Nat} {comment : List Char} (hroot : root ∈ m.documents)
      (h : comment ∈ commentParts root.comment) : IsOf m (.line (.document index) 0 comment)

/-- Every piece is behind a gap or starts with one. -/
def Parted : Bool → List Piece → Prop
  | _, [] => True
  | gap, p :: ps => (gap = true ∨ startsGap p.chars = true) ∧ Parted (endsGap gap p.chars) ps

theorem parted_append {gap : Bool} {ps qs : List Piece} :
    Parted gap (ps ++ qs) ↔ Parted gap ps ∧ Parted (endsGap gap (join ps)) qs := by
  induction ps generalizing gap with
  | nil => simp [Parted, endsGap]
  | cons p ps ih => simp [Parted, ih, and_assoc, endsGap_append]

/-- Pieces of a manifest that are cut at gaps and end with one. -/
structure Composed (m : Manifest) (gap : Bool) (ps : List Piece) : Prop where
  parted : Parted gap ps
  ends : endsGap gap (join ps) = true
  sources : ∀ p ∈ ps, p.IsOf m

section

variable {m : Manifest} {gap : Bool} {ps qs : List Piece}

theorem composed_nil : Composed m true [] := ⟨trivial, rfl, by simp⟩

theorem Composed.append (h : Composed m gap ps) (h' : Composed m true qs) :
    Composed m gap (ps ++ qs) := by
  refine ⟨parted_append.2 ⟨h.parted, ?_⟩, ?_, fun p hp => ?_⟩
  · rw [h.ends]
    exact h'.parted
  · rw [join_append, endsGap_append, h.ends]
    exact h'.ends
  · rcases List.mem_append.1 hp with hp | hp
    · exact h.sources p hp
    · exact h'.sources p hp

theorem Composed.cons {p : Piece} (hp : p.IsOf m) (hstart : gap = true ∨ startsGap p.chars = true)
    (h : Composed m (endsGap gap p.chars) ps) : Composed m gap (p :: ps) := by
  refine ⟨⟨hstart, h.parted⟩, ?_, ?_⟩
  · rw [join_cons, endsGap_append]
    exact h.ends
  · rw [List.forall_mem_cons]
    exact ⟨hp, h.sources⟩

/-- A text of gaps. -/
theorem Composed.blanks {cs : List Char} (hcs : ∀ c ∈ cs, isGap c = true) (h : Composed m true ps) :
    Composed m true (.text cs :: ps) := by
  refine Composed.cons (.gap hcs) (.inl rfl) ?_
  rw [Piece.chars, endsGap_of_forall hcs]
  exact h

/-- The rest of a line, and what stands below it. -/
theorem Composed.line {lead : List Piece} (hlead : ∀ p ∈ lead, startsGap p.chars = true ∧ p.IsOf m)
    (h : Composed m true ps) : Composed m gap (lead ++ .text ['\n'] :: ps) := by
  induction lead generalizing gap with
  | nil => exact Composed.cons (.gap (List.all_eq_true.1 (by decide))) (.inr (by decide)) h
  | cons p lead ih =>
    obtain ⟨hp, hlead⟩ := List.forall_mem_cons.1 hlead
    exact Composed.cons hp.2 (.inr hp.1) (ih hlead)

theorem composed_linePieces {slot : Slot} {text : String} {indent : Nat}
    (h : ∀ comment ∈ commentParts text, Piece.IsOf m (.line slot indent comment)) :
    Composed m true (linePieces slot text indent) := by
  unfold linePieces
  generalize commentParts text = parts at h
  induction parts with
  | nil => exact composed_nil
  | cons part parts ih =>
    obtain ⟨hpart, hparts⟩ := List.forall_mem_cons.1 h
    refine Composed.cons hpart (.inl rfl) ?_
    have hend : endsGap true (Piece.line slot indent part).chars = true := by
      rw [Piece.chars, endsGap_append]
      rfl
    rw [hend]
    exact ih hparts

theorem trailPieces_source {id : Nat} {n : Node} (hn : m.node? id = some n) :
    ∀ p ∈ trailPieces id n, startsGap p.chars = true ∧ p.IsOf m := by
  intro p hp
  obtain ⟨comment, hcomment, rfl⟩ := List.mem_map.1 hp
  exact ⟨rfl, .trail hn hcomment⟩

theorem spaced_source {id : Nat} {n : Node} (hn : m.node? id = some n) :
    startsGap (Piece.text (spaced (if n.isScalar then n.scalarText true
      else n.properties true))).chars = true ∧
    Piece.IsOf m
      (.text (spaced (if n.isScalar then n.scalarText true else n.properties true))) := by
  obtain ⟨lead, hlead, heq, hstart⟩ :=
    exists_spaced (if n.isScalar then n.scalarText true else n.properties true)
  refine ⟨hstart, ?_⟩
  rw [heq]
  split
  · next hkind => exact .scalar hn (by simpa [Node.isScalar] using hkind) hlead
  · next hkind => exact .properties hn (by simpa [Node.isScalar] using hkind) hlead

theorem composed_valuePieces {nested : Nat → List Piece} {k id : Nat} {key : Node}
    (hkey : m.node? k = some key) (hnested : Composed m true (nested id)) :
    Composed m true (valuePieces m true nested k key id) := by
  unfold valuePieces
  cases hn : m.node? id with
  | none => exact composed_nil
  | some n =>
    have hsource := spaced_source hn
    have hlead (p : Piece) (hp : startsGap p.chars = true ∧ p.IsOf m) :
        ∀ q ∈ p :: (trailPieces k key ++ trailPieces id n),
          startsGap q.chars = true ∧ q.IsOf m := by
      rw [List.forall_mem_cons, List.forall_mem_append]
      exact ⟨hp, trailPieces_source hkey, trailPieces_source hn⟩
    dsimp only
    split
    · next hkind =>
      rw [if_pos hkind] at hsource
      exact Composed.line (hlead _ hsource) composed_nil
    · next hkind =>
      rw [if_neg hkind] at hsource
      refine Composed.line (hlead _ hsource)
        ((composed_linePieces fun comment h => ?_).append hnested)
      exact .head hn h

theorem composed_pairsPieces {nested : Nat → List Piece} {indent : Nat} {inline : Bool}
    {ids : List Nat} (hids : ∀ pair ∈ pairsOf ids, pair ∈ m.pairs)
    (hnested : ∀ id, Composed m true (nested id)) :
    Composed m true (pairsPieces m true nested indent inline ids) := by
  fun_induction pairsPieces m true nested indent inline ids with
  | case1 inline k v rest ih =>
    rw [pairsOf, List.forall_mem_cons] at hids
    refine Composed.append ?_ (ih hids.2)
    cases hkey : m.node? k with
    | none => exact composed_nil
    | some key =>
      have hfoot : Composed m true (linePieces (.foot k) key.footComment indent) :=
        composed_linePieces fun comment h => .foot hkey h
      have hpair : Composed m true (.text (key.scalarText false ++ [':']) ::
          (valuePieces m true nested k key v ++ linePieces (.foot k) key.footComment indent)) := by
        refine Composed.cons (.key hids.1 hkey) (.inl rfl) ?_
        have hend : endsGap true (Piece.text (key.scalarText false ++ [':'])).chars = true := by
          rw [Piece.chars, endsGap_append]
          rfl
        rw [hend]
        exact (composed_valuePieces hkey (hnested v)).append hfoot
      have hhead : Composed m true (linePieces (.head k) key.headComment indent) :=
        composed_linePieces fun comment h => .head hkey h
      cases inline with
      | true => exact hpair
      | false => simpa using hhead.append (Composed.blanks isGap_of_mem_spaces hpair)
  | case2 ids inline hids => exact composed_nil

theorem composed_firstHeadPieces (indent : Nat) (n : Node) :
    Composed m true (firstHeadPieces m indent n) := by
  unfold firstHeadPieces
  split
  · exact composed_nil
  · next k _ =>
    cases hkey : m.node? k with
    | none => exact composed_nil
    | some key => exact composed_linePieces fun comment h => .head hkey h

theorem composed_itemPieces {nested : Bool → Nat → List Piece} {indent id : Nat} {n : Node}
    (hn : m.node? id = some n) (hnested : ∀ inline, Composed m true (nested inline id)) :
    Composed m true (itemPieces m true nested indent id n) := by
  have hdash {cs : List Char} (h : ∀ c ∈ cs, isGap c = true) :
      ∀ c ∈ spaces indent ++ '-' :: cs, isGap c = true := by
    rw [List.forall_mem_append, List.forall_mem_cons]
    exact ⟨isGap_of_mem_spaces, by decide, h⟩
  have hitem {cs : List Char} {lead : List Char} (hlead : ∀ c ∈ lead, isGap c = true)
      (hof : Piece.IsOf m (.text ((spaces indent ++ '-' :: lead) ++ cs))) :
      ∀ p ∈ .text (spaces indent ++ '-' :: (lead ++ cs)) :: trailPieces id n,
        startsGap p.chars = true ∧ p.IsOf m := by
    rw [List.forall_mem_cons]
    refine ⟨⟨?_, by simpa using hof⟩, trailPieces_source hn⟩
    cases indent with
    | zero => rfl
    | succ indent => rfl
  unfold itemPieces
  split
  · next hkind =>
    have hkind : n.kind = .scalar := by simpa [Node.isScalar] using hkind
    obtain ⟨lead, hlead, heq, -⟩ := exists_spaced (n.scalarText true)
    rw [heq]
    exact Composed.line (hitem hlead (.scalar hn hkind (hdash hlead))) composed_nil
  · next hkind =>
    have hkind : n.kind ≠ .scalar := by simpa [Node.isScalar] using hkind
    split
    · exact (composed_firstHeadPieces indent n).append
        (Composed.blanks (hdash isGap_of_mem_spaces) (hnested true))
    · obtain ⟨lead, hlead, heq, -⟩ := exists_spaced (n.properties true)
      rw [heq]
      exact Composed.line (hitem hlead (.properties hn hkind (hdash hlead))) (hnested false)

theorem composed_itemsPieces {nested : Bool → Nat → List Piece} {indent : Nat} {ids : List Nat}
    (hnested : ∀ inline id, Composed m true (nested inline id)) :
    Composed m true (itemsPieces m true nested indent ids) := by
  induction ids with
  | nil => exact composed_nil
  | cons id ids ih =>
    rw [itemsPieces, List.flatMap_cons]
    refine Composed.append ?_ ih
    cases hn : m.node? id with
    | none => exact composed_nil
    | some n =>
      have hitem : Composed m true (itemPieces m true nested indent id n) :=
        composed_itemPieces hn fun inline => hnested inline id
      exact ((composed_linePieces fun comment h => .head hn h).append hitem).append
        (composed_linePieces fun comment h => .foot hn h)

theorem composed_collectionPieces (fuel : Nat) (inline : Bool) (id : Nat) :
    Composed m true (collectionPieces m true fuel inline id) := by
  induction fuel generalizing inline id with
  | zero => exact composed_nil
  | succ fuel ih =>
    unfold collectionPieces
    cases hn : m.node? id with
    | none => exact composed_nil
    | some n =>
      dsimp only
      split
      · next hkind =>
        exact composed_pairsPieces (fun pair hpair => mem_pairs_iff.2 ⟨id, n, hn, hkind, hpair⟩)
          (ih false)
      · exact composed_itemsPieces ih
      · exact composed_nil

theorem composed_rootPieces (root : Root) : Composed m true (rootPieces m true root) := by
  unfold rootPieces
  split
  · exact composed_nil
  · next id _ =>
    cases hn : m.node? id with
    | none => exact composed_nil
    | some n =>
      dsimp only
      split
      · next hkind =>
        have hkind : n.kind = .scalar := by simpa [Node.isScalar] using hkind
        have hfoot : Composed m true (linePieces (.foot id) n.footComment n.indent) :=
          composed_linePieces fun comment h => .foot hn h
        refine (composed_linePieces fun comment h => .head hn h).append ?_
        exact Composed.cons (.scalar hn hkind isGap_of_mem_spaces) (.inl rfl)
          (Composed.line (trailPieces_source hn) hfoot)
      · exact composed_collectionPieces _ _ _

theorem composed_documentsPieces {index : Nat} {isFirst : Bool} {roots : List Root}
    (hroots : ∀ root ∈ roots, root ∈ m.documents) :
    Composed m true (documentsPieces m index isFirst roots) := by
  induction roots generalizing index isFirst with
  | nil => exact composed_nil
  | cons root roots ih =>
    obtain ⟨hroot, hroots⟩ := List.forall_mem_cons.1 hroots
    have hdocument : Composed m true (documentPieces m true index root) :=
      (composed_rootPieces root).append (composed_linePieces fun comment h => .document hroot h)
    refine Composed.append (Composed.blanks ?_ hdocument) (ih hroots)
    split <;> exact List.all_eq_true.1 (by decide)

end

/-- The pieces of a manifest are cut at gaps. -/
theorem composed_pieces (m : Manifest) : Composed m true m.pieces :=
  composed_documentsPieces fun _ hroot => hroot

/-! ### A reference is in one of the pieces -/

/-- Pieces behind a text that are cut at gaps are searched one by one. -/
theorem Parted.hasReference_iff {ps : List Piece} (done : List Char)
    (h : Parted (endsGap true done) ps) (hps : ∀ p ∈ ps, Anchored p.chars) :
    HasReference (done ++ join ps) ↔ HasReference done ∨ ∃ p ∈ ps, HasReference p.chars := by
  induction ps generalizing done with
  | nil => simp
  | cons p ps ih =>
    obtain ⟨hp, hps⟩ := List.forall_mem_cons.1 hps
    obtain ⟨hgap, hrest⟩ := h
    rw [← endsGap_append] at hrest
    rw [join_cons, ← List.append_assoc, ih (done ++ p.chars) hrest hps,
      hasReference_append (apart_of_gap hgap) hp]
    simp [or_assoc]

theorem hasReference_text_iff {m : Manifest} (h : ∀ p ∈ m.pieces, Anchored p.chars) :
    HasReference m.text.toList ↔ ∃ p ∈ m.pieces, HasReference p.chars := by
  have hjoin := (composed_pieces m).parted.hasReference_iff [] h
  rw [List.nil_append, join_pieces] at hjoin
  rw [hjoin]
  simp [not_hasReference_nil]

/-! ### Targets among the pieces -/

/-- The value of a target, if it is a scalar, and the comment above the target are among pieces. -/
structure Shows (m : Manifest) (ps : List Piece) (t : Target) : Prop where
  value : ∀ n, m.node? t.value = some n → n.kind = .scalar →
    ∃ lead, (∀ c ∈ lead, isGap c = true) ∧ .text (lead ++ n.scalarText true) ∈ ps
  head : ∀ n, m.node? t.key = some n → ∀ comment ∈ commentParts n.headComment,
    ∃ indent, .line (.head t.key) indent comment ∈ ps

section

variable {m : Manifest} {ps qs : List Piece} {t : Target}

theorem Shows.mono (h : Shows m ps t) (hsubset : ps ⊆ qs) : Shows m qs t where
  value n hn hkind := by
    obtain ⟨lead, hlead, hmem⟩ := h.value n hn hkind
    exact ⟨lead, hlead, hsubset hmem⟩
  head n hn comment hcomment := by
    obtain ⟨indent, hmem⟩ := h.head n hn comment hcomment
    exact ⟨indent, hsubset hmem⟩

/-- The value of a pair is written in a mapping, and so are the comments above the key, unless the
line of the first key has begun. -/
theorem mem_pairsPieces (nested : Nat → List Piece) (indent : Nat) (inline : Bool) {ids : List Nat}
    {k v : Nat} {key : Node} (hpair : (k, v) ∈ pairsOf ids) (hkey : m.node? k = some key) :
    valuePieces m true nested k key v ⊆ pairsPieces m true nested indent inline ids ∧
      (linePieces (.head k) key.headComment indent ⊆ pairsPieces m true nested indent inline ids ∨
        inline = true ∧ ids.head? = some k) := by
  fun_induction pairsPieces m true nested indent inline ids with
  | case1 inline k' v' rest ih =>
    rcases List.mem_cons.1 hpair with heq | hpair
    · cases heq
      rw [hkey]
      refine ⟨fun p hp => by simp [hp], ?_⟩
      cases inline with
      | true => exact .inr ⟨rfl, rfl⟩
      | false => exact .inl fun p hp => by simp [hp]
    · obtain ⟨hvalue, hhead⟩ := ih hpair
      refine ⟨fun p hp => List.mem_append_right _ (hvalue hp), ?_⟩
      rcases hhead with hhead | ⟨hinline, -⟩
      · exact .inl fun p hp => List.mem_append_right _ (hhead hp)
      · cases hinline
  | case2 => simp_all [pairsOf]

theorem shows_pair {nested : Nat → List Piece} {indent k v : Nat} {key : Node}
    (hkey : m.node? k = some key) (hvalue : valuePieces m true nested k key v ⊆ ps)
    (hhead : linePieces (.head k) key.headComment indent ⊆ ps) : Shows m ps (.pair k v) where
  value n hn hkind := by
    obtain ⟨lead, hlead, heq, -⟩ := exists_spaced (n.scalarText true)
    refine ⟨lead, hlead, hvalue ?_⟩
    have hn : m.node? v = some n := hn
    simp [valuePieces, hn, Node.isScalar, hkind, heq]
  head n hn comment hcomment := by
    obtain rfl : key = n := Option.some.inj (hkey.symm.trans hn)
    exact ⟨indent, hhead (List.mem_map_of_mem hcomment)⟩

theorem shows_item {nested : Bool → Nat → List Piece} {indent id : Nat} {n : Node}
    (hn : m.node? id = some n) (hitem : itemPieces m true nested indent id n ⊆ ps)
    (hhead : linePieces (.head id) n.headComment indent ⊆ ps) : Shows m ps (.node id) where
  value n' hn' hkind := by
    obtain rfl : n = n' := Option.some.inj (hn.symm.trans hn')
    obtain ⟨lead, hlead, heq, -⟩ := exists_spaced (n.scalarText true)
    refine ⟨spaces indent ++ '-' :: lead, ?_, hitem ?_⟩
    · rw [List.forall_mem_append, List.forall_mem_cons]
      exact ⟨isGap_of_mem_spaces, by decide, hlead⟩
    · simp [itemPieces, Node.isScalar, hkind, heq]
  head n' hn' comment hcomment := by
    obtain rfl : n = n' := Option.some.inj (hn.symm.trans hn')
    exact ⟨indent, hhead (List.mem_map_of_mem hcomment)⟩

/-- Nothing is below a scalar. -/
theorem kind_of_mem_targetsBelow (hm : m.IsWritable) {fuel id : Nat} {n : Node}
    (hn : m.node? id = some n) (ht : t ∈ m.targetsBelow fuel id) : n.kind ≠ .scalar := by
  intro hkind
  rw [targetsBelow_of_leaf (hm.contentOf_scalar hn hkind)] at ht
  cases ht

/-- The targets below a collection are written. The comments above the first key may stand before
the collection. -/
theorem shows_collectionPieces (hm : m.IsWritable) (fuel : Nat) (inline : Bool) (indent : Nat)
    {id : Nat} {n : Node} (hn : m.node? id = some n) (ht : t ∈ m.targetsBelow fuel id) :
    Shows m ((if inline then firstHeadPieces m indent n else []) ++
      collectionPieces m true fuel inline id) t := by
  induction fuel generalizing inline indent id n with
  | zero => cases ht
  | succ fuel ih =>
    rw [targetsBelow, hn] at ht
    rw [collectionPieces, hn]
    dsimp only at ht ⊢
    cases hk : n.kind with
    | mapping =>
      simp only [hk, List.mem_flatMap] at ht
      obtain ⟨⟨k, v⟩, hpair, ht⟩ := ht
      obtain ⟨-, -, hpairs⟩ := hm.mapping id n hn hk
      obtain ⟨⟨key, hkey, -⟩, value, hvalue, -⟩ := hpairs k v hpair
      obtain ⟨hvalues, hheads⟩ :=
        mem_pairsPieces (collectionPieces m true fuel false) n.indent inline hpair hkey
      rcases List.mem_cons.1 ht with rfl | ht
      · rcases hheads with hheads | ⟨rfl, hfirst⟩
        · exact shows_pair hkey (fun p hp => List.mem_append_right _ (hvalues hp))
            fun p hp => List.mem_append_right _ (hheads hp)
        · -- the first key stands behind a dash, and the comments above it above the dash
          have hhead : firstHeadPieces m indent n =
              linePieces (.head k) key.headComment indent := by
            simp [firstHeadPieces, hfirst, hkey]
          rw [if_pos rfl, hhead]
          exact shows_pair hkey (fun p hp => List.mem_append_right _ (hvalues hp))
            fun p hp => List.mem_append_left _ hp
      · have hkind := kind_of_mem_targetsBelow hm hvalue ht
        refine (ih false indent hvalue ht).mono fun p hp => List.mem_append_right _ (hvalues ?_)
        have hp : p ∈ collectionPieces m true fuel false v := by simpa using hp
        simp [valuePieces, hvalue, Node.isScalar, hkind, hp]
    | sequence =>
      simp only [hk, List.mem_flatMap] at ht
      obtain ⟨i, hi, ht⟩ := ht
      obtain ⟨item, hitem⟩ := hm.sequence id n hn hk i hi
      have hwritten : linePieces (.head i) item.headComment n.indent ++
          itemPieces m true (collectionPieces m true fuel) n.indent i item ⊆
          itemsPieces m true (collectionPieces m true fuel) n.indent n.content := by
        intro p hp
        refine List.mem_flatMap.2 ⟨i, hi, ?_⟩
        rw [hitem]
        exact List.mem_append_left _ hp
      rcases List.mem_cons.1 ht with rfl | ht
      · exact shows_item hitem
          (fun p hp => List.mem_append_right _ (hwritten (List.mem_append_right _ hp)))
          fun p hp => List.mem_append_right _ (hwritten (List.mem_append_left _ hp))
      · have hkind := kind_of_mem_targetsBelow hm hitem ht
        refine (ih (isCompact item) n.indent hitem ht).mono fun p hp =>
          List.mem_append_right _ (hwritten (List.mem_append_right _ ?_))
        unfold itemPieces
        rw [if_neg (by simpa [Node.isScalar] using hkind)]
        split
        · next hcompact =>
          rw [hcompact] at hp
          rcases List.mem_append.1 hp with hp | hp
          · exact List.mem_append_left _ hp
          · exact List.mem_append_right _ (List.mem_cons_of_mem _ hp)
        · next hcompact =>
          rw [Bool.not_eq_true] at hcompact
          have hp : p ∈ collectionPieces m true fuel false i := by simpa [hcompact] using hp
          simp [hp]
    | scalar => simp [hk, hm.scalar id n hn hk] at ht

theorem rootPieces_subset {root : Root} {index : Nat} {isFirst : Bool} {roots : List Root}
    (hroot : root ∈ roots) : rootPieces m true root ⊆ documentsPieces m index isFirst roots := by
  induction roots generalizing index isFirst with
  | nil => cases hroot
  | cons first roots ih =>
    intro p hp
    rcases List.mem_cons.1 hroot with rfl | hroot
    · refine List.mem_append_left _ (List.mem_cons_of_mem _ (List.mem_append_left _ hp))
    · exact List.mem_append_right _ (ih hroot hp)

/-- The targets of a manifest whose values are scalars are written. -/
theorem shows_pieces (hm : m.IsWritable) (ht : t ∈ m.targets) {n : Node}
    (hn : m.node? t.value = some n) (hkind : n.kind = .scalar) : Shows m m.pieces t := by
  obtain ⟨id, hid, ht⟩ := List.mem_flatMap.1 ht
  obtain ⟨root, hroot, hnode⟩ := List.mem_filterMap.1 hid
  -- a target is the root itself, which is then a scalar, or below it
  suffices h : Shows m (rootPieces m true root) t from h.mono (rootPieces_subset hroot)
  unfold rootPieces
  rw [hnode]
  dsimp only
  rcases List.mem_cons.1 ht with rfl | ht
  · have hn : m.node? id = some n := hn
    rw [hn]
    dsimp only
    rw [if_pos (by simpa [Node.isScalar] using hkind)]
    refine ⟨fun n' hn' _ => ?_, fun n' hn' comment hcomment => ?_⟩
    · obtain rfl : n = n' := Option.some.inj (hn.symm.trans hn')
      exact ⟨spaces n.indent, isGap_of_mem_spaces, by simp [scalarLinePieces]⟩
    · obtain rfl : n = n' := Option.some.inj (hn.symm.trans hn')
      exact ⟨n.indent, List.mem_append_left _ (List.mem_map_of_mem hcomment)⟩
  · cases hroot' : m.node? id with
    | none => simp [targetsBelow, hroot'] at ht
    | some top =>
      have htop := kind_of_mem_targetsBelow hm hroot' ht
      dsimp only
      rw [if_neg (by simpa [Node.isScalar] using htop)]
      simpa using shows_collectionPieces hm _ false 0 hroot' ht

end

end ManifestMarkers.Manifest
