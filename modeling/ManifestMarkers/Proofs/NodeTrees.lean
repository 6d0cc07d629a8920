import ManifestMarkers.Proofs.TreeValues
import ManifestMarkers.Proofs.UnchangedValues

/-!
# Trees of manifests

The nodes of a manifest are a tree over the numbers of their scalars. The text that is written of
the manifest has the tokens of this tree, so its value is that of the tree.

* `Nest.Gains` says which tokens parts give, and how far collections are closed behind them.
* `HasTree` relates the nodes of a manifest to their tree.
* `exists_laid_of_tree`: the parts of nodes give the tokens of their tree.
* `value_of_tree` and `value_eq_valueWith`: the value of a manifest is that of its tree.
* `exists_tree`: a manifest that is read is a tree.
-/

namespace ManifestMarkers.Yaml

/-! ### Tokens of parts -/

/-- A dash or key at this column. -/
def Part.StandsAt (column : Int) : Part → Prop
  | .dash c | .key c _ => c = column
  | .scalar _ => False

namespace Nest

/-- More tokens behind those so far. -/
def pushAll (n : Nest) (ts : List Token) : Nest := { n with tokens := n.tokens ++ ts }

variable {n : Nest} {a b parts : List Part} {ts us : List Token} {part : Part} {column : Nat}

@[simp] theorem indent_pushAll : (n.pushAll ts).indent = n.indent := rfl

theorem pushAll_pushAll : (n.pushAll ts).pushAll us = n.pushAll (ts ++ us) := by
  have htokens : n.tokens ++ ts ++ us = n.tokens ++ (ts ++ us) := Array.toList_inj.1 (by simp)
  simp only [pushAll, htokens]

theorem push_eq_pushAll (n : Nest) (token : Token) : n.push token = n.pushAll [token] := by
  simp [push, pushAll]

theorem close_pushAll (n : Nest) (ts : List Token) :
    (n.pushAll ts).close n.indent = n.pushAll ts := close_of_le (Int.le_refl _)

/-- The parts give these tokens, and leave open what was open before. -/
def Gains (n : Nest) (parts : List Part) (ts : List Token) : Prop :=
  (parts.foldl add n).close n.indent = n.pushAll ts

theorem gains_nil (n : Nest) : n.Gains [] [] := by
  have hnothing : n.pushAll [] = n := by simp [pushAll]
  show n.close n.indent = n.pushAll []
  rw [hnothing, close_of_le (Int.le_refl _)]

theorem gains_scalar (n : Nest) (token : Token) : n.Gains [.scalar token] [token] := by
  show (n.push token).close n.indent = _
  rw [push_eq_pushAll, close_pushAll]

/-- A dash or key closes what is deeper. -/
theorem add_close {c : Int} (h : part.StandsAt c) (n : Nest) :
    (n.close c).add part = n.add part := by
  cases part with
  | scalar token => exact h.elim
  | dash d =>
    obtain rfl : (d : Int) = c := h
    rw [add, add, close_close (Int.le_refl _)]
  | key d name =>
    obtain rfl : (d : Int) = c := h
    rw [add, add, close_close (Int.le_refl _)]

theorem Gains.append (h : n.Gains a ts) (hb : ∀ part ∈ b.head?, part.StandsAt n.indent)
    (h' : (n.pushAll ts).Gains b us) : n.Gains (a ++ b) (ts ++ us) := by
  unfold Gains at h h' ⊢
  rw [List.foldl_append, ← pushAll_pushAll, ← h']
  cases b with
  | nil =>
    show (a.foldl add n).close n.indent = (n.pushAll ts).close n.indent
    rw [h, close_pushAll]
  | cons part b => rw [List.foldl_cons, List.foldl_cons, ← add_close (hb part rfl), h]; rfl

/-- A part of the innermost collection, and what follows. -/
theorem Gains.cons (hadd : n.add part = n.pushAll ts) (h : (n.pushAll ts).Gains parts us) :
    n.Gains (part :: parts) (ts ++ us) := by
  unfold Gains at h ⊢
  rw [List.foldl_cons, hadd, ← pushAll_pushAll]
  exact h

theorem add_dash (h : n.indent = column) : n.add (.dash column) = n.pushAll [.blockEntry] := by
  rw [add, close_of_le (by omega), enter, if_pos (by omega)]
  simp [push, pushAll]

theorem add_key (h : n.indent = column) (name : Token) :
    n.add (.key column name) = n.pushAll [.key, name, .value] := by
  rw [add, close_of_le (by omega), enter, if_pos (by omega)]
  simp [push, pushAll]

/-- A collection that is deeper is opened and closed. -/
theorem Gains.nested {start : Token} (hlt : n.indent < column)
    (hadd : n.add part = (n.enter column start).add part)
    (h : (n.enter column start).Gains (part :: parts) ts) :
    n.Gains (part :: parts) (start :: (ts ++ [.blockEnd])) := by
  have henter : n.enter column start = ⟨column, n.indent :: n.outer, n.tokens.push start⟩ := by
    rw [enter, if_neg (by omega)]
  unfold Gains at h ⊢
  rw [List.foldl_cons, hadd, ← List.foldl_cons, ← close_close (Int.le_of_lt hlt)]
  rw [henter] at h ⊢
  have htokens : (n.tokens.push start ++ ts).push .blockEnd =
      n.tokens ++ (start :: (ts ++ [.blockEnd])) := Array.toList_inj.1 (by simp)
  rw [h]
  refine Eq.trans ?_ (close_pushAll n _)
  simp only [close, pushAll, Scan.unrollFrom, gt_iff_lt, hlt, if_true, htokens]

theorem add_dash_enter (hlt : n.indent < column) : n.add (.dash column) =
    (n.enter column .blockSequenceStart).add (.dash column) := by
  have hindent := indent_enter (Int.le_of_lt hlt) .blockSequenceStart
  rw [add, add, close_of_le (Int.le_of_lt hlt), close_of_le (Int.le_of_eq hindent), enter, enter,
    if_neg (by omega), if_pos (Int.le_refl _)]

theorem add_key_enter (hlt : n.indent < column) (name : Token) : n.add (.key column name) =
    (n.enter column .blockMappingStart).add (.key column name) := by
  have hindent := indent_enter (Int.le_of_lt hlt) .blockMappingStart
  rw [add, add, close_of_le (Int.le_of_lt hlt), close_of_le (Int.le_of_eq hindent), enter, enter,
    if_neg (by omega), if_pos (Int.le_refl _)]

end Nest

/-- The scalar is written as this text. -/
def Leaf.IsWrittenAs (raw : List Char) : Leaf → Prop
  | some (text, style) => LineScalar raw (.scalar text style)
  | none => raw = []

theorem LineScalar.exists_scalar {raw : List Char} {token : Token} (h : LineScalar raw token) :
    ∃ text style, token = .scalar text style := by
  cases h <;> exact ⟨_, _, rfl⟩

theorem Leaf.IsWrittenAs.scalarParts {raw : List Char} {x : Leaf} (h : x.IsWrittenAs raw) :
    ScalarParts raw (x.tokens.map .scalar) := by
  cases x with
  | none =>
    obtain rfl : raw = [] := h
    exact .empty
  | some scalar => exact .line h

theorem Nest.gains_leaf (n : Nest) (x : Leaf) : n.Gains (x.tokens.map .scalar) x.tokens := by
  cases x with
  | none => exact gains_nil n
  | some scalar => exact gains_scalar n _

end ManifestMarkers.Yaml

namespace ManifestMarkers.Manifest

open Yaml

/-! ### Trees of nodes -/

/-- The nodes of a manifest are those of the tree, and what a collection holds stands further to the
right; only a sequence may stand at the column of its key. -/
inductive HasTree (m : Manifest) : Place → {l : Layer} → Yaml.Tree l → Prop
  | scalar {id : Nat} {n : Node} (hn : m.node? id = some n) (hkind : n.kind = .scalar) :
      HasTree m (.node id) (.scalar id)
  | mapping {id : Nat} {n : Node} {pairs : Yaml.Tree (.pairs true)} (hn : m.node? id = some n)
      (hkind : n.kind = .mapping) (h : HasTree m (.pairs n.indent n.content) pairs) :
      HasTree m (.node id) (.mapping pairs)
  | sequence {id : Nat} {n : Node} {aligned : Bool} {items : Yaml.Tree (.items true)}
      (hn : m.node? id = some n) (hkind : n.kind = .sequence)
      (h : HasTree m (.items n.indent n.content) items) :
      HasTree m (.node id) (.sequence items : Yaml.Tree (.node aligned))
  | noPairs {column : Nat} : HasTree m (.pairs column []) .noPairs
  | pair {column k v : Nat} {ids : List Nat} {aligned filled : Bool} {key : Node}
      {value : Yaml.Tree (.node aligned)} {more : Yaml.Tree (.pairs filled)}
      (hkey : m.node? k = some key) (hscalar : key.kind = .scalar)
      (hcolumn : ∀ n, m.node? v = some n → n.kind ≠ .scalar →
        if aligned then n.indent = column else column < n.indent)
      (hvalue : HasTree m (.node v) value) (hmore : HasTree m (.pairs column ids) more) :
      HasTree m (.pairs column (k :: v :: ids)) (.pair k value more)
  | noItems {column : Nat} : HasTree m (.items column []) .noItems
  | item {column i : Nat} {ids : List Nat} {filled : Bool} {value : Yaml.Tree (.node false)}
      {more : Yaml.Tree (.items filled)}
      (hcolumn : ∀ n, m.node? i = some n → n.kind ≠ .scalar → column < n.indent)
      (hcompact : ∀ n, m.node? i = some n → isCompact n = true → column + 2 ≤ n.indent)
      (hitem : HasTree m (.node i) value) (hmore : HasTree m (.items column ids) more) :
      HasTree m (.items column (i :: ids)) (.item value more)

/-- The text of a key. -/
structure IsKeyText (cs : List Char) : Prop where
  ne_nil : cs ≠ []
  length : Text.byteSize cs ≤ Scan.maxKeyLength
  marker : startsMarker cs = false

/-- The scalars of a manifest without properties stand on one line each. -/
structure IsWrittenBy (m : Manifest) (leaf : Nat → Leaf) : Prop where
  bare : ∀ id n, m.node? id = some n → n.HasNoProperties
  scalar : ∀ id n, m.node? id = some n → n.kind = .scalar →
    (leaf id).IsWrittenAs (n.scalarText false)

/-- The tokens that the parts of a place give. -/
def Gives (m : Manifest) (leaf : Nat → Leaf) (parts : List Part) :
    Place → {l : Layer} → Yaml.Tree l → Prop
  | .node id, .node aligned, t => ∀ nest : Nest,
    (∀ n, m.node? id = some n → n.kind ≠ .scalar →
      if aligned then nest.indent = n.indent else nest.indent < n.indent) →
    nest.Gains parts (t.tokens leaf)
  | .pairs column _, .pairs filled, t => (filled = true → parts ≠ []) ∧
    (∀ part ∈ parts.head?, ∃ name, part = .key column name) ∧
    ∀ nest : Nest, nest.indent = column → nest.Gains parts (t.tokens leaf)
  | .items column _, .items filled, t => (filled = true → parts ≠ []) ∧
    (∀ part ∈ parts.head?, part = .dash column) ∧
    ∀ nest : Nest, nest.indent = column → nest.Gains parts (t.tokens leaf)
  | _, _, _ => False

section

variable {m : Manifest} {leaf : Nat → Leaf}

/-- The nodes of a tree have parts, which give its tokens. The induction is on the tree. -/
theorem exists_laid_of_tree {place : Place} {l : Layer} {t : Yaml.Tree l}
    (hwritten : m.IsWrittenBy leaf) (h : HasTree m place t)
    (hkeys : ∀ k ∈ t.keys, ∀ n, m.node? k = some n → IsKeyText (n.scalarText false)) :
    ∃ parts, Laid m place parts ∧ Gives m leaf parts place t := by
  induction h with
  | @scalar id n hn hkind =>
    have hraw := hwritten.scalar id n hn hkind
    exact ⟨_, .scalar hn hkind (hwritten.bare id n hn) hraw.scalarParts,
      fun nest _ => nest.gains_leaf (leaf id)⟩
  | @mapping id n pairs hn hkind h ih =>
    obtain ⟨parts, hparts, hfilled, hhead, hgains⟩ := ih hkeys
    refine ⟨parts, .mapping hn hkind (hwritten.bare id n hn) hparts, fun nest hnest => ?_⟩
    have hlt : nest.indent < n.indent := hnest n hn (by simp [hkind])
    obtain ⟨part, parts, rfl⟩ := List.exists_cons_of_ne_nil (hfilled rfl)
    obtain ⟨name, rfl⟩ := hhead part rfl
    exact Nest.Gains.nested hlt (Nest.add_key_enter hlt name)
      (hgains _ (Nest.indent_enter (Int.le_of_lt hlt) _))
  | @sequence id n aligned items hn hkind h ih =>
    obtain ⟨parts, hparts, hfilled, hhead, hgains⟩ := ih hkeys
    refine ⟨parts, .sequence hn hkind (hwritten.bare id n hn) hparts, fun nest hnest => ?_⟩
    have hindent := hnest n hn (by simp [hkind])
    cases aligned with
    | true => exact hgains nest hindent
    | false =>
      have hlt : nest.indent < n.indent := hindent
      obtain ⟨part, parts, rfl⟩ := List.exists_cons_of_ne_nil (hfilled rfl)
      obtain rfl := hhead part rfl
      exact Nest.Gains.nested hlt (Nest.add_dash_enter hlt)
        (hgains _ (Nest.indent_enter (Int.le_of_lt hlt) _))
  | noPairs => exact ⟨[], .noPairs, nofun, nofun, fun nest _ => nest.gains_nil⟩
  | @pair column k v ids aligned filled key value more hkey hscalar hcolumn hvalue hmore ihvalue
      ihmore =>
    obtain ⟨values, hvalues, hvalueGains⟩ := ihvalue fun i hi => hkeys i (by simp [Tree.keys, hi])
    obtain ⟨parts, hparts, -, hhead, hgains⟩ := ihmore fun i hi => hkeys i (by simp [Tree.keys, hi])
    have htext := hkeys k (by simp [Tree.keys]) key hkey
    have hname := hwritten.scalar k key hkey hscalar
    cases hleaf : leaf k with
    | none =>
      rw [hleaf] at hname
      exact absurd hname htext.ne_nil
    | some name =>
      rw [hleaf] at hname
      have hle : ∀ n, m.node? v = some n → n.kind ≠ .scalar → column ≤ n.indent := by
        intro n hn hkind
        have hn := hcolumn n hn hkind
        split at hn <;> omega
      refine ⟨_, .pair hkey (hwritten.bare k key hkey) hname htext.length (fun _ => htext.marker)
        hle hvalues hparts, fun _ => List.cons_ne_nil _ _, ?_, fun nest hnest => ?_⟩
      · rintro part ⟨⟩
        exact ⟨_, rfl⟩
      · have hadd := Nest.add_key hnest (.scalar name.1 name.2)
        have hvalue := hvalueGains (nest.pushAll [.key, .scalar name.1 name.2, .value])
          fun n hn hk => by
            have hn := hcolumn n hn hk
            rw [Nest.indent_pushAll, hnest]
            split at hn
            · next haligned => rw [if_pos haligned, hn]
            · next haligned =>
              rw [if_neg haligned]
              omega
        have hboth := hvalue.append (b := parts) (fun part hpart => by
          obtain ⟨name, rfl⟩ := hhead part hpart
          exact hnest.symm) (hgains _ hnest)
        have htokens := Nest.Gains.cons hadd hboth
        rw [Tree.tokens, hleaf]
        exact htokens
  | noItems => exact ⟨[], .noItems, nofun, nofun, fun nest _ => nest.gains_nil⟩
  | @item column i ids filled value more hcolumn hcompact hitem hmore ihitem ihmore =>
    obtain ⟨values, hvalues, hvalueGains⟩ := ihitem fun j hj => hkeys j (by simp [Tree.keys, hj])
    obtain ⟨parts, hparts, -, hhead, hgains⟩ := ihmore fun j hj => hkeys j (by simp [Tree.keys, hj])
    refine ⟨_, .item (fun n hn hkind => Nat.le_of_lt (hcolumn n hn hkind)) hcompact hvalues hparts,
      fun _ => List.cons_ne_nil _ _, ?_, fun nest hnest => ?_⟩
    · rintro part ⟨⟩
      rfl
    · have hvalue := hvalueGains (nest.pushAll [.blockEntry]) fun n hn hk => by
        have hlt := hcolumn n hn hk
        rw [Nest.indent_pushAll, hnest, if_neg Bool.false_ne_true]
        omega
      have hboth := hvalue.append (b := parts) (fun part hpart => by
        obtain rfl := hhead part hpart
        exact hnest.symm) (hgains _ hnest)
      exact Nest.Gains.cons (Nest.add_dash hnest) hboth

end

/-! ### Values of nodes -/

/-- What a node stands for with the values of the scalars below it. The fuel bounds the depth. -/
def valueFrom (m : Manifest) (f : Nat → Value) : Nat → Nat → Value
  | 0, _ => .null
  | fuel + 1, id => match m.node? id with
    | none => .null
    | some n => match n.kind with
      | .scalar => f id
      | .mapping => .mapping ((pairsOf n.content).map fun (k, v) => (f k, valueFrom m f fuel v))
      | .sequence => .sequence (n.content.map (valueFrom m f fuel))

/-- What the first document stands for with the values of its scalars. One that is not there is
null. -/
def valueWith (m : Manifest) (f : Nat → Value) : Value :=
  match m.root? 0 with
  | none => .null
  | some id => m.valueFrom f m.nodes.size id

/-- The tree of a place stands for what its nodes stand for. -/
def HasValue (m : Manifest) (f : Nat → Value) : Place → {l : Layer} → Yaml.Tree l → Prop
  | .node id, .node _, t => ∀ fuel, m.nodes.size ≤ id + fuel → t.value f = m.valueFrom f fuel id
  | .pairs _ ids, .pairs _, t => ∀ lo fuel, (∀ i ∈ ids, lo < i) → m.nodes.size ≤ lo + fuel + 1 →
    t.value f = (pairsOf ids).map fun (k, v) => (f k, m.valueFrom f fuel v)
  | .items _ ids, .items _, t => ∀ lo fuel, (∀ i ∈ ids, lo < i) → m.nodes.size ≤ lo + fuel + 1 →
    t.value f = ids.map (m.valueFrom f fuel)
  | _, _, _ => False

section

variable {m : Manifest}

theorem hasValue_of_tree (hm : m.IsWritable) (f : Nat → Value) {place : Place} {l : Layer}
    {t : Yaml.Tree l} (h : HasTree m place t) : HasValue m f place t := by
  have hfuel {id fuel : Nat} {n : Node} (hn : m.node? id = some n)
      (hsize : m.nodes.size ≤ id + fuel) : ∃ fuel', fuel = fuel' + 1 := by
    have hlt : id < m.nodes.size := (Array.getElem?_eq_some_iff.1 hn).1
    exact ⟨fuel - 1, by omega⟩
  induction h with
  | scalar hn hkind =>
    intro fuel hsize
    obtain ⟨fuel, rfl⟩ := hfuel hn hsize
    rw [valueFrom, hn]
    simp only [hkind]
    rfl
  | @mapping id n pairs hn hkind h ih =>
    intro fuel hsize
    obtain ⟨fuel, rfl⟩ := hfuel hn hsize
    rw [valueFrom, hn]
    simp only [hkind]
    rw [Tree.value, ih id fuel (hm.rising id n hn) (by omega)]
  | @sequence id n aligned items hn hkind h ih =>
    intro fuel hsize
    obtain ⟨fuel, rfl⟩ := hfuel hn hsize
    rw [valueFrom, hn]
    simp only [hkind]
    rw [Tree.value, ih id fuel (hm.rising id n hn) (by omega)]
  | noPairs => exact fun _ _ _ _ => rfl
  | @pair column k v ids aligned filled key value more hkey hscalar hcolumn hvalue hmore ihvalue
      ihmore =>
    intro lo fuel hids hsize
    have hv := hids v (by simp)
    have hmore := ihmore lo fuel (fun i hi => hids i (by simp [hi])) hsize
    rw [Tree.value, ihvalue fuel (by omega), hmore]
    rfl
  | noItems => exact fun _ _ _ _ => rfl
  | @item column i ids filled value more hcolumn hcompact hitem hmore ihitem ihmore =>
    intro lo fuel hids hsize
    have hi := hids i (by simp)
    have hmore := ihmore lo fuel (fun j hj => hids j (by simp [hj])) hsize
    rw [Tree.value, ihitem fuel (by omega), hmore]
    rfl

/-- The value of a manifest is that of its tree. -/
theorem value_of_tree {leaf : Nat → Leaf} {root : Root} {id : Nat} {n : Node}
    {t : Yaml.Tree (.node false)} (hm : m.IsWritable)
    (hremarks : ∀ id n, m.node? id = some n → n.HasRemarks)
    (hcomment : ∀ line ∈ commentParts root.comment, IsRemark line) (hwritten : m.IsWrittenBy leaf)
    (hdocuments : m.documents = [root]) (hroot : root.node = some id) (hn : m.node? id = some n)
    (hkind : n.kind ≠ .scalar) (ht : HasTree m (.node id) t)
    (hkeys : ∀ k ∈ t.keys, ∀ n, m.node? k = some n → IsKeyText (n.scalarText false)) (w : Value) :
    m.value 0 = .ok w ↔
      t.value? (fun i => (leaf i).value?) Decoder.maxDepth [] = some w := by
  obtain ⟨parts, hlaid, hgives⟩ := exists_laid_of_tree hwritten ht hkeys
  have hspells := spells_documentText hm hremarks hcomment (.node hroot hn hkind hlaid)
  have hgains : Nest.Gains {} parts (t.tokens leaf) := hgives {} fun n' _ _ => by
    show (-1 : Int) < n'.indent
    omega
  have hfinish : (parts.foldl Nest.add {}).finish.toList = t.tokens leaf := by
    have htokens := congrArg (fun nest : Nest => nest.tokens.toList) hgains
    simpa [Nest.finish, Nest.pushAll] using htokens
  have hscan : scan? (documentText m false root) = some (t.tokens leaf) := by
    rw [← hfinish]
    exact (scan?_of_spells hspells).resolve_right (by simp)
  have hstart : ∃ token ts, t.tokens leaf = token :: ts ∧
      (token = .blockMappingStart ∨ token = .blockSequenceStart) := by
    cases ht with
    | scalar hn' hscalar =>
      cases hn.symm.trans hn'
      exact absurd hscalar hkind
    | mapping => exact ⟨_, _, rfl, .inl rfl⟩
    | sequence => exact ⟨_, _, rfl, .inr rfl⟩
  obtain ⟨token, ts, htokens, htoken⟩ := hstart
  have hdecode : decode? (documentText m false root) =
      t.value? (fun i => (leaf i).value?) Decoder.maxDepth [] := by
    rw [← Tree.document_of_tree, decode?, documents?, hscan]
    simp only [Option.bind_eq_bind, Option.bind_some]
    rw [Tree.documents_of_tree htokens htoken]
    rfl
  simp only [value, hdocuments, List.getElem?_cons_zero, hdecode]
  cases t.value? (fun i => (leaf i).value?) Decoder.maxDepth [] <;> simp

end

/-! ### The tree of a manifest -/

/-- The keys of the tree are keys of pairs. -/
def HasKeysOf (m : Manifest) {l : Layer} (t : Yaml.Tree l) : Prop :=
  ∀ k ∈ t.keys, ∃ v, (k, v) ∈ m.pairs

section

variable {m : Manifest}

theorem exists_tree_pairs (column : Nat) {ids : List Nat} (heven : Even ids.length)
    (hpairs : ∀ k v, (k, v) ∈ pairsOf ids → (k, v) ∈ m.pairs ∧
      (∃ key, m.node? k = some key ∧ key.kind = .scalar) ∧
      ∃ aligned, ∃ t : Yaml.Tree (.node aligned), HasTree m (.node v) t ∧ m.HasKeysOf t ∧
        ∀ n, m.node? v = some n → n.kind ≠ .scalar →
          if aligned then n.indent = column else column < n.indent) :
    ∃ filled, ∃ t : Yaml.Tree (.pairs filled), (ids ≠ [] → filled = true) ∧
      HasTree m (.pairs column ids) t ∧ m.HasKeysOf t := by
  fun_induction pairsOf ids with
  | case1 k v rest ih =>
    obtain ⟨hpair, ⟨key, hkey, hscalar⟩, aligned, t, ht, hkeys, hcolumn⟩ :=
      hpairs k v List.mem_cons_self
    have hrest : Even rest.length := by
      have hlength : (k :: v :: rest).length = rest.length + 2 := rfl
      simpa [hlength, Nat.even_add_one] using heven
    obtain ⟨filled, more, -, hmore, hmoreKeys⟩ :=
      ih hrest fun k' v' h => hpairs k' v' (List.mem_cons_of_mem _ h)
    refine ⟨true, _, fun _ => rfl, .pair hkey hscalar hcolumn ht hmore, fun i hi => ?_⟩
    simp only [Tree.keys, List.mem_cons, List.mem_append] at hi
    rcases hi with rfl | hi | hi
    · exact ⟨v, hpair⟩
    · exact hkeys i hi
    · exact hmoreKeys i hi
  | case2 ids hne =>
    cases ids with
    | nil => exact ⟨false, _, fun h => absurd rfl h, .noPairs, by simp [HasKeysOf, Tree.keys]⟩
    | cons k ids =>
      cases ids with
      | nil => simp at heven
      | cons v rest => exact absurd rfl (hne k v rest)

theorem exists_tree_items (column : Nat) {ids : List Nat}
    (hitems : ∀ i ∈ ids, (∀ n, m.node? i = some n → n.kind ≠ .scalar → column < n.indent) ∧
      (∀ n, m.node? i = some n → isCompact n = true → column + 2 ≤ n.indent) ∧
      ∃ t : Yaml.Tree (.node false), HasTree m (.node i) t ∧ m.HasKeysOf t) :
    ∃ filled, ∃ t : Yaml.Tree (.items filled), (ids ≠ [] → filled = true) ∧
      HasTree m (.items column ids) t ∧ m.HasKeysOf t := by
  induction ids with
  | nil => exact ⟨false, _, fun h => absurd rfl h, .noItems, by simp [HasKeysOf, Tree.keys]⟩
  | cons i ids ih =>
    obtain ⟨⟨hcolumn, hcompact, t, ht, hkeys⟩, hitems⟩ := List.forall_mem_cons.1 hitems
    obtain ⟨filled, more, -, hmore, hmoreKeys⟩ := ih hitems
    refine ⟨true, _, fun _ => rfl, .item hcolumn hcompact ht hmore, fun j hj => ?_⟩
    rcases List.mem_append.1 hj with hj | hj
    · exact hkeys j hj
    · exact hmoreKeys j hj

/-- The nodes of a manifest with one-line scalars are a tree. -/
theorem exists_tree (hwritable : m.IsWritable) (htree : m.IsTree) (h : m.IsLined)
    (hcolumns : ∀ id n, m.node? id = some n → n.kind ≠ .scalar → 0 < n.column) {id : Nat} {n : Node}
    (hn : m.node? id = some n) (aligned : Bool) (haligned : aligned = true → n.kind = .sequence) :
    ∃ t : Yaml.Tree (.node aligned), HasTree m (.node id) t ∧ m.HasKeysOf t := by
  induction hsize : m.nodes.size - id using Nat.strong_induction_on generalizing id n aligned with
  | _ size ih =>
  have hlt : id < m.nodes.size := (Array.getElem?_eq_some_iff.1 hn).1
  -- what is in the content of a node comes behind it
  have hbelow {i : Nat} {child : Node} (hi : i ∈ n.content) (hchild : m.node? i = some child)
      (aligned : Bool) (haligned : aligned = true → child.kind = .sequence) :
      ∃ t : Yaml.Tree (.node aligned), HasTree m (.node i) t ∧ m.HasKeysOf t := by
    have hrising := hwritable.rising id n hn i hi
    exact ih (m.nodes.size - i) (by omega) hchild aligned haligned rfl
  cases hkind : n.kind with
  | scalar =>
    cases aligned with
    | true => simp [haligned rfl] at hkind
    | false => exact ⟨_, .scalar hn hkind, by simp [HasKeysOf, Tree.keys]⟩
  | mapping =>
    cases aligned with
    | true => simp [haligned rfl] at hkind
    | false =>
      obtain ⟨hne, heven, hpairs⟩ := htree.mapping id n hn hkind
      have hcolumn := hcolumns id n hn (by simp [hkind])
      obtain ⟨filled, t, hfilled, ht, hkeys⟩ :=
        exists_tree_pairs (m := m) n.indent heven fun k v hkv => by
          obtain ⟨⟨key, hkey, hof⟩, value, hvalue, hunder⟩ := hpairs k v hkv
          refine ⟨mem_pairs_iff.2 ⟨id, n, hn, hkind, hkv⟩, ⟨key, hkey, hof.1⟩, ?_⟩
          have hmem := (mem_of_mem_pairsOf hkv).2
          rcases hunder with hscalar | hless | ⟨hsequence, hsame⟩
          · obtain ⟨t, ht, hkeys⟩ := hbelow hmem hvalue false (absurd · Bool.false_ne_true)
            refine ⟨false, t, ht, hkeys, fun n' hn' hk => ?_⟩
            obtain rfl : value = n' := Option.some.inj (hvalue.symm.trans hn')
            exact absurd hscalar hk
          · obtain ⟨t, ht, hkeys⟩ := hbelow hmem hvalue false (absurd · Bool.false_ne_true)
            refine ⟨false, t, ht, hkeys, fun n' hn' _ => ?_⟩
            obtain rfl : value = n' := Option.some.inj (hvalue.symm.trans hn')
            rw [if_neg Bool.false_ne_true]
            exact Nat.sub_lt_sub_right hcolumn hless
          · obtain ⟨t, ht, hkeys⟩ := hbelow hmem hvalue true fun _ => hsequence
            refine ⟨true, t, ht, hkeys, fun n' hn' _ => ?_⟩
            obtain rfl : value = n' := Option.some.inj (hvalue.symm.trans hn')
            rw [if_pos rfl]
            exact congrArg (· - 1) hsame
      obtain rfl := hfilled hne
      exact ⟨_, .mapping hn hkind ht, hkeys⟩
  | sequence =>
    obtain ⟨hne, hitems⟩ := htree.sequence id n hn hkind
    have hcolumn := hcolumns id n hn (by simp [hkind])
    obtain ⟨filled, t, hfilled, ht, hkeys⟩ :=
      exists_tree_items (m := m) n.indent fun i hi => by
        obtain ⟨item, hitem, hunder⟩ := hitems i hi
        refine ⟨fun n' hn' hk => ?_, fun n' hn' => h.item id n i n' hn hkind hi hn',
          hbelow hi hitem false (absurd · Bool.false_ne_true)⟩
        obtain rfl : item = n' := Option.some.inj (hitem.symm.trans hn')
        rcases hunder with hscalar | hless
        · exact absurd hscalar hk
        · exact Nat.sub_lt_sub_right hcolumn hless
    obtain rfl := hfilled hne
    exact ⟨_, .sequence hn hkind ht, hkeys⟩

/-- The scalars of a manifest that is read stand for texts and styles. -/
theorem IsLined.exists_leaf (h : m.IsLined) : ∃ leaf : Nat → Leaf, m.IsWrittenBy leaf := by
  have hleaf (id : Nat) : ∃ x : Leaf, ∀ n, m.node? id = some n → n.kind = .scalar →
      x.IsWrittenAs (n.scalarText false) := by
    cases hn : m.node? id with
    | none =>
      refine ⟨none, fun n hn' => ?_⟩
      cases hn'
    | some n =>
      by_cases hkind : n.kind = .scalar
      · rcases h.scalar id n hn hkind with hempty | ⟨token, hline⟩
        · refine ⟨none, fun n' hn' _ => ?_⟩
          cases hn'
          exact hempty
        · obtain ⟨text, style, rfl⟩ := hline.exists_scalar
          refine ⟨some (text, style), fun n' hn' _ => ?_⟩
          cases hn'
          exact hline
      · refine ⟨none, fun n' hn' hk => ?_⟩
        cases hn'
        exact absurd hk hkind
  obtain ⟨leaf, hleaf⟩ := Classical.skolem.1 hleaf
  exact ⟨leaf, h.bare, hleaf⟩

theorem lasting_column : Lasting (fun n => n.kind ≠ .scalar → 0 < n.column) (fun _ => True)
    (fun _ => True) where
  pending _ _ := trivial
  dash _ _ _ := trivial
  collection _ _ _ _ := Nat.succ_pos _
  missing _ _ h := absurd rfl h
  key _ _ _ _ h := absurd rfl h
  scalar _ _ _ hn h := absurd (congrArg Form.kind (form_of_scalarNode hn)) h
  head hn _ := hn
  trail hn _ _ := hn
  properties hn _ _ := hn
  foot hn _ _ := hn
  content _ hn := hn

/-- The columns of collections count from one. -/
theorem column_pos_of_parse {text : String} (h : parse text = .ok m) {id : Nat} {n : Node}
    (hn : m.node? id = some n) (hkind : n.kind ≠ .scalar) : 0 < n.column := by
  obtain ⟨chunks, hchunks, hread⟩ := readDocuments_of_parse h
  exact (each_of_readDocuments lasting_column hread (by simp) fun c hc =>
    isChunk_of_forall fun _ _ => trivial).1 id n hn hkind

theorem isKeyText_of_hasKeysOf (hlined : m.IsLined) {l : Layer} {t : Yaml.Tree l}
    (h : m.HasKeysOf t) :
    ∀ k ∈ t.keys, ∀ n, m.node? k = some n → IsKeyText (n.scalarText false) := by
  intro k hk n hn
  obtain ⟨v, hpair⟩ := h k hk
  obtain ⟨hne, hlength, hmarker⟩ := hlined.key k v n hpair hn
  exact ⟨hne, hlength, hmarker⟩

/-- The tree with the value of each scalar is the value of the document. -/
theorem value_eq_valueWith (hm : m.IsWritable) {root : Root} {id : Nat}
    {t : Yaml.Tree (.node false)} (hdocuments : m.documents = [root]) (hroot : root.node = some id)
    (ht : HasTree m (.node id) t) (f : Nat → Value) : t.value f = m.valueWith f := by
  have hfirst : m.root? 0 = some id := by simp [root?, hdocuments, hroot]
  rw [valueWith, hfirst]
  exact hasValue_of_tree hm f ht m.nodes.size (Nat.le_add_left _ _)

end

end ManifestMarkers.Manifest
