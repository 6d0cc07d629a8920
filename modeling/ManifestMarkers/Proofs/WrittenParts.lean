import ManifestMarkers.Proofs.BlockLayouts
import ManifestMarkers.Proofs.WrittenComments

/-!
# The parts of a written manifest

The nodes of a manifest whose scalars stand on one line are parts of a block layout: a dash for each
item, a key for each pair and a scalar for each text that is not empty. This module says that the
writer lays them out so that the scanner finds them again.

* `LineEnd`, `ScalarParts` and `spells_scalar` are about the rest of a line.
* `Laid` relates nodes to their parts.
* `written_of_laid`: every collection is written as its parts, by induction on `Laid`;
  `spells_documentText` is this for a document.
-/

namespace ManifestMarkers.Yaml

/-! ### Ends of lines -/

section

variable {short : Prop} {column k : Nat} {inline : Bool} {behind : Behind} {text tail : List Char}
  {parts more : List Part}

theorem Behind.Admits.mono {c d : Nat} (h : behind.Admits d) (hle : c ≤ d) : behind.Admits c := by
  cases behind with
  | scalar limit => exact Nat.le_trans hle h
  | nothing => trivial
  | mark column => trivial

theorem replicate_append (k j : Nat) (text : List Char) :
    List.replicate k ' ' ++ (List.replicate j ' ' ++ text) =
      List.replicate (k + j) ' ' ++ text := by
  rw [← List.append_assoc, List.replicate_append_replicate]

/-- Blanks in front lead to the column. -/
theorem Spells.indent (h : Spells short (column + k) inline behind text parts) :
    Spells short column inline behind (List.replicate k ' ' ++ text) parts := by
  cases h with
  | last j hremark =>
    rw [replicate_append]
    exact .last _ hremark
  | line j hremark h =>
    rw [replicate_append]
    exact .line _ hremark h
  | dash j hbehind hgap h =>
    rw [replicate_append]
    rw [Nat.add_assoc column k j] at hbehind h ⊢
    exact .dash _ hbehind hgap h
  | key j i hname hlength hmarker hbehind hgap h =>
    rw [replicate_append]
    rw [Nat.add_assoc column k j] at hmarker hbehind h ⊢
    exact .key _ i hname hlength hmarker hbehind hgap h
  | scalar j hraw hmark hgap h =>
    rw [replicate_append]
    rw [Nat.add_assoc column k j] at hmark h
    exact .scalar _ hraw hmark hgap h

/-- A line ends, and these parts follow on the lines below. -/
inductive LineEnd (short : Prop) (behind : Behind) : List Char → List Part → Prop
  | last : LineEnd short behind [] []
  | line {text : List Char} {parts : List Part} (h : Spells short 0 true behind text parts) :
      LineEnd short behind ('\n' :: text) parts

theorem LineEnd.spells (h : LineEnd short behind tail parts) (k : Nat) {remark : List Char}
    (hremark : IsRemark remark) :
    Spells short column inline behind (List.replicate k ' ' ++ (remark ++ tail)) parts := by
  cases h with
  | last =>
    rw [List.append_nil]
    exact .last k hremark
  | line h => exact .line k hremark h

theorem LineEnd.atGap (h : LineEnd short behind tail parts) : AtGap tail := by
  cases h with
  | last => simp [AtGap]
  | line h => simp [AtGap]

theorem isRemark_nil : IsRemark [] := by simp [IsRemark]

/-- The parts of the text of a scalar. An empty text is none. -/
inductive ScalarParts : List Char → List Part → Prop
  | empty : ScalarParts [] []
  | line {raw : List Char} {token : Token} (h : LineScalar raw token) :
      ScalarParts raw [.scalar token]

/-- The rest of a line behind a dash or a key: a scalar, perhaps, and a comment. -/
theorem spells_scalar {mark i j : Nat} {raw remark : List Char} (hraw : ScalarParts raw parts)
    (hmark : raw ≠ [] → mark < column + i) (hgap : raw ≠ [] → remark ≠ [] → 0 < j)
    (hremark : IsRemark remark)
    (hmore : ∀ behind : Behind, behind.Admits mark → LineEnd short behind tail more) :
    Spells short column inline (.mark mark)
      (List.replicate i ' ' ++ (raw ++ (List.replicate j ' ' ++ (remark ++ tail))))
      (parts ++ more) := by
  cases hraw with
  | empty =>
    rw [List.nil_append, List.nil_append, replicate_append]
    exact (hmore (.mark mark) trivial).spells _ hremark
  | line h =>
    obtain ⟨c, cs, rfl, -⟩ := h.exists_cons
    have hscalar := hmore (.scalar mark) (Nat.le_refl mark)
    refine .scalar i h (hmark (by simp)) ?_ (hscalar.spells j hremark)
    cases j with
    | succ j => simp [AtGap, List.replicate_succ]
    | zero =>
      have hnone : remark = [] := by
        by_contra hne
        exact absurd (hgap (by simp) hne) (by simp)
      rw [hnone]
      exact hscalar.atGap

end

end ManifestMarkers.Yaml

namespace ManifestMarkers.Manifest

open Yaml

/-! ### Nodes and their parts -/

/-- The node has neither an anchor nor a tag. -/
structure Node.HasNoProperties (n : Node) : Prop where
  anchor : n.anchor = none
  tag : n.tag = none

/-- What has parts: a node, the pairs of a mapping at a column or the items of a sequence. -/
inductive Place
  | node (id : Nat)
  | pairs (column : Nat) (ids : List Nat)
  | items (column : Nat) (ids : List Nat)

/-- The parts of nodes whose scalars and keys stand on one line. A mapping on the line of its dash
starts where it stands. -/
inductive Laid (m : Manifest) : Place → List Part → Prop
  | scalar {id : Nat} {n : Node} {parts : List Part} (hn : m.node? id = some n)
      (hkind : n.kind = .scalar) (hbare : n.HasNoProperties)
      (hraw : ScalarParts (n.scalarText false) parts) : Laid m (.node id) parts
  | mapping {id : Nat} {n : Node} {parts : List Part} (hn : m.node? id = some n)
      (hkind : n.kind = .mapping) (hbare : n.HasNoProperties)
      (h : Laid m (.pairs n.indent n.content) parts) : Laid m (.node id) parts
  | sequence {id : Nat} {n : Node} {parts : List Part} (hn : m.node? id = some n)
      (hkind : n.kind = .sequence) (hbare : n.HasNoProperties)
      (h : Laid m (.items n.indent n.content) parts) : Laid m (.node id) parts
  | noPairs {column : Nat} : Laid m (.pairs column []) []
  | pair {column k v : Nat} {ids : List Nat} {key : Node} {token : Token} {parts more : List Part}
      (hkey : m.node? k = some key) (hbare : key.HasNoProperties)
      (hname : LineScalar (key.scalarText false) token)
      (hlength : Text.byteSize (key.scalarText false) ≤ Scan.maxKeyLength)
      (hmarker : column = 0 → startsMarker (key.scalarText false) = false)
      (hcolumn : ∀ n, m.node? v = some n → n.kind ≠ .scalar → column ≤ n.indent)
      (hvalue : Laid m (.node v) parts) (hmore : Laid m (.pairs column ids) more) :
      Laid m (.pairs column (k :: v :: ids)) (.key column token :: (parts ++ more))
  | noItems {column : Nat} : Laid m (.items column []) []
  | item {column i : Nat} {ids : List Nat} {parts more : List Part}
      (hcolumn : ∀ n, m.node? i = some n → n.kind ≠ .scalar → column ≤ n.indent)
      (hcompact : ∀ n, m.node? i = some n → isCompact n = true → column + 2 ≤ n.indent)
      (hitem : Laid m (.node i) parts) (hmore : Laid m (.items column ids) more) :
      Laid m (.items column (i :: ids)) (.dash column :: (parts ++ more))

/-! ### Texts that are laid out -/

/-- Behind the lines so far, these parts follow at a column or less deep. -/
def Opens (limit : Nat) (text : List Char) (parts : List Part) : Prop :=
  ∀ behind : Behind, behind.Admits limit → Spells True 0 true behind text parts

/-- From a column on, the text has these parts at the column `limit` or deeper. -/
def Lays (limit column : Nat) (text : List Char) (parts : List Part) : Prop :=
  ∀ rest more, Opens limit rest more → ∀ behind : Behind, behind.Admits limit →
    Spells True column true behind (text ++ rest) (parts ++ more)

/-- The text has these parts behind a dash or key at the column `mark`. -/
structure LaysBehind (mark column : Nat) (inline : Bool) (text : List Char) (parts : List Part) :
    Prop where
  gap : ∀ rest, AtGap (text ++ rest)
  spells : ∀ rest more, Opens mark rest more →
    Spells True column inline (.mark mark) (text ++ rest) (parts ++ more)

section

variable {limit column mark : Nat} {inline : Bool} {text text' : List Char}
  {parts parts' : List Part}

theorem Opens.mono {c : Nat} (h : Opens c text parts) (hle : c ≤ limit) :
    Opens limit text parts := fun behind hbehind => h behind (hbehind.mono hle)

theorem Opens.lineEnd (h : Opens limit text parts) {behind : Behind}
    (hbehind : behind.Admits limit) : LineEnd True behind ('\n' :: text) parts :=
  .line (h behind hbehind)

theorem lays_nil : Lays limit 0 [] [] := fun _ _ h => h

theorem Lays.append (h : Lays limit column text parts) (h' : Lays limit 0 text' parts') :
    Lays limit column (text ++ text') (parts ++ parts') := by
  intro rest more hmore
  rw [List.append_assoc, List.append_assoc]
  exact h _ _ (h' rest more hmore)

/-- A text on a line of its own. -/
theorem Lays.spaces (h : Lays limit limit text parts) :
    Lays limit 0 (spaces limit ++ text) parts := by
  intro rest more hmore behind hbehind
  rw [List.append_assoc]
  exact Spells.indent (by
    rw [Nat.zero_add]
    exact h rest more hmore behind hbehind)

/-- Lines of comments have no parts. -/
theorem lays_commentLines {comment : String} (limit : Nat)
    (h : ∀ line ∈ commentParts comment, IsRemark line) (indent : Nat) : Lays limit 0 (commentLines comment indent) [] := by
  have hlines {lines : List (List Char)} (h : ∀ line ∈ lines, IsRemark line) :
      Lays limit 0 (lines.flatMap fun line => Manifest.spaces indent ++ line ++ ['\n']) [] := by
    induction lines with
    | nil => exact lays_nil
    | cons line lines ih =>
      rw [List.flatMap_cons]
      have hlays : Lays limit 0 (Manifest.spaces indent ++ line ++ ['\n']) [] := by
        intro rest more hmore behind hbehind
        have hline : Spells True 0 true behind _ more :=
          (hmore.lineEnd hbehind).spells indent (h line List.mem_cons_self)
        simpa [Manifest.spaces] using hline
      exact hlays.append (ih fun l hl => h l (List.mem_cons_of_mem _ hl))
  unfold commentLines
  split
  · exact lays_nil
  · next hne =>
    rw [commentParts, if_neg hne] at h
    exact hlines h

/-- Comments behind a value are one comment. -/
theorem exists_trailing {comments : List String} (h : ∀ c ∈ comments, IsRemark c.toList) :
    ∃ k remark, trailing comments = List.replicate k ' ' ++ remark ∧ IsRemark remark ∧
      (remark ≠ [] → 0 < k) := by
  induction comments with
  | nil => exact ⟨0, [], rfl, isRemark_nil, by simp⟩
  | cons c comments ih =>
    obtain ⟨k, remark, htrail, hremark, -⟩ := ih fun d hd => h d (List.mem_cons_of_mem _ hd)
    have hc := h c List.mem_cons_self
    by_cases hempty : c.isEmpty = true
    · obtain ⟨k, remark, htrail, hremark, hk⟩ := ih fun d hd => h d (List.mem_cons_of_mem _ hd)
      refine ⟨k, remark, ?_, hremark, hk⟩
      rw [← htrail, trailing, List.flatMap_cons, if_pos hempty, List.nil_append]
      rfl
    · have hne : c.toList ≠ [] := by simpa using hempty
      refine ⟨1, c.toList ++ trailing comments, ?_, ⟨?_, ?_⟩, fun _ => Nat.one_pos⟩
      · rw [trailing, List.flatMap_cons, if_neg hempty]
        rfl
      · obtain ⟨d, ds, hd⟩ := List.exists_cons_of_ne_nil hne
        rw [hd] at hc ⊢
        exact hc.1
      · intro d hd
        rw [htrail] at hd
        simp only [List.mem_append, List.mem_replicate] at hd
        rcases hd with hd | ⟨-, rfl⟩ | hd
        · exact hc.2 d hd
        · decide
        · exact hremark.2 d hd

theorem atGap_trailing (comments : List String) (rest : List Char) :
    AtGap (trailing comments ++ '\n' :: rest) := by
  induction comments with
  | nil => simp [trailing, AtGap]
  | cons c comments ih =>
    rw [trailing, List.flatMap_cons]
    split
    · exact ih
    · simp [AtGap]

/-- A scalar behind a dash or a key. -/
theorem laysBehind_scalar {raw : List Char} {comments : List String}
    (hraw : ScalarParts raw parts) (h : ∀ c ∈ comments, IsRemark c.toList) (hmark : mark < column) :
    LaysBehind mark column inline (spaced raw ++ trailing comments ++ ['\n']) parts := by
  refine ⟨fun rest => ?_, fun rest more hmore => ?_⟩
  · by_cases hempty : raw = []
    · simpa [spaced, hempty] using atGap_trailing comments rest
    · simp [spaced, hempty, AtGap]
  · obtain ⟨k, remark, htrail, hremark, hk⟩ := exists_trailing h
    have hline (i : Nat) : Spells True column inline (.mark mark) _ (parts ++ more) :=
      spells_scalar (i := i) hraw (fun _ => by omega) (fun _ => hk) hremark
        fun behind hbehind => hmore.lineEnd hbehind
    rw [htrail]
    by_cases hempty : raw = []
    · simpa [spaced, hempty] using hline 0
    · simpa [spaced, hempty] using hline 1

/-- A collection on the lines below a dash or a key. -/
theorem laysBehind_block {comments : List String} (h : ∀ c ∈ comments, IsRemark c.toList)
    (hblock : Lays limit 0 text parts) (hlimit : mark ≤ limit) :
    LaysBehind mark column inline (trailing comments ++ '\n' :: text) parts := by
  refine ⟨fun rest => ?_, fun rest more hmore => ?_⟩
  · simpa using atGap_trailing comments (text ++ rest)
  · obtain ⟨k, remark, htrail, hremark, -⟩ := exists_trailing h
    have hbelow := hblock rest more (hmore.mono hlimit) (.mark mark) trivial
    have hline : Spells True column inline (.mark mark) _ (parts ++ more) :=
      (LineEnd.line hbelow).spells k hremark
    simpa [htrail] using hline

/-- A mapping on the line of its dash. -/
theorem laysBehind_inline {k : Nat} (h : Lays limit limit text parts) (hlimit : mark ≤ limit)
    (hcolumn : limit = column + (k + 1)) :
    LaysBehind mark column true (Manifest.spaces (k + 1) ++ text) parts := by
  refine ⟨fun rest => by simp [Manifest.spaces, List.replicate_succ, AtGap],
    fun rest more hmore => ?_⟩
  rw [List.append_assoc]
  refine Spells.indent ?_
  rw [← hcolumn]
  exact h rest more (hmore.mono hlimit) (.mark mark) trivial

theorem lays_dash (h : LaysBehind column (column + 1) true text parts) :
    Lays column column ('-' :: text) (.dash column :: parts) :=
  fun rest more hmore _ hbehind => .dash 0 hbehind (h.gap rest) (h.spells rest more hmore)

theorem lays_key {name : List Char} {token : Token} (hname : LineScalar name token)
    (hlength : Text.byteSize name ≤ Scan.maxKeyLength)
    (hmarker : column = 0 → startsMarker name = false)
    (h : LaysBehind column (column + (name.length + 1)) false text parts) :
    Lays column column (name ++ ':' :: text) (.key column token :: parts) := by
  intro rest more hmore behind hbehind
  rw [List.append_assoc]
  exact .key 0 0 hname (fun _ => hlength) hmarker hbehind (h.gap rest) (h.spells rest more hmore)

end

/-! ### The writer -/

/-- The comments of a node are comments on lines. -/
structure Node.HasRemarks (n : Node) : Prop where
  head : ∀ line ∈ commentParts n.headComment, IsRemark line
  trail : IsRemark n.lineComment.toList
  foot : ∀ line ∈ commentParts n.footComment, IsRemark line

/-- What is written of a place. The content of a collection has greater numbers than it. -/
def Place.Written (m : Manifest) (parts : List Part) : Place → Prop
  | .node id => ∀ n, m.node? id = some n → n.kind ≠ .scalar → ∀ fuel, m.nodes.size ≤ id + fuel →
    Lays n.indent 0 (collectionText m false (fuel + 1) false id) parts ∧
      (n.kind = .mapping →
        Lays n.indent n.indent (collectionText m false (fuel + 1) true id) parts)
  | .pairs column ids => ∀ lo fuel, (∀ i ∈ ids, lo < i) → m.nodes.size ≤ lo + fuel →
    Lays column 0 (pairsText m false (collectionText m false fuel false) column false ids) parts ∧
      (ids ≠ [] → Lays column column
        (pairsText m false (collectionText m false fuel false) column true ids) parts)
  | .items column ids => ∀ lo fuel, (∀ i ∈ ids, lo < i) → m.nodes.size ≤ lo + fuel →
    Lays column 0 (itemsText m false (collectionText m false fuel) column ids) parts

section

variable {m : Manifest} {n : Node} {id : Nat} {parts : List Part}

theorem Node.HasNoProperties.properties_eq (h : n.HasNoProperties) (tags : Bool) :
    n.properties tags = [] := by
  cases tags <;> simp [Node.properties, h.anchor, h.tag, Text.joinWith]

theorem collectionText_mapping (hn : m.node? id = some n) (hkind : n.kind = .mapping) (fuel : Nat)
    (inline : Bool) : collectionText m false (fuel + 1) inline id =
      pairsText m false (collectionText m false fuel false) n.indent inline n.content := by
  rw [collectionText, hn]
  simp only [hkind]

theorem collectionText_sequence (hn : m.node? id = some n) (hkind : n.kind = .sequence) (fuel : Nat)
    (inline : Bool) : collectionText m false (fuel + 1) inline id =
      itemsText m false (collectionText m false fuel) n.indent n.content := by
  rw [collectionText, hn]
  simp only [hkind]

/-- A node that has parts. -/
theorem Laid.exists_node (h : Laid m (.node id) parts) : ∃ n, m.node? id = some n ∧
    n.HasNoProperties ∧ (n.kind = .scalar → ScalarParts (n.scalarText false) parts) := by
  cases h with
  | scalar hn hkind hbare hraw => exact ⟨_, hn, hbare, fun _ => hraw⟩
  | mapping hn hkind hbare h => exact ⟨_, hn, hbare, fun hscalar => by simp [hkind] at hscalar⟩
  | sequence hn hkind hbare h => exact ⟨_, hn, hbare, fun hscalar => by simp [hkind] at hscalar⟩

/-- A collection on the lines below a dash or key, or on the line of its dash. -/
theorem Place.Written.nested (h : (Place.node id).Written m parts) (hn : m.node? id = some n)
    (hkind : n.kind ≠ .scalar) {lo fuel : Nat} (hlo : lo < id) (hfuel : m.nodes.size ≤ lo + fuel) :
    Lays n.indent 0 (collectionText m false fuel false id) parts ∧
      (n.kind = .mapping → Lays n.indent n.indent (collectionText m false fuel true id) parts) := by
  have hlt : id < m.nodes.size := (Array.getElem?_eq_some_iff.1 hn).1
  obtain ⟨fuel, rfl⟩ : ∃ f, fuel = f + 1 := ⟨fuel - 1, by omega⟩
  exact h n hn hkind fuel (by omega)

section

variable {lo fuel column c : Nat} (hremarks : ∀ id n, m.node? id = some n → n.HasRemarks)
  (h : Laid m (.node id) parts) (hwritten : (Place.node id).Written m parts)
  (hcolumn : ∀ n, m.node? id = some n → n.kind ≠ .scalar → column ≤ n.indent) (hlo : lo < id)
  (hfuel : m.nodes.size ≤ lo + fuel)

include hremarks h hwritten hcolumn hlo hfuel

theorem laysBehind_valueText {key : Node} (hkey : key.HasRemarks) (hc : column < c) :
    LaysBehind column c false
      (valueText m false (collectionText m false fuel false) key id) parts := by
  obtain ⟨n, hn, hbare, hscalar⟩ := h.exists_node
  have hnode := hremarks id n hn
  have hcomments : ∀ comment ∈ [key.lineComment, n.lineComment], IsRemark comment.toList := by
    simpa using ⟨hkey.trail, hnode.trail⟩
  unfold valueText
  rw [hn]
  dsimp only
  by_cases hkind : n.kind = .scalar
  · rw [if_pos (by simp [Node.isScalar, hkind])]
    exact laysBehind_scalar (hscalar hkind) hcomments hc
  · rw [if_neg (by simp [Node.isScalar, hkind]), hbare.properties_eq]
    obtain ⟨hlines, -⟩ := hwritten.nested hn hkind hlo hfuel
    exact laysBehind_block hcomments ((lays_commentLines _ hnode.head n.indent).append hlines)
      (hcolumn n hn hkind)

theorem lays_itemText (hn : m.node? id = some n)
    (hcompact : ∀ n, m.node? id = some n → isCompact n = true → column + 2 ≤ n.indent) :
    Lays column 0 (itemText m false (collectionText m false fuel) column id n)
      (.dash column :: parts) := by
  obtain ⟨n', hn', hbare, hscalar⟩ := h.exists_node
  cases hn.symm.trans hn'
  have hnode := hremarks id n hn
  have hcomments : ∀ comment ∈ [n.lineComment], IsRemark comment.toList := by
    simpa using hnode.trail
  unfold itemText
  by_cases hkind : n.kind = .scalar
  · rw [if_pos (by simp [Node.isScalar, hkind])]
    exact (lays_dash (laysBehind_scalar (hscalar hkind) hcomments (Nat.lt_succ_self _))).spaces
  · rw [if_neg (by simp [Node.isScalar, hkind])]
    obtain ⟨hlines, hinline⟩ := hwritten.nested hn hkind hlo hfuel
    by_cases hline : isCompact n = true
    · rw [if_pos hline]
      have hle := hcompact n hn hline
      have hmapping : n.kind = .mapping := by
        simp only [isCompact, Bool.and_eq_true, beq_iff_eq] at hline
        exact hline.1.1.1
      have hblanks : max (n.indent - (column + 1)) 1 = n.indent - (column + 2) + 1 := by omega
      rw [hblanks]
      have hbehind : LaysBehind column (column + 1) true _ parts :=
        laysBehind_inline (k := n.indent - (column + 2)) (hinline hmapping) (hcolumn n hn hkind)
          (by omega)
      have hdash := lays_dash hbehind
      cases hkey : n.content.head?.bind m.node? with
      | none => simpa using hdash.spaces
      | some key =>
        obtain ⟨k, -, hkey⟩ := Option.bind_eq_some_iff.1 hkey
        have hhead := lays_commentLines column (hremarks k key hkey).head column
        simpa using hhead.append hdash.spaces
    · rw [if_neg hline, hbare.properties_eq]
      exact (lays_dash (laysBehind_block hcomments hlines (hcolumn n hn hkind))).spaces

end

end

/-- Every collection is written as its parts. The induction is on the nodes, pairs and items. -/
theorem written_of_laid {m : Manifest} {place : Place} {parts : List Part} (hm : m.IsWritable)
    (hremarks : ∀ id n, m.node? id = some n → n.HasRemarks) (h : Laid m place parts) :
    place.Written m parts := by
  induction h with
  | scalar hn hkind hbare hraw =>
    intro n' hn' hne
    cases hn.symm.trans hn'
    exact absurd hkind hne
  | @mapping id n parts hn hkind hbare h ih =>
    intro n' hn' _ fuel hfuel
    cases hn.symm.trans hn'
    obtain ⟨hlines, hinline⟩ := ih id fuel (hm.rising id n hn) hfuel
    rw [collectionText_mapping hn hkind, collectionText_mapping hn hkind]
    exact ⟨hlines, fun _ => hinline (hm.mapping id n hn hkind).1⟩
  | @sequence id n parts hn hkind hbare h ih =>
    intro n' hn' _ fuel hfuel
    cases hn.symm.trans hn'
    rw [collectionText_sequence hn hkind]
    exact ⟨ih id fuel (hm.rising id n hn) hfuel, by simp [hkind]⟩
  | noPairs => exact fun lo fuel _ _ => ⟨lays_nil, fun hne => absurd rfl hne⟩
  | @pair column k v ids key token parts more hkey hbare hname hlength hmarker hcolumn hvalue hmore
      ihvalue ihmore =>
    intro lo fuel hids hfuel
    have hnode := hremarks k key hkey
    obtain ⟨hrest, -⟩ := ihmore lo fuel (fun i hi => hids i (by simp [hi])) hfuel
    have hpair := lays_key hname hlength hmarker (laysBehind_valueText hremarks hvalue ihvalue
      hcolumn (hids v (by simp)) hfuel hnode (c := column + (key.scalarText false).length + 1)
      (by omega))
    have hfoot := lays_commentLines column hnode.foot column
    refine ⟨?_, fun _ => ?_⟩
    · have hhead := lays_commentLines column hnode.head column
      simpa [pairsText, hkey] using ((hhead.append hpair.spaces).append hfoot).append hrest
    · simpa [pairsText, hkey] using (hpair.append hfoot).append hrest
  | noItems => exact fun lo fuel _ _ => lays_nil
  | @item column i ids parts more hcolumn hcompact hitem hmore ihitem ihmore =>
    intro lo fuel hids hfuel
    have hrest := ihmore lo fuel (fun i hi => hids i (by simp [hi])) hfuel
    obtain ⟨n, hn, -⟩ := hitem.exists_node
    have hnode := hremarks i n hn
    have hhead := lays_commentLines column hnode.head column
    have hfoot := lays_commentLines column hnode.foot column
    have htext := lays_itemText hremarks hitem ihitem hcolumn (hids i (by simp)) hfuel hn hcompact
    simpa [itemsText, hn] using ((hhead.append htext).append hfoot).append hrest

/-! ### Documents -/

/-- The parts of a document, whose root is no scalar. -/
inductive LaidRoot (m : Manifest) : Root → List Part → Prop
  | empty {root : Root} (hnode : root.node = none) : LaidRoot m root []
  | node {root : Root} {id : Nat} {n : Node} {parts : List Part} (hnode : root.node = some id)
      (hn : m.node? id = some n) (hkind : n.kind ≠ .scalar) (h : Laid m (.node id) parts) :
      LaidRoot m root parts

theorem spells_documentText {m : Manifest} {root : Root} {parts : List Part} (hm : m.IsWritable)
    (hremarks : ∀ id n, m.node? id = some n → n.HasRemarks)
    (hcomment : ∀ line ∈ commentParts root.comment, IsRemark line) (h : LaidRoot m root parts) :
    Spells True 0 true .nothing (documentText m false root) parts := by
  have hcomments (limit : Nat) := lays_commentLines limit hcomment 0
  have hend (limit : Nat) : Opens limit [] [] := fun _ _ => .last 0 isRemark_nil
  cases h with
  | empty hnode =>
    have htext := hcomments 0 [] [] (hend 0) .nothing trivial
    simpa [documentText, hnode] using htext
  | @node id n parts hnode hn hkind h =>
    obtain ⟨hlines, -⟩ := written_of_laid hm hremarks h n hn hkind m.nodes.size (by omega)
    have htext := hlines.append (hcomments n.indent) [] [] (hend n.indent) .nothing trivial
    simpa [documentText, hnode, hn, Node.isScalar, hkind] using htext

end ManifestMarkers.Manifest
