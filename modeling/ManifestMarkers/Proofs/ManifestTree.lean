import ManifestMarkers.Inspection

/-!
# The nodes of a manifest form a tree

The builder adds every node before its content and never adds a node to two collections, so the
numbers of the nodes are their places in the order of the document.

* `Spans`: some nodes with all that is below them take up the numbers from one bound to another.
* `Extends` says what reading one node does to the store, `Closes` what reading the rest of a
  collection does; both only look at the content of the nodes.
* `preorder_of_parse`: the nodes of a manifest in the order of the document are all its numbers.
-/

namespace ManifestMarkers.Manifest

/-! ### Ranges of numbers -/

/-- The nodes `ids` and all that is below them are the numbers from `lo` up to `hi`, each before its
content. `contents` has the content of every node. -/
inductive Spans (contents : Array (List Nat)) : List Nat → Nat → Nat → Prop
  | nil (lo : Nat) : Spans contents [] lo lo
  | cons {ids : List Nat} {lo mid hi : Nat}
      (h : Spans contents (contents[lo]?.getD []) (lo + 1) mid)
      (hs : Spans contents ids mid hi) : Spans contents (lo :: ids) lo hi

namespace Spans

variable {contents contents' : Array (List Nat)} {ids ids' : List Nat} {lo mid hi : Nat}

theorem le (h : Spans contents ids lo hi) : lo ≤ hi := by
  induction h with
  | nil => exact Nat.le_refl _
  | cons _ _ ih ihs => omega

theorem append (h : Spans contents ids lo mid) (h' : Spans contents ids' mid hi) :
    Spans contents (ids ++ ids') lo hi := by
  induction h with
  | nil => exact h'
  | cons h _ _ ihs => exact .cons h (ihs h')

/-- Only the content of the nodes in the range matters. -/
theorem congr (h : Spans contents ids lo hi)
    (hsame : ∀ i, lo ≤ i → i < hi → contents'[i]? = contents[i]?) :
    Spans contents' ids lo hi := by
  induction h with
  | nil lo => exact .nil lo
  | @cons ids lo mid hi h hs ih ihs =>
    have hmid := h.le
    have hhi := hs.le
    refine .cons ?_ (ihs fun i hlo hlt => hsame i (by omega) hlt)
    rw [hsame lo (by omega) (by omega)]
    exact ih fun i hlo hlt => hsame i (by omega) (by omega)

end Spans

/-! ### Reading one node -/

/-- The nodes `ids` have been added behind the others, with all that is below them. -/
structure Extends (contents : Array (List Nat)) (ids : List Nat) (contents' : Array (List Nat)) :
    Prop where
  size_le : contents.size ≤ contents'.size
  kept : ∀ i < contents.size, contents'[i]? = contents[i]?
  spans : Spans contents' ids contents.size contents'.size

/-- The collection `id` is the last one that may grow: what follows it is below it. -/
structure IsOpen (contents : Array (List Nat)) (id : Nat) : Prop where
  lt : id < contents.size
  spans : Spans contents (contents[id]?.getD []) (id + 1) contents.size

/-- The collection `id` has got all its content. -/
structure Closes (contents : Array (List Nat)) (id : Nat) (contents' : Array (List Nat)) :
    Prop where
  size_le : contents.size ≤ contents'.size
  kept : ∀ i < contents.size, i ≠ id → contents'[i]? = contents[i]?
  spans : Spans contents' (contents'[id]?.getD []) (id + 1) contents'.size

section

variable {contents middle contents' : Array (List Nat)} {id : Nat} {ids ids' : List Nat}

theorem extends_nil (contents : Array (List Nat)) : Extends contents [] contents :=
  ⟨Nat.le_refl _, fun _ _ => rfl, .nil _⟩

theorem extends_push (contents : Array (List Nat)) :
    Extends contents [contents.size] (contents.push []) := by
  refine ⟨by simp, fun i hi => Array.getElem?_push_lt hi ▸ by simp [hi], ?_⟩
  refine .cons ?_ (by simpa using .nil (contents.size + 1))
  simpa using .nil (contents.size + 1)

theorem Extends.trans (h : Extends contents ids middle) (h' : Extends middle ids' contents') :
    Extends contents (ids ++ ids') contents' := by
  refine ⟨Nat.le_trans h.size_le h'.size_le, fun i hi => ?_, ?_⟩
  · rw [h'.kept i (by have := h.size_le; omega), h.kept i hi]
  · refine Spans.append (h.spans.congr fun i _ hi => h'.kept i hi) h'.spans

theorem Extends.pair {key value : Nat} (h : Extends contents [key] middle)
    (h' : Extends middle [value] contents') : Extends contents [key, value] contents' := h.trans h'

theorem isOpen_push (contents : Array (List Nat)) : IsOpen (contents.push []) contents.size :=
  ⟨by simp, by simpa using .nil (contents.size + 1)⟩

theorem IsOpen.closes (h : IsOpen contents id) : Closes contents id contents :=
  ⟨Nat.le_refl _, fun _ _ _ => rfl, h.spans⟩

/-- A collection that is pushed and gets its content is a node that has been added. -/
theorem extends_of_closes (h : Closes (contents.push []) contents.size contents') :
    Extends contents [contents.size] contents' := by
  have hsize : contents.size + 1 ≤ contents'.size := by simpa using h.size_le
  refine ⟨by omega, fun i hi => ?_, .cons h.spans (.nil _)⟩
  rw [h.kept i (by simp; omega) (by omega)]
  simp [Array.getElem?_push_lt hi, hi]

/-- The collection takes in the nodes that have been added. -/
theorem IsOpen.take (h : IsOpen contents id) (he : Extends contents ids middle) :
    IsOpen (middle.modify id (· ++ ids)) id := by
  have hsize := he.size_le
  have hlt := h.lt
  have hother : ∀ i, i ≠ id → (middle.modify id (· ++ ids))[i]? = middle[i]? := by
    intro i hi
    rw [Array.getElem?_modify, if_neg (Ne.symm hi)]
  have hself : (middle.modify id (· ++ ids))[id]?.getD [] = contents[id]?.getD [] ++ ids := by
    rw [Array.getElem?_modify, if_pos rfl, he.kept id hlt, Array.getElem?_eq_getElem hlt]
    rfl
  refine ⟨by simp; omega, ?_⟩
  rw [hself, Array.size_modify]
  refine Spans.append (h.spans.congr fun i hlo hi => ?_) (he.spans.congr fun i hlo hi => ?_)
  · rw [hother i (by omega), he.kept i hi]
  · exact hother i (by omega)

theorem Closes.of_take (he : Extends contents ids middle)
    (h : Closes (middle.modify id (· ++ ids)) id contents') : Closes contents id contents' := by
  have hsize := he.size_le
  have hle : middle.size ≤ contents'.size := by simpa using h.size_le
  refine ⟨by omega, fun i hi hne => ?_, h.spans⟩
  rw [h.kept i (by simp; omega) hne, Array.getElem?_modify, if_neg (Ne.symm hne), he.kept i hi]

end

/-! ### The builder -/

/-- A change of one entry, seen through a view of the entries. -/
theorem map_modify {α β : Type} {view : α → β} {f : α → α} {g : β → β}
    (hf : ∀ a, view (f a) = g (view a)) (xs : Array α) (i : Nat) :
    (xs.modify i f).map view = (xs.map view).modify i g := by
  apply Array.ext_getElem?
  intro j
  simp only [Array.getElem?_map, Array.getElem?_modify]
  split
  · cases xs[j]? <;> simp [hf]
  · rfl

/-- A change that the view does not see. -/
theorem map_modify_eq {α β : Type} {view : α → β} {f : α → α} (hf : ∀ a, view (f a) = view a)
    (xs : Array α) (i : Nat) : (xs.modify i f).map view = xs.map view := by
  apply Array.ext_getElem?
  intro j
  simp only [Array.getElem?_map, Array.getElem?_modify]
  split
  · cases xs[j]? <;> simp [hf]
  · rfl

/-- A change of the entry that was added last. -/
theorem modify_push {α : Type} (xs : Array α) (a : α) (f : α → α) :
    (xs.push a).modify xs.size f = xs.push (f a) := by
  apply Array.ext_getElem?
  intro i
  rw [Array.getElem?_modify, Array.getElem?_push, Array.getElem?_push]
  by_cases hi : i = xs.size
  · simp [hi]
  · rw [if_neg hi, if_neg hi, if_neg (Ne.symm hi)]

namespace Build

/-- The content of every node. -/
def contents (b : Build) : Array (List Nat) := b.nodes.map Node.content

@[simp] theorem size_contents (b : Build) : b.contents.size = b.nodes.size := by simp [contents]

@[simp] theorem contents_toContent (b : Build) : b.toContent.contents = b.contents := rfl

@[simp] theorem contents_dropLine (b : Build) : b.dropLine.contents = b.contents := rfl

@[simp] theorem contents_clearPending (b : Build) : b.clearPending.contents = b.contents := rfl

theorem contents_push (b : Build) (n : Node) (hn : n.content = []) :
    (b.push n).2.contents = b.contents.push [] := by
  simp [push, contents, hn]

theorem contents_modify {f : Node → Node} {g : List Nat → List Nat}
    (hf : ∀ n, (f n).content = g n.content) (b : Build) (id : Nat) :
    (b.modify id f).contents = b.contents.modify id g := map_modify hf b.nodes id

/-- A change that keeps the content of the node keeps the content of all nodes. -/
theorem contents_modify_eq {f : Node → Node} (hf : ∀ n, (f n).content = n.content) (b : Build)
    (id : Nat) : (b.modify id f).contents = b.contents := map_modify_eq hf b.nodes id

@[simp] theorem content_withHead (b : Build) (n : Node) : (b.withHead n).content = n.content := rfl

@[simp] theorem contents_setProperties (b : Build) (id : Nat) (v : InlineValue) :
    (b.setProperties id v).contents = b.contents := by
  unfold setProperties
  exact contents_modify_eq (by simp) b id

@[simp] theorem contents_attachFoot (b : Build) (id indent : Nat) :
    (b.attachFoot id indent).contents = b.contents := by
  unfold attachFoot
  dsimp only
  split
  · rfl
  · rw [contents_modify_eq (by simp)]
    rfl

/-- Attach the comments that wait to the last key or item of a collection, if it has one. -/
def withFoot (b : Build) (last : Option Nat) (indent : Nat) : Build :=
  match last with
  | some id => b.attachFoot id indent
  | none => b

@[simp] theorem contents_withFoot (b : Build) (last : Option Nat) (indent : Nat) :
    (b.withFoot last indent).contents = b.contents := by
  cases last with
  | none => rfl
  | some id => exact contents_attachFoot b id indent

end Build

theorem startsQuoted_eq (text : List Char) : startsQuoted text =
    (styleOf text == .singleQuoted || styleOf text == .doubleQuoted) := by
  unfold startsQuoted
  split
  · rfl
  · rfl
  · next hdouble hsingle =>
    unfold styleOf
    split
    · rfl
    · rfl
    · rfl
    · rfl
    · exact absurd rfl (hdouble _)
    · exact absurd rfl (hsingle _)
    · rfl

/-- What a scalar is made of. Only a quoted scalar may be closed on another line, which then has its
comment. -/
theorem exists_of_scalarNode {v : InlineValue} {line : Line} {parent column : Nat}
    {lines rest : List Line} {n : Node}
    (h : scalarNode v line parent column lines = .ok (n, rest)) :
    ∃ (value raw : List Char) (closing : Option (Line × List Char)),
      n = { kind := .scalar
            line := line.number
            column
            style := styleOf v.text
            tag := v.tag.map String.ofList
            anchor := v.anchor.map String.ofList
            value := String.ofList value
            raw := some (String.ofList raw)
            lineComment := String.ofList (closing.elim v.comment Prod.snd)
            linePosition := closing.elim (line.commentPoint? v.comment) fun (l, comment) =>
              l.commentPoint? comment } ∧
      if startsQuoted v.text then quotedScalar line.number v.text lines = .ok (raw, closing, rest)
      else closing = none := by
  rw [startsQuoted_eq]
  unfold scalarNode at h
  dsimp only at h
  split at h
  · next hstyle => cases h; exact ⟨_, _, none, rfl, by rw [hstyle]; rfl⟩
  · next hstyle => cases h; exact ⟨_, _, none, rfl, by rw [hstyle]; rfl⟩
  · next hstyle =>
    split at h
    · cases h; exact ⟨_, _, none, rfl, by rw [hstyle]; rfl⟩
    · cases h
  · next hstyle => cases h; exact ⟨_, _, none, rfl, by rw [hstyle]; rfl⟩
  · next hstyle =>
    split at h
    · cases h
    · next raw closing rest' hquoted =>
      split at h
      · cases h
      · cases h
        cases closing with
        | none => exact ⟨_, _, none, rfl, by rw [hstyle]; exact hquoted⟩
        | some closing => exact ⟨_, _, some closing, rfl, by rw [hstyle]; exact hquoted⟩
  · next hstyle =>
    split at h
    · cases h
    · next raw closing rest' hquoted =>
      split at h
      · cases h
      · cases h
        cases closing with
        | none => exact ⟨_, _, none, rfl, by rw [hstyle]; exact hquoted⟩
        | some closing => exact ⟨_, _, some closing, rfl, by rw [hstyle]; exact hquoted⟩

theorem content_of_scalarNode {v : InlineValue} {line : Line} {parent column : Nat}
    {lines rest : List Line} {n : Node}
    (h : scalarNode v line parent column lines = .ok (n, rest)) : n.content = [] := by
  obtain ⟨value, raw, closing, rfl, -⟩ := exists_of_scalarNode h
  rfl

theorem extends_of_push {n : Node} {id : Nat} {b b' : Build} (hn : n.content = [])
    (h : b.push n = (id, b')) : Extends b.contents [id] b'.contents := by
  have hid : b.contents.size = id := by rw [Build.size_contents]; exact congrArg Prod.fst h
  have hb : b.contents.push [] = b'.contents := by rw [← Build.contents_push b n hn, h]
  rw [← hid, ← hb]
  exact extends_push b.contents

theorem isOpen_of_push {n : Node} {id : Nat} {b b' : Build} (hn : n.content = [])
    (h : b.push n = (id, b')) : IsOpen b'.contents id := by
  have hid : b.contents.size = id := by rw [Build.size_contents]; exact congrArg Prod.fst h
  have hb : b.contents.push [] = b'.contents := by rw [← Build.contents_push b n hn, h]
  rw [← hid, ← hb]
  exact isOpen_push b.contents

theorem extends_of_push_of_closes {n : Node} {id : Nat} {b middle b' : Build} (hn : n.content = [])
    (h : b.push n = (id, middle)) (hclose : Closes middle.contents id b'.contents) :
    Extends b.contents [id] b'.contents := by
  have hid : b.contents.size = id := by rw [Build.size_contents]; exact congrArg Prod.fst h
  have hb : b.contents.push [] = middle.contents := by rw [← Build.contents_push b n hn, h]
  rw [← hid, ← hb] at hclose
  rw [← hid]
  exact extends_of_closes hclose

/-- A collection takes in the nodes that have been added, and reading goes on. -/
theorem closes_of_modify {id id' : Nat} {ids : List Nat} {b c b' : Build}
    (hopen : IsOpen b.contents id) (he : Extends b.contents ids c.contents)
    (h : IsOpen (c.modify id fun n => { n with content := n.content ++ ids }).contents id →
      id' = id ∧ Closes (c.modify id fun n => { n with content := n.content ++ ids }).contents id
        b'.contents) : id' = id ∧ Closes b.contents id b'.contents := by
  rw [Build.contents_modify (g := (· ++ ids)) fun _ => rfl] at h
  obtain ⟨hid, hclose⟩ := h (hopen.take he)
  exact ⟨hid, hclose.of_take he⟩

theorem extends_of_readScalarLine {indent id : Nat} {line : Line} {b b' : Build}
    (h : readScalarLine indent line b = .ok (id, b')) : Extends b.contents [id] b'.contents := by
  unfold readScalarLine at h
  dsimp only at h
  split at h
  · cases h
  · next n lines hn =>
    have hcontent : (b.withHead n).content = [] := by simp [content_of_scalarNode hn]
    exact (extends_of_push hcontent (Except.ok.inj h) :)

/-- What each of the five readers does to the store, for all amounts of fuel up to `fuel`. -/
structure BuildsTree (fuel : Nat) : Prop where
  node : ∀ {indent id : Nat} {b b' : Build},
    readNode fuel indent b = .ok (id, b') → Extends b.contents [id] b'.contents
  pairs : ∀ {mapping indent id : Nat} {last : Option Nat} {b b' : Build},
    IsOpen b.contents mapping → readPairs fuel mapping indent last b = .ok (id, b') →
    id = mapping ∧ Closes b.contents mapping b'.contents
  value : ∀ {indent key id : Nat} {line : Line} {keyText rest : List Char} {b b' : Build},
    readValue fuel indent line key keyText rest b = .ok (id, b') →
    Extends b.contents [id] b'.contents
  items : ∀ {sequence indent id : Nat} {last : Option Nat} {b b' : Build},
    IsOpen b.contents sequence → readItems fuel sequence indent last b = .ok (id, b') →
    id = sequence ∧ Closes b.contents sequence b'.contents
  nested : ∀ {indent number column id : Nat} {allowSequence : Bool} {b b' : Build},
    readNested fuel indent allowSequence number column b = .ok (id, b') →
    Extends b.contents [id] b'.contents

section

variable {fuel : Nat}

theorem buildsTree_zero : BuildsTree 0 := by
  constructor <;> intros <;> simp_all [readNode, readPairs, readValue, readItems, readNested]

theorem extends_of_readNode (ih : BuildsTree fuel) {indent id : Nat} {b b' : Build}
    (h : readNode (fuel + 1) indent b = .ok (id, b')) : Extends b.contents [id] b'.contents := by
  have hcollection {n : Node} (hn : n.content = [])
      (hread : IsOpen (b.push n).2.contents (b.push n).1 →
        id = (b.push n).1 ∧ Closes (b.push n).2.contents (b.push n).1 b'.contents) :
      Extends b.contents [id] b'.contents := by
    have hpush : b.push n = ((b.push n).1, (b.push n).2) := rfl
    have hid : id = (b.push n).1 := (hread (isOpen_of_push hn hpush)).1
    rw [hid]
    exact extends_of_push_of_closes hn hpush (hread (isOpen_of_push hn hpush)).2
  unfold readNode at h
  split at h
  · cases h
  · split at h
    · exact hcollection rfl fun hopen => ih.items hopen h
    · split at h
      · exact hcollection rfl fun hopen => ih.pairs hopen h
      · exact extends_of_readScalarLine h

theorem extends_of_readNested (ih : BuildsTree fuel) {indent number column id : Nat}
    {allowSequence : Bool} {b b' : Build}
    (h : readNested (fuel + 1) indent allowSequence number column b = .ok (id, b')) :
    Extends b.contents [id] b'.contents := by
  have hmissing {c : Build}
      (hc : Except.ok (b.toContent.push (missingNode number column)) =
        (.ok (id, c) : Except Fault (Nat × Build))) : Extends b.contents [id] c.contents :=
    (extends_of_push rfl (Except.ok.inj hc) :)
  unfold readNested at h
  dsimp only at h
  split at h
  · split at h
    · exact (ih.node h :)
    · exact hmissing h
  · exact hmissing h

theorem extends_of_readValue (ih : BuildsTree fuel) {indent key id : Nat} {line : Line}
    {keyText rest : List Char} {b b' : Build}
    (h : readValue (fuel + 1) indent line key keyText rest b = .ok (id, b')) :
    Extends b.contents [id] b'.contents := by
  unfold readValue at h
  dsimp only at h
  split at h
  · split at h
    · cases h
    · next id' c hc =>
      cases h
      have hc := ih.nested hc
      rw [Build.contents_modify_eq (by simp)] at hc
      rwa [Build.contents_setProperties]
  · split at h
    · cases h
    · next n lines hn => exact (extends_of_push (content_of_scalarNode hn) (Except.ok.inj h) :)

theorem closes_of_readPairs (ih : BuildsTree fuel) {mapping indent id : Nat} {last : Option Nat}
    {b b' : Build} (hopen : IsOpen b.contents mapping)
    (h : readPairs (fuel + 1) mapping indent last b = .ok (id, b')) :
    id = mapping ∧ Closes b.contents mapping b'.contents := by
  have hclose (hc : Except.ok (mapping, b.toContent.withFoot last indent) =
      (.ok (id, b') : Except Fault (Nat × Build))) :
      id = mapping ∧ Closes b.contents mapping b'.contents := by
    cases hc
    exact ⟨rfl, by simpa using hopen.closes⟩
  unfold readPairs at h
  dsimp only at h
  split at h
  · exact hclose h
  · split at h
    · exact hclose h
    · split at h
      · cases h
      · split at h
        · split at h
          · exact hclose h
          · cases h
        · split at h
          · cases h
          · split at h
            · cases h
            · next value c hvalue =>
              refine closes_of_modify hopen (Extends.pair ?_ (ih.value hvalue)) fun hopen =>
                ih.pairs hopen h
              exact extends_of_push (b := b.toContent.dropLine.clearPending) rfl rfl

theorem closes_of_readItems (ih : BuildsTree fuel) {sequence indent id : Nat} {last : Option Nat}
    {b b' : Build} (hopen : IsOpen b.contents sequence)
    (h : readItems (fuel + 1) sequence indent last b = .ok (id, b')) :
    id = sequence ∧ Closes b.contents sequence b'.contents := by
  have hclose (hc : Except.ok (sequence, b.toContent.withFoot last indent) =
      (.ok (id, b') : Except Fault (Nat × Build))) :
      id = sequence ∧ Closes b.contents sequence b'.contents := by
    cases hc
    exact ⟨rfl, by simpa using hopen.closes⟩
  unfold readItems at h
  dsimp only at h
  split at h
  · exact hclose h
  · split at h
    · exact hclose h
    · split at h
      · cases h
      · split at h
        · cases h
        · next item c hitem =>
          refine closes_of_modify hopen ?_ fun hopen => ih.items hopen h
          split at hitem
          · split at hitem
            · cases hitem
            · next id' d hd =>
              cases hitem
              rw [Build.contents_modify_eq (by simp), Build.contents_setProperties]
              exact (ih.nested hd :)
          · exact (ih.node hitem :)

/-- Reading keeps the store in the order of the document, whatever the fuel. -/
theorem buildsTree (fuel : Nat) : BuildsTree fuel := by
  induction fuel with
  | zero => exact buildsTree_zero
  | succ fuel ih =>
    exact ⟨extends_of_readNode ih, closes_of_readPairs ih, extends_of_readValue ih,
      closes_of_readItems ih, extends_of_readNested ih⟩

end

/-! ### Documents -/

theorem extends_of_readDocument {nodes nodes' : Array Node} {lines : List Line} {root : Root}
    (h : readDocument nodes lines = .ok (root, nodes')) :
    Extends (nodes.map Node.content) root.node.toList (nodes'.map Node.content) := by
  unfold readDocument at h
  dsimp only at h
  split at h
  · cases h
    exact extends_nil _
  · split at h
    · cases h
    · next id b hb =>
      split at h
      · cases h
      · cases h
        exact ((buildsTree _).node hb :)

theorem extends_of_readDocuments {nodes nodes' : Array Node} {chunks : List (Bool × List Line)}
    {roots : List Root} (h : readDocuments nodes chunks = .ok (roots, nodes')) :
    Extends (nodes.map Node.content) (roots.filterMap Root.node) (nodes'.map Node.content) := by
  induction chunks generalizing nodes roots with
  | nil =>
    cases h
    exact extends_nil _
  | cons chunk chunks ih =>
    unfold readDocuments at h
    split at h
    · cases h
    · next root middle hroot =>
      split at h
      · cases h
      · next more final hmore =>
        cases h
        have hroots := (extends_of_readDocument hroot).trans (ih hmore)
        cases hnode : root.node <;> simpa [hnode] using hroots

/-- The content of every node of a manifest. -/
def contents (m : Manifest) : Array (List Nat) := m.nodes.map Node.content

theorem contentOf_eq (m : Manifest) (id : Nat) : m.contentOf id = m.contents[id]?.getD [] := by
  unfold contentOf contents node?
  rw [Array.getElem?_map]
  cases m.nodes[id]? <;> rfl

/-- What has been read from a text has been read from its documents. -/
theorem readDocuments_of_parse {text : String} {m : Manifest} (h : parse text = .ok m) :
    ∃ chunks, documentLines text.toList = .ok chunks ∧
      readDocuments #[] chunks = .ok (m.documents, m.nodes) := by
  unfold parse at h
  split at h
  · cases h
  · unfold ofLayout at h
    split at h
    · cases h
    · next chunks hchunks =>
      split at h
      · cases h
      · next documents nodes hread =>
        cases h
        exact ⟨chunks, hchunks, hread⟩

/-- The roots of a manifest with all that is below them are all its nodes. -/
theorem spans_of_parse {text : String} {m : Manifest} (h : parse text = .ok m) :
    Spans m.contents m.roots 0 m.nodes.size := by
  unfold parse at h
  split at h
  · cases h
  · unfold ofLayout at h
    split at h
    · cases h
    · split at h
      · cases h
      · next documents nodes hdocuments =>
        cases h
        simpa [contents, roots] using (extends_of_readDocuments hdocuments).spans

/-! ### The order of the document -/

theorem preorderFrom_of_spans {m : Manifest} {ids : List Nat} {lo hi : Nat}
    (h : Spans m.contents ids lo hi) :
    ∀ fuel, hi - lo ≤ fuel → m.preorderFrom fuel ids = List.range' lo (hi - lo) := by
  induction h with
  | nil lo =>
    intro fuel _
    cases fuel <;> simp [preorderFrom]
  | @cons ids lo mid hi h hs ih ihs =>
    intro fuel hfuel
    have hmid := h.le
    have hhi := hs.le
    obtain ⟨fuel, rfl⟩ : ∃ n, fuel = n + 1 := ⟨fuel - 1, by omega⟩
    have hbelow := ih fuel (by omega)
    have hrest := ihs (fuel + 1) (by omega)
    rw [preorderFrom] at hrest ⊢
    rw [List.flatMap_cons, hrest, contentOf_eq, hbelow]
    have hsplit : hi - lo = (mid - (lo + 1) + (hi - mid)) + 1 := by omega
    rw [hsplit, List.range'_succ, ← List.range'_append_1, List.cons_append]
    congr 3
    omega

/-- The nodes of a manifest, each before its content, are all its numbers in order. -/
theorem preorder_of_parse {text : String} {m : Manifest} (h : parse text = .ok m) :
    m.preorder = List.range m.nodes.size := by
  have hspans := preorderFrom_of_spans (spans_of_parse h) (m.nodes.size + 1) (by omega)
  rw [preorder, hspans, List.range_eq_range']
  rfl

end ManifestMarkers.Manifest
