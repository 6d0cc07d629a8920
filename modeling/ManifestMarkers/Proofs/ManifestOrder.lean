import ManifestMarkers.Proofs.ManifestBlock
import ManifestMarkers.Proofs.ManifestShape

/-!
# A manifest is a tree in the order of its text

The builder uses up the lines from the first to the last, and every node stands on the line that is
read when it is added.

* `InOrder` is what holds of the lines of the nodes and the lines that are left; every task keeps it
  (`inOrder_of_reads`).
* `Visits` goes through nodes and their content, without a bound on the depth.
* `isTree_of_parse`: every manifest that is read is a tree in the order of its text.
-/

namespace ManifestMarkers.Manifest

/-! ### Lines are used up in order -/

theorem flowScalar_suffix {number : Nat} {depth : Int} {text raw : List Char}
    {lines rest : List Line} (h : flowScalar number depth text lines = .ok (raw, rest)) :
    rest <:+ lines := by
  induction lines generalizing depth text with
  | nil =>
    unfold flowScalar at h
    split at h
    · cases h
    · cases h; exact List.suffix_refl _
  | cons l lines ih =>
    unfold flowScalar at h
    split at h
    · exact (ih h).trans (List.suffix_cons l lines)
    · cases h; exact List.suffix_refl _

theorem quotedLines_suffix {number : Nat} {text raw : List Char}
    {comment : Option (Line × List Char)} {lines rest : List Line}
    (h : quotedLines number text lines = .ok (raw, comment, rest)) :
    rest <:+ lines := by
  induction lines generalizing text with
  | nil => cases h
  | cons l lines ih =>
    unfold quotedLines at h
    dsimp only at h
    split at h
    · exact (ih h).trans (List.suffix_cons l lines)
    · split at h
      · cases h; exact List.suffix_cons l _
      · cases h; exact List.suffix_cons l _
      · cases h

theorem quotedScalar_suffix {number : Nat} {text raw : List Char}
    {comment : Option (Line × List Char)} {lines rest : List Line}
    (h : quotedScalar number text lines = .ok (raw, comment, rest)) : rest <:+ lines := by
  unfold quotedScalar at h
  split at h
  · cases h; exact List.suffix_refl _
  · exact quotedLines_suffix h

/-- A scalar uses up the first of the lines that are left. -/
theorem scalarNode_suffix {v : InlineValue} {line : Line} {parent column : Nat}
    {lines rest : List Line} {n : Node}
    (h : scalarNode v line parent column lines = .ok (n, rest)) : rest <:+ lines := by
  unfold scalarNode at h
  dsimp only at h
  split at h
  · cases h; exact List.drop_suffix _ _
  · cases h; exact List.drop_suffix _ _
  · split at h
    · next hflow => cases h; exact flowScalar_suffix hflow
    · cases h
  · cases h; exact List.drop_suffix _ _
  · split at h
    · cases h
    · next hquoted =>
      split at h
      · cases h
      · cases h; exact quotedScalar_suffix hquoted
  · split at h
    · cases h
    · next hquoted =>
      split at h
      · cases h
      · cases h; exact quotedScalar_suffix hquoted

theorem Build.toContent_suffix (b : Build) : b.toContent.lines <:+ b.lines := by
  show (collect b.pending b.lines).2 <:+ b.lines
  generalize b.pending = ps
  induction b.lines generalizing ps with
  | nil => exact List.suffix_refl _
  | cons line lines ih =>
    unfold collect
    split
    · exact (ih _).trans (List.suffix_cons line lines)
    · exact List.suffix_refl _
    · exact (ih _).trans (List.suffix_cons line lines)

@[simp] theorem Build.lines_withFoot (b : Build) (last : Option Nat) (indent : Nat) :
    (b.withFoot last indent).lines = b.lines := by
  cases last with
  | none => rfl
  | some id =>
    show (b.attachFoot id indent).lines = b.lines
    unfold attachFoot
    dsimp only
    split <;> rfl

/-- The lines of nodes. -/
def formLines (forms : Array Form) : List Nat := forms.toList.map Form.line

@[simp] theorem formLines_push (forms : Array Form) (f : Form) :
    formLines (forms.push f) = formLines forms ++ [f.line] := by
  simp [formLines]

@[simp] theorem formLines_take (forms : Array Form) (id : Nat) (ids : List Nat) :
    formLines (forms.modify id (Form.take · ids)) = formLines forms := by
  apply List.ext_getElem?
  intro i
  simp only [formLines, List.getElem?_map, Array.getElem?_toList, Array.getElem?_modify]
  split
  · cases forms[i]? <;> rfl
  · rfl

/-- The nodes stand on lines in their order. Behind them come the lines `between`, those of `lines`
and then those of later documents. -/
def InOrder (later : List Nat) (forms : Array Form) (between : List Nat) (lines : List Line) :
    Prop :=
  (formLines forms ++ between ++ (lines.map Line.number ++ later)).Pairwise (· ≤ ·)

section

variable {later : List Nat} {forms : Array Form} {between : List Nat} {lines rest : List Line}
  {line : Line}

theorem InOrder.suffix (h : InOrder later forms between lines) (hrest : rest <:+ lines) :
    InOrder later forms between rest := by
  refine h.sublist (List.Sublist.append_left ?_ _)
  exact (hrest.sublist.map Line.number).append_right later

theorem InOrder.forget (h : InOrder later forms between lines) : InOrder later forms [] lines := by
  refine h.sublist (List.Sublist.append_right ?_ _)
  exact List.Sublist.append_left (List.nil_sublist between) _

theorem InOrder.take {id : Nat} {ids : List Nat} (h : InOrder later forms between lines) :
    InOrder later (forms.modify id (Form.take · ids)) between lines := by
  unfold InOrder
  rw [formLines_take]
  exact h

/-- A node on the line in between may be followed by further nodes on it. -/
theorem InOrder.push {f : Form} (h : InOrder later forms [f.line] lines) :
    InOrder later (forms.push f) [f.line] lines := by
  unfold InOrder at h ⊢
  rw [formLines_push]
  obtain ⟨hleft, hright, hacross⟩ := List.pairwise_append.1 h
  refine List.pairwise_append.2 ⟨List.pairwise_append.2 ⟨hleft, by simp, ?_⟩, hright, ?_⟩
  · intro x hx y hy
    obtain rfl := List.mem_singleton.1 hy
    rcases List.mem_append.1 hx with hx | hx
    · exact (List.pairwise_append.1 hleft).2.2 x hx _ (by simp)
    · exact Nat.le_of_eq (List.mem_singleton.1 hx)
  · intro x hx y hy
    refine hacross x ?_ y hy
    rcases List.mem_append.1 hx with hx | hx
    · exact hx
    · exact List.mem_append_right _ hx

/-- The line that is read next. -/
theorem InOrder.next (h : InOrder later forms [] (line :: lines)) :
    InOrder later forms [line.number] lines := by
  unfold InOrder at h ⊢
  simpa using h

/-- The line that is read next is not used up yet. -/
theorem InOrder.stay (h : InOrder later forms [line.number] lines) :
    InOrder later forms [] (line :: lines) := by
  unfold InOrder at h ⊢
  simpa using h

end

/-- The line that a task is about, behind the nodes so far. -/
def Task.above : Task → List Nat
  | .nested _ _ number _ => [number]
  | _ => []

/-- Every task uses up lines in order. -/
theorem inOrder_of_reads {later : List Nat} {task : Task} {b b' : Build} {t : Tally} {id : Nat}
    (h : Reads task b t id b') (horder : InOrder later b.forms task.above b.lines) :
    InOrder later b'.forms [] b'.lines := by
  induction h with
  | @sequence indent line lines b b' t hlines hitem h ih =>
    rw [hlines] at horder
    refine ih ?_
    rw [Build.forms_push]
    show InOrder later _ [] b.lines
    rw [hlines]
    exact (InOrder.push horder.next).stay
  | @mapping indent line lines b b' t hlines hkey h ih =>
    rw [hlines] at horder
    refine ih ?_
    rw [Build.forms_push]
    show InOrder later _ [] b.lines
    rw [hlines]
    exact (InOrder.push horder.next).stay
  | @scalarLine indent line lines rest n b hlines hitem hkey hn =>
    rw [hlines] at horder
    rw [Build.forms_addScalarLine, form_of_scalarNode hn]
    exact (InOrder.push horder.next).forget.suffix (scalarNode_suffix hn)
  | @pairsEnd mapping indent last b hend =>
    rw [Build.forms_withFoot, Build.lines_withFoot]
    exact horder.suffix b.toContent_suffix
  | @inlinePair mapping indent last line lines lines' keyText keyValue rest n b b' t hlines hindent
      hkey hn h ih =>
    have hnext := horder.suffix b.toContent_suffix
    rw [hlines] at hnext
    refine ih ?_
    rw [Build.forms_addContent, Build.forms_addScalar, Build.forms_addKey, Build.forms_toContent,
      form_of_scalarNode hn]
    have hboth := (InOrder.push (f := ⟨.scalar, line.number, valueColumn line rest, []⟩)
      (InOrder.push (f := ⟨.scalar, line.number, indent + 1, []⟩) hnext.next)).forget
    exact (hboth.suffix (scalarNode_suffix hn)).take
  | @nestedPair mapping indent value last line lines keyText keyValue rest b c b' s t hlines hindent
      hkey hempty hvalue h ihvalue ih =>
    have hnext := horder.suffix b.toContent_suffix
    rw [hlines] at hnext
    have hc := ihvalue (by
      rw [Build.forms_setTrail, Build.forms_addKey, Build.forms_toContent]
      have hlines' : ((b.toContent.addKey line indent keyText keyValue).setTrail b.nodes.size line
          (splitValue rest)).lines = lines := by
        show b.toContent.lines.drop 1 = lines
        rw [hlines]
        rfl
      rw [hlines']
      exact InOrder.push (f := ⟨.scalar, line.number, indent + 1, []⟩) hnext.next)
    refine ih ?_
    rw [Build.forms_addContent, Build.forms_setProperties]
    exact hc.take
  | @itemsEnd sequence indent last b hend =>
    rw [Build.forms_withFoot, Build.lines_withFoot]
    exact horder.suffix b.toContent_suffix
  | @nestedItem sequence indent id last line lines b c b' s t hlines hindent hitem hempty hvalue h
      ihvalue ih =>
    have hnext := horder.suffix b.toContent_suffix
    rw [hlines] at hnext
    have hc := ihvalue (by
      show InOrder later b.forms [line.number] (b.toContent.lines.drop 1)
      rw [hlines]
      exact hnext.next)
    refine ih ?_
    rw [Build.forms_addContent, Build.forms_setItem]
    exact hc.take
  | @compactItem sequence indent id last line lines b c b' s t hlines hindent hitem hvalue h ihvalue
      ih =>
    have hnext := horder.suffix b.toContent_suffix
    rw [hlines] at hnext
    refine ih ?_
    rw [Build.forms_addContent]
    exact (ihvalue hnext).take
  | @deeper indent number column id allowSequence line lines b b' t hlines hindent h ih =>
    exact ih (horder.forget.suffix b.toContent_suffix)
  | @missing indent number column allowSequence b hnone =>
    rw [Build.forms_push]
    exact (InOrder.push horder).forget.suffix b.toContent_suffix

/-! ### Documents -/

theorem inOrder_of_readsDocument {later : List Nat} {nodes nodes' : Array Node} {lines : List Line}
    {t : Tally} {root : Root} (h : ReadsDocument nodes lines t root nodes')
    (horder : InOrder later (nodes.map Node.form) [] lines) :
    InOrder later (nodes'.map Node.form) [] [] := by
  cases h with
  | empty hlines => exact horder.suffix (List.nil_suffix)
  | node hlines h hend =>
    have hstart : InOrder later (nodes.map Node.form) [] (Build.start nodes lines).lines :=
      horder.suffix (Build.toContent_suffix _)
    exact (inOrder_of_reads h hstart).suffix List.nil_suffix

/-- The numbers of the lines of documents. -/
def chunkNumbers (chunks : List (Bool × List Line)) : List Nat :=
  chunks.flatMap fun chunk => chunk.2.map Line.number

/-- Reading documents one after the other keeps the shape and goes on in the order of the lines. -/
theorem shaped_of_readDocuments {nodes nodes' : Array Node} {chunks : List (Bool × List Line)}
    {roots : List Root} (h : readDocuments nodes chunks = .ok (roots, nodes'))
    (hshaped : Shaped (fun _ => False) (nodes.map Node.form))
    (horder : InOrder (chunkNumbers chunks) (nodes.map Node.form) [] []) :
    Shaped (fun _ => False) (nodes'.map Node.form) ∧ InOrder [] (nodes'.map Node.form) [] [] := by
  induction chunks generalizing nodes roots with
  | nil =>
    cases h
    exact ⟨hshaped, horder⟩
  | cons chunk chunks ih =>
    unfold readDocuments at h
    split at h
    · cases h
    · next root middle hroot =>
      have hread := readsDocument_of_readDocument hroot
      split at h
      · cases h
      · next more final hmore =>
        cases h
        refine ih hmore (shaped_of_readsDocument hread hshaped) (inOrder_of_readsDocument hread ?_)
        simpa [InOrder, chunkNumbers] using horder

theorem map_number_numberLines (number : Nat) (parts : List (List Char)) :
    (numberLines number parts).map Line.number = List.range' number parts.length := by
  induction parts generalizing number with
  | nil => rfl
  | cons cs parts ih =>
    rw [numberLines, List.map_cons, ih, List.length_cons, List.range'_succ]
    rfl

/-- Lines go to the documents in their order. -/
theorem chunkLines_sublist {lines chunk : List Line} {chunks : List (Bool × List Line)}
    (h : chunkLines lines = .ok (chunk, chunks)) :
    (chunk.map Line.number ++ chunkNumbers chunks).Sublist (lines.map Line.number) := by
  induction lines generalizing chunk chunks with
  | nil =>
    cases h
    exact List.Sublist.refl _
  | cons line lines ih =>
    unfold chunkLines at h
    split at h
    · dsimp only at h
      split at h
      · cases h
      · next first hfirst =>
        split at h
        · cases h
        · next chunk' chunks' hrest =>
          cases h
          -- the comment of an indicator stands on its line
          have hnumber : (first.map Line.number).Sublist [line.number] := by
            split at hfirst <;> cases hfirst <;> simp
          simpa [chunkNumbers] using hnumber.append (ih hrest)
    · exact (ih h).cons _
    · split at h
      · cases h
      · next chunk' chunks' hrest =>
        cases h
        exact (ih hrest).cons_cons _

theorem pairwise_documentLines {cs : List Char} {chunks : List (Bool × List Line)}
    (h : documentLines cs = .ok chunks) : (chunkNumbers chunks).Pairwise (· ≤ ·) := by
  have hall : ((numberLines 1 (Text.lines cs)).map Line.number).Pairwise (· ≤ ·) := by
    rw [map_number_numberLines]
    exact List.pairwise_le_range'
  unfold documentLines at h
  split at h
  · cases h
  · next first hchunks =>
    cases h
    exact hall.sublist (by simpa [chunkNumbers] using chunkLines_sublist hchunks)
  · next first chunks hne hchunks =>
    have hsub := hall.sublist (chunkLines_sublist hchunks)
    cases h
    split
    · exact hsub.sublist (List.sublist_append_right _ _)
    · simpa [chunkNumbers] using hsub

/-- All nodes of a manifest have their shape, on lines in order. -/
theorem shaped_of_parse {text : String} {m : Manifest} (h : parse text = .ok m) :
    Shaped (fun _ => False) (m.nodes.map Node.form) ∧
      (formLines (m.nodes.map Node.form)).Pairwise (· ≤ ·) := by
  unfold parse at h
  split at h
  · cases h
  · unfold ofLayout at h
    split at h
    · cases h
    · next chunks hchunks =>
      split at h
      · cases h
      · next documents nodes hdocuments =>
        cases h
        have hempty : Shaped (fun _ => False) ((#[] : Array Node).map Node.form) := by
          intro i f hf
          simp at hf
        have hboth := shaped_of_readDocuments hdocuments hempty
          (by simpa [InOrder, formLines] using pairwise_documentLines hchunks)
        exact ⟨hboth.1, by simpa [InOrder] using hboth.2⟩

/-! ### The tree -/

/-- Going through the nodes `ids` and all that is below them, each node before its content, meets
the nodes `order`. -/
inductive Visits (m : Manifest) : List Nat → List Nat → Prop
  | nil : Visits m [] []
  | cons {id : Nat} {ids below rest : List Nat} {n : Node} (hn : m.node? id = some n)
      (hbelow : Visits m n.content below) (hrest : Visits m ids rest) :
      Visits m (id :: ids) (id :: below ++ rest)

theorem visits_of_spans {m : Manifest} {ids : List Nat} {lo hi : Nat}
    (h : Spans m.contents ids lo hi) (hsize : hi ≤ m.nodes.size) :
    Visits m ids (List.range' lo (hi - lo)) := by
  induction h with
  | nil lo =>
    rw [Nat.sub_self]
    exact .nil
  | @cons ids lo mid hi hbelow hrest ih ihs =>
    have hmid := hbelow.le
    have hhi := hrest.le
    have hn : m.node? lo = some m.nodes[lo] := Array.getElem?_eq_getElem (by omega)
    have hcontent : m.contents[lo]?.getD [] = m.nodes[lo].content := by
      rw [← contentOf_eq, contentOf, hn]
    rw [hcontent] at ih
    have hsplit : List.range' lo (hi - lo) =
        lo :: List.range' (lo + 1) (mid - (lo + 1)) ++ List.range' mid (hi - mid) := by
      have hsum : hi - lo = (mid - (lo + 1) + (hi - mid)) + 1 := by omega
      rw [hsum, List.range'_succ, ← List.range'_append_1, List.cons_append]
      congr 3
      omega
    rw [hsplit]
    exact .cons hn (ih (by omega)) (ihs hsize)

/-- A tree in the order of its text. -/
structure IsTree (m : Manifest) : Prop where
  /-- The roots with all that is below them are the numbers of the nodes, in order. -/
  visits : Visits m m.roots (List.range m.nodes.size)
  /-- A mapping has pairs. -/
  mapping : ∀ (id : Nat) (n : Node), m.node? id = some n → n.kind = .mapping →
    n.content ≠ [] ∧ Even n.content.length ∧ ∀ k v, (k, v) ∈ pairsOf n.content →
      (∃ key, m.node? k = some key ∧ key.form.IsKeyOf n.form) ∧
        ∃ value, m.node? v = some value ∧ value.form.IsValueOf n.form
  /-- A sequence has items. -/
  sequence : ∀ (id : Nat) (n : Node), m.node? id = some n → n.kind = .sequence →
    n.content ≠ [] ∧ ∀ i ∈ n.content, ∃ item, m.node? i = some item ∧ item.form.IsItemOf n.form
  /-- A scalar has no content. -/
  scalar : ∀ (id : Nat) (n : Node), m.node? id = some n → n.kind = .scalar → n.content = []
  /-- Lines do not decrease. -/
  lines : ∀ (i j : Nat) (a b : Node), m.node? i = some a → m.node? j = some b → i ≤ j →
    a.line ≤ b.line

theorem getElem?_forms {m : Manifest} {id : Nat} {f : Form} :
    (m.nodes.map Node.form)[id]? = some f ↔ ∃ n, m.node? id = some n ∧ n.form = f := by
  rw [Array.getElem?_map, ← node?]
  exact Option.map_eq_some_iff

section

variable {m : Manifest} {n : Node} {id : Nat}

theorem mapping_of_shaped (h : Shaped (fun _ => False) (m.nodes.map Node.form))
    (hn : m.node? id = some n) (hkind : n.kind = .mapping) :
    n.content ≠ [] ∧ Even n.content.length ∧ ∀ k v, (k, v) ∈ pairsOf n.content →
      (∃ key, m.node? k = some key ∧ key.form.IsKeyOf n.form) ∧
        ∃ value, m.node? v = some value ∧ value.form.IsValueOf n.form := by
  replace hkind : n.form.kind = .mapping := hkind
  obtain ⟨hholds, hempty⟩ := h id n.form (getElem?_forms.2 ⟨n, hn, rfl⟩)
  rw [Form.Holds, hkind] at hholds
  refine ⟨fun hnil => hempty (by simp [hkind]) hnil, hholds.1, fun k v hpair => ?_⟩
  obtain ⟨⟨keyForm, hk, hkey⟩, valueForm, hv, hvalue⟩ := hholds.2 k v hpair
  obtain ⟨key, hkeyNode, rfl⟩ := getElem?_forms.1 hk
  obtain ⟨value, hvalueNode, rfl⟩ := getElem?_forms.1 hv
  exact ⟨⟨key, hkeyNode, hkey⟩, value, hvalueNode, hvalue⟩

theorem sequence_of_shaped (h : Shaped (fun _ => False) (m.nodes.map Node.form))
    (hn : m.node? id = some n) (hkind : n.kind = .sequence) :
    n.content ≠ [] ∧
      ∀ i ∈ n.content, ∃ item, m.node? i = some item ∧ item.form.IsItemOf n.form := by
  replace hkind : n.form.kind = .sequence := hkind
  obtain ⟨hholds, hempty⟩ := h id n.form (getElem?_forms.2 ⟨n, hn, rfl⟩)
  rw [Form.Holds, hkind] at hholds
  refine ⟨fun hnil => hempty (by simp [hkind]) hnil, fun i hi => ?_⟩
  obtain ⟨itemForm, hitem, hof⟩ := hholds i hi
  obtain ⟨item, hitemNode, rfl⟩ := getElem?_forms.1 hitem
  exact ⟨item, hitemNode, hof⟩

theorem scalar_of_shaped (h : Shaped (fun _ => False) (m.nodes.map Node.form))
    (hn : m.node? id = some n) (hkind : n.kind = .scalar) : n.content = [] := by
  replace hkind : n.form.kind = .scalar := hkind
  obtain ⟨hholds, -⟩ := h id n.form (getElem?_forms.2 ⟨n, hn, rfl⟩)
  rw [Form.Holds, hkind] at hholds
  exact hholds

theorem line_le_of_pairwise {i j : Nat} {a b : Node}
    (h : (formLines (m.nodes.map Node.form)).Pairwise (· ≤ ·)) (ha : m.node? i = some a)
    (hb : m.node? j = some b) (hij : i ≤ j) : a.line ≤ b.line := by
  have hline {k : Nat} {c : Node} (hc : m.node? k = some c) :
      (formLines (m.nodes.map Node.form))[k]? = some c.line := by
    rw [formLines, List.getElem?_map, Array.getElem?_toList, getElem?_forms.2 ⟨c, hc, rfl⟩]
    rfl
  rcases Nat.lt_or_eq_of_le hij with hlt | rfl
  · obtain ⟨hi, ha⟩ := List.getElem?_eq_some_iff.1 (hline ha)
    obtain ⟨hj, hb⟩ := List.getElem?_eq_some_iff.1 (hline hb)
    rw [← ha, ← hb]
    exact List.pairwise_iff_getElem.1 h i j hi hj hlt
  · rw [ha] at hb
    cases hb
    exact Nat.le_refl _

end

theorem visits_of_parse {text : String} {m : Manifest} (h : parse text = .ok m) :
    Visits m m.roots (List.range m.nodes.size) := by
  have hvisits := visits_of_spans (spans_of_parse h) (Nat.le_refl _)
  rwa [Nat.sub_zero, ← List.range_eq_range'] at hvisits

/-- Every manifest that is read is a tree in the order of its text. -/
theorem isTree_of_parse {text : String} {m : Manifest} (h : parse text = .ok m) : m.IsTree := by
  obtain ⟨hshaped, hlines⟩ := shaped_of_parse h
  exact
    { visits := visits_of_parse h
      mapping := fun _ _ hn hkind => mapping_of_shaped hshaped hn hkind
      sequence := fun _ _ hn hkind => sequence_of_shaped hshaped hn hkind
      scalar := fun _ _ hn hkind => scalar_of_shaped hshaped hn hkind
      lines := fun _ _ _ _ ha hb hij => line_le_of_pairwise hlines ha hb hij }

/-- Two documents with a sequence right below its key, compact items and an item that is missing. -/
theorem isTree_of_parse_compact : ∃ m,
    parse "a:\n- b: 1\n  c:\n    d: |\n      # x\n-\n---\n# y\n- - z\n" = .ok m ∧
      m.nodes.size = 14 ∧ m.IsTree := by
  have h : (parse "a:\n- b: 1\n  c:\n    d: |\n      # x\n-\n---\n# y\n- - z\n").toOption.map
      (·.nodes.size) = some 14 := by
    rw [parse_eq_ite, String.toList_ofList]
    with_unfolding_all decide
  obtain ⟨m, hm, hsize⟩ := Option.map_eq_some_iff.1 h
  have hm := eq_ok_of_toOption hm
  exact ⟨m, hm, hsize, isTree_of_parse hm⟩

end ManifestMarkers.Manifest
