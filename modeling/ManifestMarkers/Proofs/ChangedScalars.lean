import ManifestMarkers.Proofs.Descriptions
import ManifestMarkers.Proofs.NodeTrees
import ManifestMarkers.Proofs.WrittenStrings

/-!
# Changed scalars

A changed scalar is quoted as far as it has to be, so that it is decoded to the new value.

* `value_setValue`: a new value that is spared takes the place of the old one, and makes no other
  difference.
* `changed_scalar_trimmed`: a new value that loses the blank at its end.
-/

namespace ManifestMarkers.Manifest

open Yaml

section

variable {m : Manifest} {id : Nat} {s : String}

/-- A changed scalar stands where it stood, with its comments. -/
structure Node.IsRevalued (n n' : Node) : Prop where
  kind : n'.kind = n.kind
  content : n'.content = n.content
  column : n'.column = n.column
  anchor : n'.anchor = n.anchor
  tag : n'.tag = n.tag
  headComment : n'.headComment = n.headComment
  lineComment : n'.lineComment = n.lineComment
  footComment : n'.footComment = n.footComment

theorem Node.IsRevalued.refl (n : Node) : n.IsRevalued n := ⟨rfl, rfl, rfl, rfl, rfl, rfl, rfl, rfl⟩

theorem Node.isRevalued_setValue (n : Node) (s : String) : n.IsRevalued (n.setValue s) :=
  ⟨rfl, rfl, rfl, rfl, rfl, rfl, rfl, rfl⟩

theorem revalued_modify (m : Manifest) (id : Nat) (s : String) :
    Nodewise (fun i n n' => n.IsRevalued n' ∧ n' = if i = id then n.setValue s else n) m
      (m.modify id (·.setValue s)) := by
  refine ⟨rfl, by simp [modify], fun i => ?_⟩
  rw [node?_modify]
  cases hn : m.node? i with
  | none =>
    rw [Option.map_none, ite_self]
    exact .none
  | some n =>
    by_cases hi : id = i
    · rw [if_pos hi, Option.map_some]
      exact .some ⟨n.isRevalued_setValue s, (if_pos hi.symm).symm⟩
    · rw [if_neg hi]
      exact .some ⟨.refl n, (if_neg (Ne.symm hi)).symm⟩

variable {m' : Manifest} (hrevalued : Nodewise (fun i n n' => n.IsRevalued n' ∧
  n' = if i = id then n.setValue s else n) m m')

include hrevalued

theorem isWritable_of_revalued (hm : m.IsWritable) : m'.IsWritable := by
  refine hm.of_kept ⟨hrevalued.documents, hrevalued.size, fun i => ?_⟩
  rcases hrevalued.node_cases i with ⟨hn, hn'⟩ | ⟨n, n', hn, hn', hrel, -⟩
  · rw [hn, hn']
    exact .none
  · rw [hn, hn']
    exact .some ⟨hrel.kind, hrel.content, fun hfoot => hrel.footComment.trans hfoot⟩

theorem hasRemarks_of_revalued (h : ∀ i n, m.node? i = some n → n.HasRemarks) :
    ∀ i n, m'.node? i = some n → n.HasRemarks := by
  intro i n' hn'
  obtain ⟨n, hn, hrel, -⟩ := hrevalued.exists_left hn'
  obtain ⟨hhead, htrail, hfoot⟩ := h i n hn
  exact ⟨hrel.headComment ▸ hhead, hrel.lineComment ▸ htrail, hrel.footComment ▸ hfoot⟩

/-- The tree stays. -/
theorem hasTree_of_revalued {place : Place} {l : Layer} {t : Yaml.Tree l} (h : HasTree m place t) :
    HasTree m' place t := by
  induction h with
  | scalar hn hkind =>
    obtain ⟨n', hn', hrel, -⟩ := hrevalued.exists_right hn
    exact .scalar hn' (hrel.kind.trans hkind)
  | mapping hn hkind h ih =>
    obtain ⟨n', hn', hrel, -⟩ := hrevalued.exists_right hn
    refine .mapping hn' (hrel.kind.trans hkind) ?_
    rwa [Node.indent, hrel.column, hrel.content]
  | sequence hn hkind h ih =>
    obtain ⟨n', hn', hrel, -⟩ := hrevalued.exists_right hn
    refine .sequence hn' (hrel.kind.trans hkind) ?_
    rwa [Node.indent, hrel.column, hrel.content]
  | noPairs => exact .noPairs
  | pair hkey hscalar hcolumn hvalue hmore ihvalue ihmore =>
    obtain ⟨key', hkey', hrel, -⟩ := hrevalued.exists_right hkey
    refine .pair hkey' (hrel.kind.trans hscalar) (fun n' hn' hkind => ?_) ihvalue ihmore
    obtain ⟨n, hn, hrel, -⟩ := hrevalued.exists_left hn'
    rw [hrel.kind] at hkind
    rw [Node.indent, hrel.column]
    exact hcolumn n hn hkind
  | noItems => exact .noItems
  | item hcolumn hcompact hitem hmore ihitem ihmore =>
    refine .item (fun n' hn' hkind => ?_) (fun n' hn' hline => ?_) ihitem ihmore
    all_goals obtain ⟨n, hn, hrel, -⟩ := hrevalued.exists_left hn'
    · rw [hrel.kind] at hkind
      rw [Node.indent, hrel.column]
      exact hcolumn n hn hkind
    · rw [isCompact, hrel.kind, hrel.lineComment, hrel.anchor, hrel.tag] at hline
      rw [Node.indent, hrel.column]
      exact hcompact n hn hline

/-- The keys stay. -/
theorem isKeyText_of_revalued {ks : List Nat} (hid : id ∉ ks)
    (h : ∀ k ∈ ks, ∀ n, m.node? k = some n → IsKeyText (n.scalarText false)) :
    ∀ k ∈ ks, ∀ n, m'.node? k = some n → IsKeyText (n.scalarText false) := by
  intro k hk n' hn'
  obtain ⟨n, hn, -, heq⟩ := hrevalued.exists_left hn'
  rw [if_neg (ne_of_mem_of_not_mem hk hid)] at heq
  rw [heq]
  exact h k hk n hn

/-- The new value takes the place of the old one. -/
theorem isWrittenBy_of_revalued {leaf : Nat → Leaf} (h : m.IsWrittenBy leaf) {style : Style}
    (hs : LineScalar (Node.quote s.toList) (.scalar s.toList style)) :
    m'.IsWrittenBy (Function.update leaf id (some (s.toList, style))) := by
  refine ⟨fun i n' hn' => ?_, fun i n' hn' hkind => ?_⟩
  all_goals obtain ⟨n, hn, hrel, hn'⟩ := hrevalued.exists_left hn'
  · obtain ⟨hanchor, htag⟩ := h.bare i n hn
    exact ⟨hrel.anchor.trans hanchor, hrel.tag.trans htag⟩
  · by_cases hi : i = id
    · rw [hi, Function.update_self]
      rw [if_pos hi] at hn'
      have hbare : n'.HasNoProperties :=
        ⟨hrel.anchor.trans (h.bare i n hn).anchor, hrel.tag.trans (h.bare i n hn).tag⟩
      have htext : n'.scalarText false = Node.quote s.toList := by
        rw [Node.scalarText, hbare.properties_eq]
        rw [hn']
        rfl
      rw [htext]
      exact hs
    · rw [Function.update_of_ne hi]
      rw [if_neg hi] at hn'
      rw [hn']
      exact h.scalar i n hn (hrel.kind ▸ hkind)

end

/-- A document without a root has no nodes. -/
theorem IsTree.exists_root {m : Manifest} (h : m.IsTree) {root : Root} {id : Nat} {n : Node}
    (hdocuments : m.documents = [root]) (hn : m.node? id = some n) :
    ∃ rid, root.node = some rid ∧ rid ∈ m.roots := by
  cases hroot : root.node with
  | some rid => exact ⟨rid, rfl, by simp [roots, hdocuments, hroot]⟩
  | none =>
    have hroots : m.roots = [] := by simp [roots, hdocuments, hroot]
    have hnodes := h.visits
    rw [hroots] at hnodes
    have hmem : id ∈ List.range m.nodes.size :=
      List.mem_range.2 (Array.getElem?_eq_some_iff.1 hn).1
    generalize List.range m.nodes.size = order at hnodes hmem
    cases hnodes
    cases hmem

/-- A manifest in which a scalar that is no key gets a new value has the value that it had, with the
new value as a string in the place of the old one. -/
theorem value_setValue {text : String} {m : Manifest} {id : Nat} {n : Node} {s : String} {w : Value}
    (h : parse text = .ok m) (hlines : ∀ line ∈ Text.lines text.toList, IsTextLine line)
    (hlined : m.IsLined) (hvalue : m.value 0 = .ok w) (hn : m.node? id = some n)
    (hkey : ∀ v, (id, v) ∉ m.pairs) (hs : IsSpared s.toList) :
    ∃ f, w = m.valueWith f ∧ (m.modify id (·.setValue s)).value 0 =
      .ok (m.valueWith (Function.update f id (.string s))) := by
  obtain ⟨read, hdocuments, -⟩ := exists_document_of_parse h hlines
  have hwritable := isWritable_of_parse h
  have htree := isTree_of_parse h
  obtain ⟨hremarks, hcomments⟩ := hasRemarks_of_parse h hlines
  have hcomment := hcomments { read with isExplicit := false } (by simp [hdocuments])
  obtain ⟨leaf, hleaf⟩ := hlined.exists_leaf
  obtain ⟨style, hstyle, hstring⟩ := Node.exists_lineScalar_quote hs
  rw [String.ofList_toList] at hstring
  -- the tree of the nodes, in which the changed scalar is no key
  obtain ⟨rid, hroot, hrid⟩ := htree.exists_root hdocuments hn
  obtain ⟨root, hnode⟩ := exists_node_of_visits htree.visits rid hrid
  have hkind := hlined.root rid root hrid hnode
  obtain ⟨t, ht, hkeys⟩ := exists_tree hwritable htree hlined
    (fun _ _ => column_pos_of_parse h) hnode false (absurd · Bool.false_ne_true)
  have hid : id ∉ t.keys := fun hmem => by
    obtain ⟨v, hpair⟩ := hkeys id hmem
    exact hkey v hpair
  have htexts := isKeyText_of_hasKeysOf hlined hkeys
  have hrevalued := revalued_modify m id s
  obtain ⟨root', hnode', hrel, -⟩ := hrevalued.exists_right hnode
  have hbefore := (value_of_tree hwritable hremarks hcomment hleaf hdocuments hroot hnode hkind
    ht htexts w).1 hvalue
  have hafter := value_of_tree (isWritable_of_revalued hrevalued hwritable)
    (hasRemarks_of_revalued hrevalued hremarks) hcomment
    (isWrittenBy_of_revalued hrevalued hleaf hstyle) hdocuments hroot hnode' (hrel.kind ▸ hkind)
    (hasTree_of_revalued hrevalued ht) (isKeyText_of_revalued hrevalued hid htexts)
  refine ⟨fun i => (leaf i).value?.getD .null, ?_, (hafter _).2 ?_⟩
  · rw [Tree.eq_value hbefore]
    exact value_eq_valueWith hwritable hdocuments hroot ht _
  · have hleaves : (fun i => (Function.update leaf id (some (s.toList, style)) i).value?) =
        Function.update (fun i => (leaf i).value?) id (some (.string s)) := by
      rw [← hstring]
      exact Function.comp_update Leaf.value? leaf id _
    rw [hleaves, Tree.value?_update hid hbefore]
    exact congrArg some (value_eq_valueWith hwritable hdocuments hroot ht _)

/-- Items below a key at its column, with comments. -/
def listedText : String := "a: b\n# y\nc:\n- d  # x\n- e: f\n"

/-- The first item is written as `'x: 1'` then. -/
theorem value_setValue_item : ∃ m n w f, parse listedText = .ok m ∧ m.node? 5 = some n ∧
    n.value = "d" ∧ m.value 0 = .ok w ∧ w = m.valueWith f ∧
    (m.modify 5 (·.setValue "x: 1")).value 0 =
      .ok (m.valueWith (Function.update f 5 (.string "x: 1"))) := by
  have hcheck : (parse listedText).toOption.map (fun m =>
      (checkLined m, (m.value 0).toOption.isSome, (m.node? 5).map Node.value,
        m.pairs.all (·.1 != 5))) = some (true, true, some "d", true) := by
    unfold listedText
    rw [parse_eq_ite, String.toList_ofList]
    with_unfolding_all decide
  obtain ⟨m, hm, hcheck⟩ := Option.map_eq_some_iff.1 hcheck
  have hm := eq_ok_of_toOption hm
  simp only [Prod.mk.injEq] at hcheck
  obtain ⟨hlined, hw, hitem, hkeys⟩ := hcheck
  obtain ⟨w, hw⟩ := Option.isSome_iff_exists.1 hw
  have hw := eq_ok_of_toOption hw
  obtain ⟨n, hn, hd⟩ := Option.map_eq_some_iff.1 hitem
  have hlines : ∀ line ∈ Text.lines listedText.toList,
      line.all isTextChar = true ∧ startsMarker line = false := by
    unfold listedText
    rw [String.toList_ofList]
    decide
  have hkey : ∀ v, (5, v) ∉ m.pairs := fun v hpair => by
    have hne := List.all_eq_true.1 hkeys _ hpair
    simp at hne
  have hs : IsSpared "x: 1".toList := by decide
  obtain ⟨f, hbefore, hafter⟩ := value_setValue hm
    (fun line hline => ⟨List.all_eq_true.1 (hlines line hline).1, (hlines line hline).2⟩)
    (isLined_of_checkLined hlined) hw hn hkey hs
  exact ⟨m, n, w, f, hm, hn, hd, hw, hbefore, hafter⟩

/-- The quotes are chosen for the whole value, but then the blanks at its end are trimmed. -/
theorem changed_scalar_trimmed : ∃ m w w', parse "a: b\n" = .ok m ∧ m.value 0 = .ok w ∧
    w.same (.mapping [(.string "a", .string "b")]) = true ∧
    (m.modify 2 (·.setValue "x\u00a0")).text = "a: x\n" ∧
    (m.modify 2 (·.setValue "x\u00a0")).value 0 = .ok w' ∧
    w'.same (.mapping [(.string "a", .string "x")]) = true ∧
    w'.same (.mapping [(.string "a", .string "x\u00a0")]) = false := by
  have h : ((parse "a: b\n").toOption.bind fun m => (m.value 0).toOption.bind fun w =>
      ((m.modify 2 (·.setValue "x\u00a0")).value 0).toOption.map fun w' =>
        (w.same (.mapping [(.string "a", .string "b")]),
          (m.modify 2 (·.setValue "x\u00a0")).text,
          w'.same (.mapping [(.string "a", .string "x")]),
          w'.same (.mapping [(.string "a", .string "x\u00a0")]))) =
      some (true, "a: x\n", true, false) := by
    with_unfolding_all decide
  obtain ⟨m, hm, h⟩ := Option.bind_eq_some_iff.1 h
  obtain ⟨w, hw, h⟩ := Option.bind_eq_some_iff.1 h
  obtain ⟨w', hw', h⟩ := Option.map_eq_some_iff.1 h
  simp only [Prod.mk.injEq] at h
  obtain ⟨hbefore, htext, hafter, hkept⟩ := h
  exact ⟨m, w, w', eq_ok_of_toOption hm, eq_ok_of_toOption hw, hbefore, htext,
    eq_ok_of_toOption hw', hafter, hkept⟩

end ManifestMarkers.Manifest
