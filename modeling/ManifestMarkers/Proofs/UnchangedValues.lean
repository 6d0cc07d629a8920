import ManifestMarkers.Proofs.SourceComments
import ManifestMarkers.Proofs.SourceParts
import ManifestMarkers.Proofs.StreamDocuments

/-!
# Values of manifests that are written back

A manifest that has not been changed is written with its own indentations and comments, and it is
decoded from that text. If its scalars and keys stand on one line each, the value is that of the
text that it was read from.

* `IsLined` says which scalars, keys and items these are, and `checkLined` is a test for it.
* `exists_laid`: the nodes of such a manifest have parts.
* `spells_of_parse`: the text that it is read from has the same parts.
* `value_eq_decode?`: so the values are the same.
-/

namespace ManifestMarkers.Manifest

open Yaml

/-- A manifest without properties whose scalars and keys stand on one line each. -/
structure IsLined (m : Manifest) : Prop where
  bare : ∀ id n, m.node? id = some n → n.HasNoProperties
  /-- A scalar is empty, plain or quoted. -/
  scalar : ∀ id n, m.node? id = some n → n.kind = .scalar →
    n.scalarText false = [] ∨ ∃ token, LineScalar (n.scalarText false) token
  /-- A key is not empty and not too long. -/
  key : ∀ k v n, (k, v) ∈ m.pairs → m.node? k = some n → n.scalarText false ≠ [] ∧
    Text.byteSize (n.scalarText false) ≤ Scan.maxKeyLength ∧
    startsMarker (n.scalarText false) = false
  /-- A mapping that is written behind its dash has a blank in front. -/
  item : ∀ id n i item, m.node? id = some n → n.kind = .sequence → i ∈ n.content →
    m.node? i = some item → isCompact item = true → n.indent + 2 ≤ item.indent
  root : ∀ id n, id ∈ m.roots → m.node? id = some n → n.kind ≠ .scalar

/-! ### A test -/

/-- Whether a quote ends here, with no other quotes or escapes before. -/
def closesLine (quote : Char) : List Char → Bool
  | [] => false
  | [c] => c == quote
  | c :: cs => isLineChar c && c != quote && c != '\\' && closesLine quote cs

/-- A plain scalar, or one in quotes without quotes and escapes in it. -/
def checkScalar (cs : List Char) : Bool :=
  isPlainLine cs || match cs with
    | '"' :: rest => closesLine '"' rest
    | '\'' :: rest => closesLine '\'' rest
    | _ => false

/-- A test for `IsLined`. -/
def checkLined (m : Manifest) : Bool :=
  (m.nodes.toList.all fun n => n.anchor.isNone && n.tag.isNone &&
    (n.kind != .scalar || (n.scalarText false).isEmpty || checkScalar (n.scalarText false)) &&
    (n.kind != .sequence || n.content.all fun i => (m.node? i).all fun item =>
      !isCompact item || decide (n.indent + 2 ≤ item.indent))) &&
  (m.pairs.all fun (k, _) => (m.node? k).all fun n => !(n.scalarText false).isEmpty &&
    decide (Text.byteSize (n.scalarText false) ≤ Scan.maxKeyLength) &&
    !startsMarker (n.scalarText false)) &&
  m.roots.all fun id => (m.node? id).all fun n => n.kind != .scalar

theorem exists_quotedLine_of_closesLine (single : Bool) {cs : List Char}
    (h : closesLine (closingQuote single) cs = true) :
    ∃ inner text, cs = inner ++ [closingQuote single] ∧ QuotedLine single inner text := by
  induction cs with
  | nil => cases h
  | cons c cs ih =>
    cases cs with
    | nil =>
      have hc : c = closingQuote single := beq_iff_eq.1 h
      exact ⟨[], [], by rw [hc]; rfl, .nil⟩
    | cons d ds =>
      have h : (isLineChar c && c != closingQuote single && c != '\\' &&
          closesLine (closingQuote single) (d :: ds)) = true := h
      simp only [Bool.and_eq_true, bne_iff_ne] at h
      obtain ⟨⟨⟨hline, hquote⟩, hslash⟩, hmore⟩ := h
      obtain ⟨inner, text, hinner, hquoted⟩ := ih hmore
      refine ⟨c :: inner, c :: text, by rw [hinner]; rfl, ?_⟩
      have hunit : QuotedUnit single [c] c := .plain hline hquote (.inr hslash)
      exact .cons hunit hquoted

theorem exists_lineScalar_of_checkScalar {cs : List Char} (h : checkScalar cs = true) :
    ∃ token, LineScalar cs token := by
  unfold checkScalar at h
  rw [Bool.or_eq_true] at h
  rcases h with hplain | hquoted
  · exact ⟨_, .plain hplain⟩
  · split at hquoted
    · obtain ⟨inner, text, rfl, hline⟩ := exists_quotedLine_of_closesLine false hquoted
      exact ⟨_, .quoted hline⟩
    · obtain ⟨inner, text, rfl, hline⟩ := exists_quotedLine_of_closesLine true hquoted
      exact ⟨_, .quoted hline⟩
    · cases hquoted

theorem isLined_of_checkLined {m : Manifest} (h : m.checkLined = true) : m.IsLined := by
  simp only [checkLined, Bool.and_eq_true, List.all_eq_true, Option.all_eq_true] at h
  obtain ⟨⟨hnodes, hpairs⟩, hroots⟩ := h
  have hnode {id : Nat} {n : Node} (hn : m.node? id = some n) : n ∈ m.nodes.toList :=
    Array.mem_toList_iff.2 (Array.mem_of_getElem? hn)
  refine ⟨fun id n hn => ?_, fun id n hn hkind => ?_, fun k v n hkv hn => ?_,
    fun id n i item hn hkind hi hitem hcompact => ?_, fun id n hid hn => ?_⟩
  · obtain ⟨⟨⟨hanchor, htag⟩, -⟩, -⟩ := hnodes n (hnode hn)
    exact ⟨Option.isNone_iff_eq_none.1 hanchor, Option.isNone_iff_eq_none.1 htag⟩
  · obtain ⟨⟨-, hscalar⟩, -⟩ := hnodes n (hnode hn)
    rw [hkind] at hscalar
    simp only [bne_self_eq_false, Bool.false_or, Bool.or_eq_true, List.isEmpty_iff] at hscalar
    exact hscalar.imp_right exists_lineScalar_of_checkScalar
  · have hkey := hpairs (k, v) hkv n hn
    simp only [Bool.not_eq_true', List.isEmpty_eq_false_iff, decide_eq_true_eq] at hkey
    exact ⟨hkey.1.1, hkey.1.2, hkey.2⟩
  · obtain ⟨-, hsequence⟩ := hnodes n (hnode hn)
    rw [hkind] at hsequence
    simp only [bne_self_eq_false, Bool.false_or, List.all_eq_true, Option.all_eq_true] at hsequence
    simpa [hcompact] using hsequence i hi item hitem
  · simpa using hroots id hid n hn

/-! ### Parts of the nodes -/

section

variable {m : Manifest}

theorem exists_laid_pairs (column : Nat) {ids : List Nat} (heven : Even ids.length)
    (hpairs : ∀ k v, (k, v) ∈ pairsOf ids →
      (∃ key token, m.node? k = some key ∧ key.HasNoProperties ∧
        LineScalar (key.scalarText false) token ∧
        Text.byteSize (key.scalarText false) ≤ Scan.maxKeyLength ∧
        startsMarker (key.scalarText false) = false) ∧
      (∀ n, m.node? v = some n → n.kind ≠ .scalar → column ≤ n.indent) ∧
      ∃ parts, Laid m (.node v) parts) : ∃ parts, Laid m (.pairs column ids) parts := by
  fun_induction pairsOf ids with
  | case1 k v rest ih =>
    obtain ⟨⟨key, token, hkey, hbare, hname, hlength, hmarker⟩, hcolumn, parts, hvalue⟩ :=
      hpairs k v List.mem_cons_self
    have hrest : Even rest.length := by
      have hlength : (k :: v :: rest).length = rest.length + 2 := rfl
      simpa [hlength, Nat.even_add_one] using heven
    obtain ⟨more, hmore⟩ := ih hrest fun k' v' h => hpairs k' v' (List.mem_cons_of_mem _ h)
    exact ⟨_, .pair hkey hbare hname hlength (fun _ => hmarker) hcolumn hvalue hmore⟩
  | case2 ids hne =>
    cases ids with
    | nil => exact ⟨[], .noPairs⟩
    | cons k ids =>
      cases ids with
      | nil => simp at heven
      | cons v rest => exact absurd rfl (hne k v rest)

theorem exists_laid_items (column : Nat) {ids : List Nat}
    (hitems : ∀ i ∈ ids, (∀ n, m.node? i = some n → n.kind ≠ .scalar → column ≤ n.indent) ∧
      (∀ n, m.node? i = some n → isCompact n = true → column + 2 ≤ n.indent) ∧
      ∃ parts, Laid m (.node i) parts) : ∃ parts, Laid m (.items column ids) parts := by
  induction ids with
  | nil => exact ⟨[], .noItems⟩
  | cons i ids ih =>
    obtain ⟨⟨hcolumn, hcompact, parts, hitem⟩, hitems⟩ := List.forall_mem_cons.1 hitems
    obtain ⟨more, hmore⟩ := ih hitems
    exact ⟨_, .item hcolumn hcompact hitem hmore⟩

/-- The nodes of a manifest with one-line scalars have parts. -/
theorem exists_laid (hwritable : m.IsWritable) (htree : m.IsTree) (h : m.IsLined) {id : Nat}
    {n : Node} (hn : m.node? id = some n) : ∃ parts, Laid m (.node id) parts := by
  induction hsize : m.nodes.size - id using Nat.strong_induction_on generalizing id n with
  | _ size ih =>
  have hlt : id < m.nodes.size := (Array.getElem?_eq_some_iff.1 hn).1
  -- what is in the content of a node comes behind it
  have hbelow {i : Nat} {child : Node} (hi : i ∈ n.content) (hchild : m.node? i = some child) :
      ∃ parts, Laid m (.node i) parts := by
    have hrising := hwritable.rising id n hn i hi
    exact ih (m.nodes.size - i) (by omega) hchild rfl
  cases hkind : n.kind with
  | scalar =>
    rcases h.scalar id n hn hkind with hempty | ⟨token, hline⟩
    · exact ⟨[], .scalar hn hkind (h.bare id n hn) (hempty ▸ .empty)⟩
    · exact ⟨_, .scalar hn hkind (h.bare id n hn) (.line hline)⟩
  | mapping =>
    obtain ⟨-, heven, hpairs⟩ := htree.mapping id n hn hkind
    obtain ⟨parts, hparts⟩ := exists_laid_pairs (m := m) n.indent heven fun k v hkv => by
      obtain ⟨⟨key, hkey, hof⟩, value, hvalue, hunder⟩ := hpairs k v hkv
      have hpair : (k, v) ∈ m.pairs := mem_pairs_iff.2 ⟨id, n, hn, hkind, hkv⟩
      obtain ⟨hne, hlength, hmarker⟩ := h.key k v key hpair hkey
      obtain ⟨token, hname⟩ := (h.scalar k key hkey hof.1).resolve_left hne
      refine ⟨⟨key, token, hkey, h.bare k key hkey, hname, hlength, hmarker⟩,
        fun n' hn' hkind' => ?_, hbelow (mem_of_mem_pairsOf hkv).2 hvalue⟩
      obtain rfl : value = n' := Option.some.inj (hvalue.symm.trans hn')
      have hcolumn : n.column ≤ value.column := by
        rcases hunder with hscalar | hless | hsame
        · exact absurd hscalar hkind'
        · exact Nat.le_of_lt hless
        · exact Nat.le_of_eq hsame.2.symm
      exact Nat.sub_le_sub_right hcolumn 1
    exact ⟨parts, .mapping hn hkind (h.bare id n hn) hparts⟩
  | sequence =>
    obtain ⟨-, hitems⟩ := htree.sequence id n hn hkind
    obtain ⟨parts, hparts⟩ := exists_laid_items (m := m) n.indent fun i hi => by
      obtain ⟨item, hitem, hunder⟩ := hitems i hi
      refine ⟨fun n' hn' hkind' => ?_, fun n' hn' => h.item id n i n' hn hkind hi hn',
        hbelow hi hitem⟩
      obtain rfl : item = n' := Option.some.inj (hitem.symm.trans hn')
      have hcolumn : n.column ≤ item.column := by
        rcases hunder with hscalar | hless
        · exact absurd hscalar hkind'
        · exact Nat.le_of_lt hless
      exact Nat.sub_le_sub_right hcolumn 1
    exact ⟨parts, .sequence hn hkind (h.bare id n hn) hparts⟩

theorem exists_node_of_visits {ids order : List Nat} (h : Visits m ids order) :
    ∀ id ∈ ids, ∃ n, m.node? id = some n := by
  induction h with
  | nil => nofun
  | cons hn hbelow hrest _ ih => exact List.forall_mem_cons.2 ⟨⟨_, hn⟩, ih⟩

theorem exists_laidRoot (hwritable : m.IsWritable) (htree : m.IsTree) (h : m.IsLined) {root : Root}
    (hroot : root ∈ m.documents) : ∃ parts, LaidRoot m root parts := by
  cases hid : root.node with
  | none => exact ⟨[], .empty hid⟩
  | some id =>
    have hmem : id ∈ m.roots := List.mem_filterMap.2 ⟨root, hroot, hid⟩
    obtain ⟨n, hn⟩ := exists_node_of_visits htree.visits id hmem
    obtain ⟨parts, hparts⟩ := exists_laid hwritable htree h hn
    exact ⟨parts, .node hid hn (h.root id n hmem hn) hparts⟩

/-! ### The text of a document -/

theorem flatMap_lines (cs : List Char) :
    (Text.lines cs).flatMap (fun part => '\n' :: part) = '\n' :: cs := by
  have hjoin {parts : List (List Char)} (hne : parts ≠ []) :
      parts.flatMap (fun part => '\n' :: part) = '\n' :: Text.joinWith ['\n'] parts := by
    induction parts with
    | nil => exact absurd rfl hne
    | cons part parts ih =>
      cases parts with
      | nil => simp [Text.joinWith]
      | cons next parts =>
        rw [List.flatMap_cons, ih (by simp), Text.joinWith]
        simp
  rw [Text.lines, hjoin (Text.splitOn_ne_nil '\n' cs), Text.joinWith_splitOn]

theorem tailText_numberLines {number : Nat} {parts : List (List Char)}
    (h : ∀ part ∈ parts, '\r' ∉ part) :
    tailText (numberLines number parts) = parts.flatMap fun part => '\n' :: part := by
  induction parts generalizing number with
  | nil => rfl
  | cons part parts ih =>
    obtain ⟨hpart, hmore⟩ := List.forall_mem_cons.1 h
    rw [numberLines, tailText_cons, ih hmore, List.flatMap_cons]
    show '\n' :: (dropCarriageReturn part ++ _) = _
    rw [Canonical.dropCarriageReturn_of_notMem hpart]
    rfl

/-- A line that is neither an item nor a pair is a scalar. -/
theorem kind_of_reads_scalar {indent id : Nat} {b b' : Build} {t : Tally} {line : Line}
    {lines : List Line} {n : Node} {lo : Nat} (h : Reads (.node indent) b t id b')
    (hfinal : Final m lo b'.nodes) (hlines : b.lines = line :: lines)
    (hitem : isItem line.text = false) (hkey : splitKey? line.text = none)
    (hn : m.node? id = some n) : n.kind = .scalar := by
  cases h with
  | sequence hlines' hitem' =>
    obtain ⟨rfl, -⟩ := List.cons.inj (hlines'.symm.trans hlines)
    rw [hitem] at hitem'
    cases hitem'
  | mapping hlines' hkey' =>
    obtain ⟨rfl, -⟩ := List.cons.inj (hlines'.symm.trans hlines)
    rw [hkey] at hkey'
    cases hkey'
  | @scalarLine _ _ _ rest scalar _ hlines' _ _ hscalar =>
    obtain ⟨n', hn', hbecomes⟩ := hfinal.exists_node (Retains.refl _)
      (getElem?_push_size { b with lines := rest, pending := [] } (b.withHead scalar))
    obtain rfl : n = n' := Option.some.inj (hn.symm.trans hn')
    have hkind : scalar.kind = .scalar := congrArg Form.kind (form_of_scalarNode hscalar)
    exact hbecomes.kind.trans hkind

/-- The text that a document is read from has its parts. -/
theorem lineEnd_of_readsDocument {lines : List Line} {t : Tally} {root : Root} {nodes : Array Node}
    {parts : List Part} (h : ReadsDocument #[] lines t root nodes) (hfinal : Final m 0 nodes)
    (hlines : ∀ l ∈ lines, l.IsWhole) (hlaid : LaidRoot m root parts) :
    LineEnd False .nothing (tailText lines) parts := by
  have hstart {parts : List Part}
      (h : LineEnd False .nothing (tailText (Build.start #[] lines).lines) parts) :
      LineEnd False .nothing (tailText lines) parts := lineEnd_collect hlines h
  cases h with
  | empty hempty =>
    cases hlaid with
    | empty =>
      refine hstart ?_
      rw [hempty]
      exact .last
    | node hnode => cases hnode
  | @node line rest b t id hfirst h hend =>
    cases hlaid with
    | empty hnode => cases hnode
    | @node _ n _ hnode hn hkind hlaid =>
      cases hnode
      have hsuffix : line :: rest <:+ lines := by
        rw [← hfirst]
        exact Build.toContent_suffix { lines }
      have hwhole : ∀ l ∈ line :: rest, l.IsWhole := fun l hl => hlines l (hsuffix.subset hl)
      have hline := hwhole line List.mem_cons_self
      have hat : (Task.node line.indent).HasLines (Build.start #[] lines) := by
        refine ⟨Build.isAt_toContent (b := { lines }) hfirst, ?_⟩
        rw [hfirst]
        refine ⟨?_, fun l hl => hwhole l (List.mem_cons_of_mem _ hl)⟩
        rintro l ⟨⟩
        exact hline.toIsCut
      -- only blank lines and comments are left behind the node
      have hleft : Follows 0 b.lines [] := by
        have hwholeLeft : ∀ l ∈ b.lines, l.IsWhole := by
          have hread := (suffix_of_reads h).1
          rw [hfirst] at hread
          exact fun l hl => hwhole l (hread.subset hl)
        refine Follows.toContent hwholeLeft fun behind _ => ?_
        rw [hend]
        exact .last
      have hspells := spells_of_reads h hat lt_of_mem_none hfinal 0 parts [] (Nat.zero_le _) hlaid
        hleft .nothing trivial fun l hl hitem hkey => by
          rw [hfirst] at hl
          cases hl
          exact absurd (kind_of_reads_scalar h hfinal hfirst hitem hkey hn) hkind
      refine hstart ?_
      rw [List.append_nil, hfirst] at hspells
      rw [hfirst]
      exact lineEnd_line hline hspells

theorem spells_of_parse {text : String} {root : Root} {parts : List Part}
    (h : parse text = .ok m) (hlines : ∀ line ∈ Text.lines text.toList, IsTextLine line)
    (hroot : m.documents = [root]) (hlaid : LaidRoot m root parts) :
    Spells False 0 true .nothing text.toList parts := by
  obtain ⟨read, hdocuments, hread⟩ := exists_document_of_parse h hlines
  obtain rfl : root = { read with isExplicit := false } :=
    (List.cons.inj (hroot.symm.trans hdocuments)).1
  have hread' : LaidRoot m read parts := by
    cases hlaid with
    | empty hnode => exact .empty hnode
    | node hnode hn hkind hlaid => exact .node hnode hn hkind hlaid
  have hend := lineEnd_of_readsDocument (readsDocument_of_readDocument hread) (final_nodes m)
    (isWhole_numberLines hlines) hread'
  have hreturn : ∀ line ∈ Text.lines text.toList, '\r' ∉ line := fun line hline hmem => by
    have hchar := (hlines line hline).chars '\r' hmem
    revert hchar
    decide
  rw [tailText_numberLines hreturn, flatMap_lines] at hend
  cases hend with
  | line hspells => exact hspells

/-- A manifest that has not been changed has the value of the text that it is read from, if its
scalars and keys stand on one line each. -/
theorem value_eq_decode? {text : String} (h : parse text = .ok m)
    (hlines : ∀ line ∈ Text.lines text.toList, IsTextLine line) (hlined : m.IsLined) :
    ∃ v, m.value 0 = .ok v ∧ decode? text.toList = some v := by
  obtain ⟨read, hdocuments, hread⟩ := exists_document_of_parse h hlines
  have hmem : { read with isExplicit := false } ∈ m.documents := by simp [hdocuments]
  have hwritable := isWritable_of_parse h
  obtain ⟨parts, hlaid⟩ := exists_laidRoot hwritable (isTree_of_parse h) hlined hmem
  obtain ⟨hremarks, hcomments⟩ := hasRemarks_of_parse h hlines
  have hsource := spells_of_parse h hlines hdocuments hlaid
  have hwritten := spells_documentText hwritable hremarks (hcomments _ hmem) hlaid
  obtain ⟨values, hvalues⟩ : ∃ values, decodeAll? text.toList = some values := by
    unfold parse at h
    split at h
    · cases h
    · next values hvalues => exact ⟨values, hvalues⟩
  obtain ⟨v, hv, hv'⟩ := exists_decode?_of_spells hsource hwritten hvalues
  refine ⟨v, ?_, hv⟩
  simp only [value, hdocuments, List.getElem?_cons_zero, hv']

end

/-- Collections at several depths, one at the indentation of its key, with wide and missing blanks,
comments and a value that is missing. -/
def unevenText : String :=
  "# top\na:  # x\n   - b: 1\n     c : 'd: #'\n   -\n     - e f\n\ng:\n# y\n- h # z\nk:\n"

theorem value_eq_decode?_uneven : ∃ m, parse unevenText = .ok m ∧
    ∃ v, m.value 0 = .ok v ∧ decode? unevenText.toList = some v := by
  have hcheck : (parse unevenText).toOption.map checkLined = some true := by
    unfold unevenText
    rw [parse_eq_ite, String.toList_ofList]
    with_unfolding_all decide
  obtain ⟨m, hm, hlined⟩ := Option.map_eq_some_iff.1 hcheck
  have hm := eq_ok_of_toOption hm
  have hlines : ∀ line ∈ Text.lines unevenText.toList,
      line.all isTextChar = true ∧ startsMarker line = false := by
    unfold unevenText
    rw [String.toList_ofList]
    decide
  exact ⟨m, hm, value_eq_decode? hm
    (fun line hline => ⟨List.all_eq_true.1 (hlines line hline).1, (hlines line hline).2⟩)
    (isLined_of_checkLined hlined)⟩

end ManifestMarkers.Manifest
