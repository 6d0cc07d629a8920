import ManifestMarkers.Proofs.ReadingCalls
import ManifestMarkers.Proofs.RetainedNodes
import ManifestMarkers.Proofs.SourceLines

/-!
# The parts of a text that is read

The text that a manifest is read from has the parts of its nodes, and it has them at the columns at
which the writer puts them. So the scanner cannot tell it from the text that is written back.

* `tailText` is the text of the lines that are left. Blank lines and comments have no parts
  (`lineEnd_collect`).
* `spells_key`, `spells_value` and `spells_noValue` are about one line.
* `Task.Spells` says which parts the lines of a task have; `spells_of_reads` proves it by induction
  on the run.
-/

namespace ManifestMarkers.Manifest

open Yaml

/-! ### Lines below each other -/

/-- The text of lines, from the end of the line above on. -/
def tailText (lines : List Line) : List Char := lines.flatMap fun l => '\n' :: l.raw

/-- The text of lines from the indentation of the first one on. -/
def restText : List Line → List Char
  | [] => []
  | l :: lines => l.raw.drop l.indent ++ tailText lines

theorem tailText_cons (l : Line) (lines : List Line) :
    tailText (l :: lines) = '\n' :: (l.raw ++ tailText lines) := rfl

theorem atGap_tailText (lines : List Line) : AtGap (tailText lines) := by
  cases lines with
  | nil => simp [tailText, AtGap]
  | cons l lines => simp [tailText_cons, AtGap]

section

variable {behind : Behind} {limit : Nat} {line : Line} {lines : List Line} {parts more : List Part}

/-- A line below starts with its indentation. -/
theorem lineEnd_line (hline : line.IsWhole)
    (h : Spells False line.indent true behind (restText (line :: lines)) parts) :
    LineEnd False behind (tailText (line :: lines)) parts := by
  rw [tailText_cons, hline.indented, List.append_assoc]
  refine .line (Spells.indent ?_)
  rwa [Nat.zero_add]

/-- Blank lines and comments have no parts. -/
theorem lineEnd_collect {ps : List Pending} (hlines : ∀ l ∈ lines, l.IsWhole)
    (h : LineEnd False behind (tailText (Build.collect ps lines).2) parts) :
    LineEnd False behind (tailText lines) parts := by
  induction lines generalizing ps with
  | nil => exact h
  | cons line lines ih =>
    have hline : line.IsWhole := hlines line List.mem_cons_self
    have hmore : ∀ l ∈ lines, l.IsWhole := fun l hl => hlines l (List.mem_cons_of_mem _ hl)
    -- a line that is all remark
    have hskip (hhead : ∀ c ∈ (line.raw.drop line.indent).head?, c = '#')
        (h : LineEnd False behind (tailText lines) parts) :
        LineEnd False behind (tailText (line :: lines)) parts := by
      refine lineEnd_line hline ?_
      have hremark : IsRemark (line.raw.drop line.indent) :=
        isRemark_of_isTextChar hhead fun c hc => hline.chars c (List.mem_of_mem_drop hc)
      exact h.spells 0 hremark
    obtain ⟨k, hk⟩ := hline.cut
    rw [Build.collect] at h
    split at h
    · next hkind =>
      refine hskip (fun c hc => ?_) (ih hmore h)
      rw [hk, List.head?_append, hline.comment hkind] at hc
      exact (Option.some.inj hc).symm
    · exact h
    · next hno hcontent =>
      have hkind : line.kind = .blank := by
        cases hkind : line.kind with
        | blank => rfl
        | comment => exact absurd hkind hno
        | documentStart => exact absurd hkind hline.noStart
        | documentEnd => exact absurd hkind hline.noEnd
        | content => exact absurd hkind hcontent
      have hend := ih hmore h
      refine lineEnd_line hline ?_
      rw [restText, hk, hline.blank hkind]
      exact hend.spells k isRemark_nil

/-- Behind the lines so far, these parts follow at a column or less deep. -/
def Follows (limit : Nat) (lines : List Line) (parts : List Part) : Prop :=
  ∀ behind : Behind, behind.Admits limit → LineEnd False behind (tailText lines) parts

theorem Follows.mono {c : Nat} (h : Follows c lines parts) (hle : c ≤ limit) :
    Follows limit lines parts := fun behind hbehind => h behind (hbehind.mono hle)

theorem Follows.toContent {b : Build} (hlines : ∀ l ∈ b.lines, l.IsWhole)
    (h : Follows limit b.toContent.lines parts) : Follows limit b.lines parts :=
  fun behind hbehind => lineEnd_collect hlines (h behind hbehind)

/-! ### The pieces of a line -/

theorem atGap_append {rest tail : List Char} (hrest : ∀ c ∈ rest.head?, c = ' ')
    (htail : AtGap tail) (k : Nat) : AtGap (rest ++ List.replicate k ' ' ++ tail) := by
  intro c hc
  cases rest with
  | cons d ds => exact .inl (hrest c hc)
  | nil =>
    cases k with
    | zero => exact htail c hc
    | succ k => exact .inl (Option.some.inj hc).symm

/-- A key, and the rest of its line behind the colon. -/
theorem spells_key {name rest tail : List Char} {token : Token} (hline : line.IsCut)
    (hkey : splitKey? line.text = some (name, rest)) (hname : LineScalar name token)
    (hmarker : line.indent = 0 → startsMarker name = false) (htail : AtGap tail)
    (hbehind : behind.Admits line.indent)
    (h : ∀ column k, line.indent < column → Spells False column false (.mark line.indent)
      (rest ++ List.replicate k ' ' ++ tail) parts) :
    Spells False line.indent true behind (line.raw.drop line.indent ++ tail)
      (.key line.indent token :: parts) := by
  obtain ⟨k, hk⟩ := hline.cut
  obtain ⟨j, hj, hhead⟩ := exists_splitKey? hline.isTextChar_text hkey
  have hgap := atGap_append hhead htail k
  have hrest := h (line.indent + 0 + (name.length + j + 1)) k (by omega)
  have hspells := Spells.key 0 j hname False.elim hmarker hbehind hgap hrest
  rw [hk, hj]
  simpa only [List.replicate_zero, List.nil_append, List.append_assoc, List.cons_append,
    Nat.add_zero] using hspells

/-- A value on the line of its dash or key, or alone on a line. -/
theorem spells_value {mark column : Nat} {inline : Bool} {text tail : List Char}
    (htext : ∀ c ∈ text, isTextChar c = true) (hanchor : (splitValue text).anchor = none)
    (htag : (splitValue text).tag = none) (hraw : ScalarParts (splitValue text).text parts)
    (hmark : mark < column)
    (hmore : ∀ behind : Behind, behind.Admits mark → LineEnd False behind tail more) (k : Nat) :
    Spells False column inline (.mark mark) (text ++ List.replicate k ' ' ++ tail)
      (parts ++ more) := by
  obtain ⟨i, j, remark, heq, hremark, hgap⟩ := exists_splitValue htext hanchor htag k
  rw [heq]
  simpa only [List.append_assoc] using
    spells_scalar (i := i) (j := j) hraw (fun _ => by omega) hgap hremark hmore

/-- The rest of a line on which there is no value. -/
theorem spells_noValue {column : Nat} {inline : Bool} {text tail : List Char}
    (htext : ∀ c ∈ text, isTextChar c = true) (hanchor : (splitValue text).anchor = none)
    (htag : (splitValue text).tag = none) (hempty : (splitValue text).text = [])
    (h : LineEnd False behind tail parts) (k : Nat) :
    Spells False column inline behind (text ++ List.replicate k ' ' ++ tail) parts := by
  obtain ⟨i, j, remark, heq, hremark, -⟩ := exists_splitValue htext hanchor htag k
  rw [heq, hempty, List.nil_append, replicate_append]
  simpa only [List.append_assoc] using h.spells (i + j) hremark

end

/-! ### What tasks read -/

/-- All lines are whole, but the first one may be cut off behind a dash. -/
structure CutLines (lines : List Line) : Prop where
  head : ∀ l ∈ lines.head?, l.IsCut
  tail : ∀ l ∈ lines.tail, l.IsWhole

/-- The lines that a task starts with. -/
def Task.HasLines (b : Build) : Task → Prop
  | .node indent => b.IsAt indent (fun _ => True) ∧ CutLines b.lines
  | .pairs _ indent none =>
    b.IsAt indent (fun text => (splitKey? text).isSome = true) ∧ CutLines b.lines
  | .items _ indent none => b.IsAt indent (fun text => isItem text = true) ∧ CutLines b.lines
  | _ => ∀ l ∈ b.lines, l.IsWhole

/-- The lines from here on have these parts: on this line if nothing of the collection has been read
yet, and else on the lines below. -/
def Reaches (indent : Nat) (last : Option Nat) (lines : List Line) (parts : List Part) : Prop :=
  match last with
  | none => ∀ behind : Behind, behind.Admits indent →
    Spells False indent true behind (restText lines) parts
  | some _ => Follows indent lines parts

/-- The lines of a task have the parts of what it reads, if the lines that it leaves have the parts
that follow. -/
def Task.Spells (m : Manifest) (b : Build) (id : Nat) (b' : Build) : Task → Prop
  | .node indent => ∀ limit parts more, limit ≤ indent → Laid m (.node id) parts →
    Follows limit b'.lines more → ∀ behind : Behind, behind.Admits indent →
    (∀ line ∈ b.lines.head?, isItem line.text = false → splitKey? line.text = none →
      behind = .mark limit ∧ limit < indent) →
    Yaml.Spells False indent true behind (restText b.lines) (parts ++ more)
  | .pairs mapping indent last => ∀ limit n ids parts more, limit ≤ indent →
    b.nodes[mapping]? = some n → m.contentOf mapping = n.content ++ ids →
    Laid m (.pairs indent ids) parts → Follows limit b'.lines more →
    Reaches indent last b.lines (parts ++ more)
  | .items sequence indent last => ∀ limit n ids parts more, limit ≤ indent →
    b.nodes[sequence]? = some n → m.contentOf sequence = n.content ++ ids →
    Laid m (.items indent ids) parts → Follows limit b'.lines more →
    Reaches indent last b.lines (parts ++ more)
  | .nested indent _ _ _ => ∀ parts more, Laid m (.node id) parts →
    Follows indent b'.lines more →
    LineEnd False (.mark indent) (tailText b.lines) (parts ++ more)

section

variable {m : Manifest} {b b' c : Build} {line : Line} {lines rest : List Line} {n : Node}
  {indent limit lo id : Nat} {last : Option Nat} {parts more : List Part}

/-- Where the next pair or item of a collection is. -/
structure StartsAt (b : Build) (last : Option Nat) : Prop where
  here : last = none → b.toContent = b ∧ CutLines b.lines
  below : last ≠ none → ∀ l ∈ b.lines, l.IsWhole

theorem startsAt_pairs {mapping : Nat} (h : (Task.pairs mapping indent last).HasLines b) :
    StartsAt b last := by
  cases last with
  | none => exact ⟨fun _ => ⟨h.1.toContent_eq, h.2⟩, fun hne => absurd rfl hne⟩
  | some key => exact ⟨nofun, fun _ => h⟩

theorem startsAt_items {sequence : Nat} (h : (Task.items sequence indent last).HasLines b) :
    StartsAt b last := by
  cases last with
  | none => exact ⟨fun _ => ⟨h.1.toContent_eq, h.2⟩, fun hne => absurd rfl hne⟩
  | some item => exact ⟨nofun, fun _ => h⟩

namespace StartsAt

variable (h : StartsAt b last) (hlines : b.toContent.lines = line :: lines)

include h hlines

theorem cut : line.IsCut ∧ ∀ l ∈ lines, l.IsWhole := by
  cases last with
  | none =>
    obtain ⟨heq, hcut⟩ := h.here rfl
    rw [← heq, hlines] at hcut
    exact ⟨hcut.head line rfl, hcut.tail⟩
  | some id =>
    have hwhole : ∀ l ∈ line :: lines, l.IsWhole := by
      rw [← hlines]
      exact fun l hl => h.below nofun l (b.toContent_suffix.subset hl)
    exact ⟨(hwhole line List.mem_cons_self).toIsCut,
      fun l hl => hwhole l (List.mem_cons_of_mem _ hl)⟩

/-- A pair or an item on the next line of content. -/
theorem reaches (hspells : ∀ behind : Behind, behind.Admits line.indent →
      Spells False line.indent true behind (restText (line :: lines)) parts) :
    Reaches line.indent last b.lines parts := by
  cases last with
  | none =>
    rw [← (h.here rfl).1, hlines]
    exact hspells
  | some id =>
    refine Follows.toContent (h.below nofun) ?_
    have hline : line.IsWhole := by
      refine h.below nofun line (b.toContent_suffix.subset ?_)
      rw [hlines]
      exact List.mem_cons_self
    rw [hlines]
    exact fun behind hbehind => lineEnd_line hline (hspells behind hbehind)

end StartsAt

/-- The text of a scalar that has not been changed. -/
theorem scalarText_eq_raw {raw : String} (hraw : n.raw = some raw) (hbare : n.HasNoProperties) :
    n.scalarText false = raw.toList := by
  unfold Node.scalarText
  rw [hraw, hbare.properties_eq false]
  rfl

/-- A scalar on one line, when it has been read. -/
theorem scalar_of_laid {v : InlineValue} {parent column : Nat}
    (h : scalarNode v line parent column lines = .ok (n, rest))
    (hnode : ∃ n', m.node? id = some n' ∧ n.Becomes n') (hlaid : Laid m (.node id) parts) :
    v.anchor = none ∧ v.tag = none ∧ ScalarParts v.text parts ∧ rest = lines := by
  obtain ⟨n', hn', hbecomes⟩ := hnode
  obtain ⟨f, hf, hbare, hparts⟩ := hlaid.exists_node
  obtain rfl : f = n' := Option.some.inj (hf.symm.trans hn')
  obtain ⟨value, raw, closing, hn, -⟩ := exists_of_scalarNode h
  have hkind : n.kind = .scalar := by rw [hn]
  have hraw : n.raw = some (String.ofList raw) := by rw [hn]
  have hanchor : n.anchor = v.anchor.map String.ofList := by rw [hn]
  have htag : n.tag = v.tag.map String.ofList := by rw [hn]
  have hnone := hbecomes.bare hbare
  have hparts := hparts (hbecomes.kind.trans hkind)
  rw [scalarText_eq_raw (hbecomes.raw.trans hraw) hbare] at hparts
  obtain ⟨htext, hrest⟩ := scalarNode_eq h hraw hparts
  rw [htext] at hparts
  refine ⟨?_, ?_, hparts, hrest⟩
  · simpa [hanchor] using hnone.anchor
  · simpa [htag] using hnone.tag

theorem becomes_withHead (b : Build) (n : Node) : n.Becomes (b.withHead n) :=
  ⟨rfl, rfl, rfl, List.prefix_refl _, fun hbare => ⟨hbare.anchor, hbare.tag⟩⟩

theorem getElem?_push_size (b : Build) (n : Node) : (b.push n).2.nodes[b.nodes.size]? = some n :=
  Array.getElem?_push_size

/-- A key, when it has been read. -/
theorem key_of_laid {nodes : Array Node} {v : Nat} {ids : List Nat} {text value : List Char}
    (hfinal : Final m lo nodes)
    (hretains : Retains (b.addKey line indent text value).nodes nodes)
    (hlaid : Laid m (.pairs indent (b.nodes.size :: v :: ids)) parts) :
    ∃ token first following, parts = .key indent token :: (first ++ following) ∧
      LineScalar text token ∧ (indent = 0 → startsMarker text = false) ∧
      Laid m (.node v) first ∧ Laid m (.pairs indent ids) following := by
  have hkey : (b.addKey line indent text value).nodes[b.nodes.size]? =
      some (b.withHead (plainKey line indent text value)) := Array.getElem?_push_size
  obtain ⟨key', hkey', hbecomes⟩ := hfinal.exists_node hretains hkey
  cases hlaid with
  | @pair _ _ _ _ key token first following hnode hbare hname _ hmarker _ hvalue hmore =>
    obtain rfl : key = key' := Option.some.inj (hnode.symm.trans hkey')
    have htext : key.scalarText false = text := by
      rw [scalarText_eq_raw hbecomes.raw hbare, String.toList_ofList]
    rw [htext] at hname hmarker
    exact ⟨token, first, following, rfl, hname, hmarker, hvalue, hmore⟩

/-- The lines behind a key have the parts of its value and of the pairs that follow. -/
theorem reaches_pair {keyText text : List Char} {token : Token}
    (hstarts : StartsAt b last) (hlines : b.toContent.lines = line :: lines)
    (hkey : splitKey? line.text = some (keyText, text)) (hname : LineScalar keyText token)
    (hmarker : line.indent = 0 → startsMarker keyText = false)
    (h : (∀ c ∈ text, isTextChar c = true) → ∀ column k, line.indent < column →
      Spells False column false (.mark line.indent)
        (text ++ List.replicate k ' ' ++ tailText lines) parts) :
    Reaches line.indent last b.lines (.key line.indent token :: parts) := by
  have hcut := (hstarts.cut hlines).1
  have htext : ∀ c ∈ text, isTextChar c = true := by
    obtain ⟨j, hj, -⟩ := exists_splitKey? hcut.isTextChar_text hkey
    refine fun c hc => hcut.isTextChar_text c ?_
    rw [hj]
    simp [hc]
  exact hstarts.reaches hlines fun behind hbehind =>
    spells_key hcut hkey hname hmarker (atGap_tailText lines) hbehind (h htext)

theorem spells_inlinePair {mapping : Nat} {keyText keyValue text : List Char} {lines' : List Line}
    (hfinal : Final m lo b'.nodes) (hstarts : StartsAt b last)
    (hlines : b.toContent.lines = line :: lines) (hindent : line.indent = indent)
    (hkey : splitKey? line.text = some (keyText, text))
    (hn : scalarNode (splitValue text) line indent (valueColumn line text) lines =
      .ok (n, lines'))
    (hretains : Retains (((b.toContent.addKey line indent keyText keyValue).addScalar n
      lines').addContent mapping [b.nodes.size, b.nodes.size + 1]).nodes b'.nodes)
    (hread : (∀ l ∈ lines', l.IsWhole) → (Task.pairs mapping indent (some b.nodes.size)).Spells m
      (((b.toContent.addKey line indent keyText keyValue).addScalar n lines').addContent mapping
        [b.nodes.size, b.nodes.size + 1]) mapping b') :
    (Task.pairs mapping indent last).Spells m b mapping b' := by
  subst hindent
  intro limit first ids parts more hlimit hfirst hids hlaid hmore
  have hkeyed : Reserves none none b.nodes
      (b.toContent.addKey line line.indent keyText keyValue).nodes :=
    (Reserves.refl none none b.nodes).push _
  obtain ⟨n', ids', hn', rfl, hids'⟩ := exists_content hfinal hfirst (hkeyed.push n) hretains hids
  have hscalar : Retains ((b.toContent.addKey line line.indent keyText keyValue).addScalar n
      lines').nodes b'.nodes := ((Retains.refl _).addContent _).trans hretains
  have hkept := ((Retains.refl (b.toContent.addKey line line.indent keyText keyValue).nodes).push
    n).trans hscalar
  obtain ⟨token, value, following, rfl, hname, hmarker, hvalue, hpairs⟩ :=
    key_of_laid hfinal hkept hlaid
  have hnode : ((b.toContent.addKey line line.indent keyText keyValue).addScalar n
      lines').nodes[b.nodes.size + 1]? = some n := by
    have hsize : b.nodes.size + 1 =
      (b.toContent.addKey line line.indent keyText keyValue).nodes.size := by simp
    rw [hsize]
    exact Array.getElem?_push_size
  obtain ⟨hanchor, htag, hraw, rfl⟩ :=
    scalar_of_laid hn (hfinal.exists_node hscalar hnode) hvalue
  have hbelow := hread (hstarts.cut hlines).2 limit n' ids' following more hlimit hn' hids' hpairs
    hmore
  rw [List.cons_append, List.append_assoc]
  exact reaches_pair hstarts hlines hkey hname hmarker fun htext column k hcolumn =>
    spells_value htext hanchor htag hraw hcolumn hbelow k

/-- A value without properties has got none from the line of its dash or key. -/
theorem bare_of_setProperties {nodes : Array Node} {v : InlineValue} (hid : id < c.nodes.size)
    (hfinal : Final m lo nodes) (hretains : Retains (c.setProperties id v).nodes nodes)
    (hlaid : Laid m (.node id) parts) : v.anchor = none ∧ v.tag = none := by
  have hset : (c.setProperties id v).nodes[id]? = some
      { c.nodes[id] with
        anchor := (v.anchor.map String.ofList).or c.nodes[id].anchor
        tag := (v.tag.map String.ofList).or c.nodes[id].tag } := by
    rw [Build.setProperties, Build.modify, Array.getElem?_modify, if_pos rfl,
      Array.getElem?_eq_getElem hid]
    rfl
  obtain ⟨n', hn', hbecomes⟩ := hfinal.exists_node hretains hset
  obtain ⟨f, hf, hbare, -⟩ := hlaid.exists_node
  obtain rfl : f = n' := Option.some.inj (hf.symm.trans hn')
  have hnone := hbecomes.bare hbare
  refine ⟨?_, ?_⟩
  · simpa using (Option.or_eq_none_iff.1 hnone.anchor).1
  · simpa using (Option.or_eq_none_iff.1 hnone.tag).1

theorem spells_nestedPair {mapping value : Nat} {keyText keyValue text : List Char} {s t : Tally}
    (hfinal : Final m mapping b'.nodes) (hmapping : mapping < b.nodes.size)
    (hstarts : StartsAt b last) (hlines : b.toContent.lines = line :: lines)
    (hindent : line.indent = indent) (hkey : splitKey? line.text = some (keyText, text))
    (hempty : (splitValue text).text = [])
    (hvalue : Reads (.nested indent true line.number (columnBehindKey line keyText))
      ((b.toContent.addKey line indent keyText keyValue).setTrail b.nodes.size line
        (splitValue text)) s value c)
    (h : Reads (.pairs mapping indent (some b.nodes.size))
      ((c.setProperties value (splitValue text)).addContent mapping [b.nodes.size, value]) t
      mapping b')
    (hspells : (∀ l ∈ lines, l.IsWhole) → Final m (b.nodes.size + 1) c.nodes →
      (Task.nested indent true line.number (columnBehindKey line keyText)).Spells m
        ((b.toContent.addKey line indent keyText keyValue).setTrail b.nodes.size line
          (splitValue text)) value c)
    (hread : (∀ l ∈ c.lines, l.IsWhole) → (Task.pairs mapping indent (some b.nodes.size)).Spells m
      ((c.setProperties value (splitValue text)).addContent mapping [b.nodes.size, value]) mapping
      b') :
    (Task.pairs mapping indent last).Spells m b mapping b' := by
  subst hindent
  intro limit first ids parts more hlimit hfirst hids hlaid hmore
  have htrailed : Reserves none none b.nodes ((b.toContent.addKey line line.indent keyText
      keyValue).setTrail b.nodes.size line (splitValue text)).nodes :=
    Reserves.setTrail ((Reserves.refl none none b.nodes).push _) _ _
  have hc := htrailed.trans (reserves_of_reads hvalue).1 nofun nofun
  obtain ⟨n', ids', hn', rfl, hids'⟩ :=
    exists_content hfinal hfirst (hc.setProperties _) (retains_of_reads h) hids
  -- what has become of the key and of the value
  have hset : Retains (c.setProperties value (splitValue text)).nodes b'.nodes :=
    ((Retains.refl _).addContent _).trans (retains_of_reads h)
  have hkept : Retains c.nodes b'.nodes := ((Retains.refl c.nodes).setProperties _).trans hset
  have hkeyed := ((((Retains.refl (b.toContent.addKey line line.indent keyText
    keyValue).nodes).setTrail _ _).trans (retains_of_reads hvalue))).trans hkept
  obtain ⟨token, inner, following, rfl, hname, hmarker, hnode, hpairs⟩ :=
    key_of_laid hfinal hkeyed hlaid
  obtain ⟨hanchor, htag⟩ :=
    bare_of_setProperties ((spares_of_reads hvalue).2 trivial).2 hfinal hset hnode
  have hfinalValue : Final m (b.nodes.size + 1) c.nodes := by
    have hreserves : Reserves (some mapping) (some b.nodes.size) c.nodes b'.nodes :=
      (((Reserves.refl _ _ c.nodes).setProperties _).addContent rfl _).trans
        (reserves_of_reads h).1 (fun _ hi _ => hi.symm) (fun _ hi _ => hi.symm)
    refine (hfinal.mono (by omega)).before hkept hreserves ?_
    rintro i ⟨⟩
    omega
  -- the lines below
  have hwhole := (hstarts.cut hlines).2
  have hlines' : ((b.toContent.addKey line line.indent keyText keyValue).setTrail b.nodes.size line
      (splitValue text)).lines = lines := Call.lines_addKey hlines line.indent keyText keyValue
  have hsuffix := (suffix_of_reads hvalue).1
  rw [hlines'] at hsuffix
  have hbelow := hread (fun l hl => hwhole l (hsuffix.subset hl)) limit n' ids' following more
    hlimit hn' hids' hpairs hmore
  have hinner := hspells hwhole hfinalValue inner (following ++ more) hnode hbelow
  rw [hlines'] at hinner
  rw [List.cons_append, List.append_assoc]
  exact reaches_pair hstarts hlines hkey hname hmarker fun htext column k _ =>
    spells_noValue htext hanchor htag hempty hinner k

/-- The lines behind a dash have the parts of its item and of those that follow. -/
theorem reaches_item (hstarts : StartsAt b last) (hlines : b.toContent.lines = line :: lines)
    (hitem : isItem line.text = true)
    (h : Spells False (dashIndent line line.indent) true (.mark line.indent)
      (line.raw.drop (dashIndent line line.indent) ++ tailText lines) parts) :
    Reaches line.indent last b.lines (.dash line.indent :: parts) := by
  have hcut := (hstarts.cut hlines).1
  obtain ⟨i, hi, hindent, -⟩ := hcut.behindDash hitem
  obtain ⟨k, hk⟩ := hcut.cut
  obtain ⟨behindDash, htext, hhead⟩ := exists_of_isItem hcut.isTextChar_text hitem
  have hgap : AtGap (List.replicate i ' ' ++ line.raw.drop (dashIndent line line.indent) ++
      tailText lines) := by
    rw [hk, htext] at hi
    rw [← (List.cons.inj hi).2]
    exact atGap_append hhead (atGap_tailText lines) k
  have hinner : Spells False (line.indent + 0 + 1) true (.mark (line.indent + 0))
      (List.replicate i ' ' ++ line.raw.drop (dashIndent line line.indent) ++ tailText lines)
      parts := by
    rw [List.append_assoc]
    refine Spells.indent ?_
    rwa [Nat.add_zero, ← hindent]
  refine hstarts.reaches hlines fun behind hbehind => ?_
  have hdash := Spells.dash 0 hbehind hgap hinner
  rw [restText, hi]
  simpa only [List.replicate_zero, List.nil_append, List.append_assoc, List.cons_append,
    Nat.add_zero] using hdash

theorem spells_nestedItem {sequence : Nat} {s t : Tally} (hfinal : Final m sequence b'.nodes)
    (hsequence : sequence < b.nodes.size) (hstarts : StartsAt b last)
    (hlines : b.toContent.lines = line :: lines) (hindent : line.indent = indent)
    (hitem : isItem line.text = true) (hempty : (dashValue line).text = [])
    (hvalue : Reads (.nested indent false line.number (dashIndent line indent + 1))
      b.toContent.dropLine.clearPending s id c)
    (h : Reads (.items sequence indent (some id))
      ((c.setItem b.toContent id line (dashValue line)).addContent sequence [id]) t sequence b')
    (hspells : (∀ l ∈ lines, l.IsWhole) → Final m b.nodes.size c.nodes →
      (Task.nested indent false line.number (dashIndent line indent + 1)).Spells m
        b.toContent.dropLine.clearPending id c)
    (hread : (∀ l ∈ c.lines, l.IsWhole) → (Task.items sequence indent (some id)).Spells m
      ((c.setItem b.toContent id line (dashValue line)).addContent sequence [id]) sequence b') :
    (Task.items sequence indent last).Spells m b sequence b' := by
  subst hindent
  intro limit first ids parts more hlimit hfirst hids hlaid hmore
  have hc : Reserves none none b.nodes c.nodes := (reserves_of_reads hvalue).1
  obtain ⟨n', ids', hn', rfl, hids'⟩ :=
    exists_content hfinal hfirst (hc.setItem _ _ _) (retains_of_reads h) hids
  cases hlaid with
  | @item _ _ _ inner following hcolumn hcompact hnode hitems =>
  -- what has become of the item
  have hset : Retains (c.setItem b.toContent id line (dashValue line)).nodes b'.nodes :=
    ((Retains.refl _).addContent _).trans (retains_of_reads h)
  have hproperties : Retains (c.setProperties id (dashValue line)).nodes b'.nodes :=
    (Retains.setProperties_setItem c _ _ _ _).trans hset
  obtain ⟨hanchor, htag⟩ :=
    bare_of_setProperties ((spares_of_reads hvalue).2 trivial).2 hfinal hproperties hnode
  have hfinalValue : Final m b.nodes.size c.nodes := by
    have hreserves : Reserves (some sequence) (some id) c.nodes b'.nodes :=
      (((Reserves.refl _ _ c.nodes).setItem _ _ _).addContent rfl _).trans
        (reserves_of_reads h).1 (fun _ hi _ => hi.symm) (fun _ hi _ => hi.symm)
    refine (hfinal.mono (by omega)).before
      (((Retains.refl c.nodes).setProperties _).trans hproperties) hreserves ?_
    rintro i ⟨⟩
    omega
  -- the lines below
  have hwhole := (hstarts.cut hlines).2
  have hlines' : b.toContent.dropLine.clearPending.lines = lines := Call.lines_dropLine hlines
  have hsuffix := (suffix_of_reads hvalue).1
  rw [hlines'] at hsuffix
  have hbelow := hread (fun l hl => hwhole l (hsuffix.subset hl)) limit n' ids' following more
    hlimit hn' hids' hitems hmore
  have hinner := hspells hwhole hfinalValue inner (following ++ more) hnode hbelow
  rw [hlines'] at hinner
  rw [List.cons_append, List.append_assoc]
  refine reaches_item hstarts hlines hitem ?_
  obtain ⟨-, -, -, -, hcut⟩ := (hstarts.cut hlines).1.behindDash hitem
  obtain ⟨k, hk⟩ := hcut.cut
  replace hk : line.raw.drop (dashIndent line line.indent) =
    Text.trimStart (line.text.drop 1) ++ List.replicate k ' ' := hk
  rw [hk]
  exact spells_noValue hcut.isTextChar_text hanchor htag hempty hinner k

theorem spells_compactItem {sequence : Nat} {s t : Tally} (hfinal : Final m sequence b'.nodes)
    (hsequence : sequence < b.nodes.size) (hstarts : StartsAt b last)
    (hlines : b.toContent.lines = line :: lines) (hindent : line.indent = indent)
    (hitem : isItem line.text = true)
    (hvalue : Reads (.node (dashIndent line indent))
      (b.toContent.behindDash line lines (dashIndent line indent)) s id c)
    (h : Reads (.items sequence indent (some id)) (c.addContent sequence [id]) t sequence b')
    (hspells : (Task.node (dashIndent line indent)).HasLines
        (b.toContent.behindDash line lines (dashIndent line indent)) →
      Final m b.nodes.size c.nodes → (Task.node (dashIndent line indent)).Spells m
        (b.toContent.behindDash line lines (dashIndent line indent)) id c)
    (hread : (∀ l ∈ c.lines, l.IsWhole) → (Task.items sequence indent (some id)).Spells m
      (c.addContent sequence [id]) sequence b') :
    (Task.items sequence indent last).Spells m b sequence b' := by
  subst hindent
  intro limit first ids parts more hlimit hfirst hids hlaid hmore
  have hc : Reserves none none b.nodes c.nodes := (reserves_of_reads hvalue).1
  obtain ⟨n', ids', hn', rfl, hids'⟩ :=
    exists_content hfinal hfirst hc (retains_of_reads h) hids
  cases hlaid with
  | @item _ _ _ inner following hcolumn hcompact hnode hitems =>
  have hfinalValue : Final m b.nodes.size c.nodes := by
    have hreserves : Reserves (some sequence) (some id) c.nodes b'.nodes :=
      ((Reserves.refl _ _ c.nodes).addContent rfl _).trans
        (reserves_of_reads h).1 (fun _ hi _ => hi.symm) (fun _ hi _ => hi.symm)
    refine (hfinal.mono (by omega)).before
      (((Retains.refl c.nodes).addContent _).trans (retains_of_reads h)) hreserves ?_
    rintro i ⟨⟩
    omega
  -- the line behind the dash is read as a line of its own
  obtain ⟨hwholeLine, hwhole⟩ := hstarts.cut hlines
  obtain ⟨i, -, hdash, -, hcut⟩ := hwholeLine.behindDash hitem
  have hkind : line.kind = .content := Build.kind_of_collect (Prod.ext rfl hlines)
  have hat : (Task.node (dashIndent line line.indent)).HasLines
      (b.toContent.behindDash line lines (dashIndent line line.indent)) := by
    refine ⟨⟨_, lines, rfl, hkind, rfl, trivial⟩, ?_, hwhole⟩
    rintro l ⟨⟩
    exact hcut
  have hsuffix : c.lines <:+ lines := (suffix_of_reads hvalue).2 hat.1
  have hbelow := hread (fun l hl => hwhole l (hsuffix.subset hl)) limit n' ids' following more
    hlimit hn' hids' hitems hmore
  have hinner := hspells hat hfinalValue line.indent inner (following ++ more) (by omega) hnode
    hbelow (.mark line.indent) trivial fun _ _ _ _ => ⟨rfl, by omega⟩
  rw [List.cons_append, List.append_assoc]
  exact reaches_item hstarts hlines hitem hinner

/-- Behind the last pair or item, nothing of the collection is left. -/
theorem reaches_end (hstarts : StartsAt b last) (hlast : last ≠ none) (hlimit : limit ≤ indent)
    (hmore : Follows limit b.toContent.lines more) : Reaches indent last b.lines more := by
  cases last with
  | none => exact absurd rfl hlast
  | some id => exact (hmore.mono hlimit).toContent (hstarts.below nofun)

/-- Nothing is added to the content of a collection that has been read. -/
theorem eq_nil_of_final {ids : List Nat} (hfinal : Final m id b'.nodes) (hn : b.nodes[id]? = some n)
    (hreserves : Reserves none last b.nodes b'.nodes) (hids : m.contentOf id = n.content ++ ids) :
    ids = [] := by
  obtain ⟨n', hn', -, hkept, -⟩ := hreserves.kept id n hn
  obtain ⟨f, hf, -, hsame⟩ := hfinal id n' hn'
  rw [contentOf, hf] at hids
  simpa [hsame (Nat.le_refl id), hkept (Option.some_ne_none id)] using hids

/-- What has become of a collection when it has been read. -/
theorem exists_collection {kind : NodeKind} (hfinal : Final m lo b'.nodes)
    (hretains : Retains (b.push (emptyCollection kind line indent)).2.nodes b'.nodes) :
    ∃ n, m.node? b.nodes.size = some n ∧ n.kind = kind ∧ n.indent = indent ∧
      m.contentOf b.nodes.size = (emptyCollection kind line indent).content ++ n.content := by
  obtain ⟨n, hn, hbecomes⟩ := hfinal.exists_node hretains (getElem?_push_size b _)
  refine ⟨n, hn, hbecomes.kind, ?_, ?_⟩
  · rw [Node.indent, hbecomes.column]
    rfl
  · rw [contentOf, hn]
    rfl

end

/-- A task that gives a new node adds to no other. -/
theorem lt_of_mem_none {size : Nat} : ∀ i ∈ (none : Option Nat), i < size := by simp

/-- The lines that a task reads have the parts of what it gives. -/
theorem spells_of_reads {m : Manifest} {task : Task} {b b' : Build} {t : Tally} {id : Nat}
    (h : Reads task b t id b') (hlines : task.HasLines b)
    (hgrows : ∀ i ∈ task.grows, i < b.nodes.size)
    (hfinal : Final m (task.grows.getD b.nodes.size) b'.nodes) : task.Spells m b id b' := by
  induction h with
  | @sequence indent line lines b b' t hb hitem h ih =>
    intro limit parts more hlimit hlaid hmore behind hbehind _
    obtain ⟨n, hn, hkind, hindent, hids⟩ := exists_collection hfinal (retains_of_reads h)
    cases hlaid with
    | scalar hn' hkind' => simp_all
    | mapping hn' hkind' => simp_all
    | sequence hn' hkind' hbare hitems =>
      obtain rfl := Option.some.inj (hn.symm.trans hn')
      rw [hindent] at hitems
      have hat := Build.IsAt.of_push (n := emptyCollection .sequence line indent) hlines.1 hb
        (isItem · = true) hitem
      exact ih ⟨hat, hlines.2⟩ (by simp [Task.grows]) hfinal limit _ n.content parts more hlimit
        (getElem?_push_size b _) hids hitems hmore behind hbehind
  | @mapping indent line lines b b' t hb hkey h ih =>
    intro limit parts more hlimit hlaid hmore behind hbehind _
    obtain ⟨n, hn, hkind, hindent, hids⟩ := exists_collection hfinal (retains_of_reads h)
    cases hlaid with
    | scalar hn' hkind' => simp_all
    | sequence hn' hkind' => simp_all
    | mapping hn' hkind' hbare hpairs =>
      obtain rfl := Option.some.inj (hn.symm.trans hn')
      rw [hindent] at hpairs
      have hat := Build.IsAt.of_push (n := emptyCollection .mapping line indent) hlines.1 hb
        (fun text => (splitKey? text).isSome = true) hkey
      exact ih ⟨hat, hlines.2⟩ (by simp [Task.grows]) hfinal limit _ n.content parts more hlimit
        (getElem?_push_size b _) hids hpairs hmore behind hbehind
  | @scalarLine indent line lines rest n b hb hitem hkey hn =>
    intro limit parts more hlimit hlaid hmore behind hbehind hscalar
    obtain ⟨rfl, hlt⟩ := hscalar line (by rw [hb]; rfl) hitem hkey
    obtain ⟨n', hn', hbecomes⟩ := hfinal.exists_node (Retains.refl _)
      (getElem?_push_size { b with lines := rest, pending := [] } (b.withHead n))
    obtain ⟨hanchor, htag, hraw, rfl⟩ :=
      scalar_of_laid hn ⟨n', hn', (becomes_withHead b n).trans hbecomes⟩ hlaid
    obtain ⟨⟨l, ls, hl, -, hindent, -⟩, hcut⟩ := hlines
    rw [hb] at hl hcut
    cases hl
    have hline := hcut.head line rfl
    obtain ⟨k, hk⟩ := hline.cut
    rw [hb, restText, hk]
    exact spells_value hline.isTextChar_text hanchor htag hraw hlt hmore k
  | @pairsEnd mapping indent last b hend =>
    intro limit n ids parts more hlimit hn hids hlaid hmore
    obtain rfl := eq_nil_of_final hfinal hn
      ((Reserves.refl none last b.toContent.nodes).withFoot indent) hids
    cases hlaid
    rw [Build.lines_withFoot] at hmore
    refine reaches_end (startsAt_pairs hlines) ?_ hlimit hmore
    rintro rfl
    exact not_end_of_isAt hlines.1 (by simpa using hend)
  | @inlinePair mapping indent last line lines lines' keyText keyValue rest n b b' t hb hindent
      hkey hn h ih =>
    refine spells_inlinePair hfinal (startsAt_pairs hlines) hb hindent hkey hn (retains_of_reads h)
      fun hwhole => ih hwhole ?_ hfinal
    rintro i ⟨⟩
    have hsize := hgrows mapping rfl
    simp
    omega
  | @nestedPair mapping indent value last line lines keyText keyValue rest b c b' s t hb hindent
      hkey hempty hvalue h ihvalue ih =>
    have hsize : mapping < b.nodes.size := hgrows mapping rfl
    refine spells_nestedPair hfinal hsize (startsAt_pairs hlines) hb hindent hkey hempty hvalue h
      (fun hwhole hfinalValue => ihvalue ?_ lt_of_mem_none ?_) fun hwhole => ih hwhole ?_ hfinal
    · show ∀ l ∈ (b.toContent.addKey line indent keyText keyValue).lines, l.IsWhole
      rwa [Call.lines_addKey hb]
    · simpa [Task.grows] using hfinalValue
    · rintro i ⟨⟩
      have hle := (spares_of_reads hvalue).1.size_le
      simp only [Build.size_setTrail, Build.size_addKey, Build.size_toContent] at hle
      simp only [Build.size_addContent, Build.size_setProperties]
      omega
  | @itemsEnd sequence indent last b hend =>
    intro limit n ids parts more hlimit hn hids hlaid hmore
    obtain rfl := eq_nil_of_final hfinal hn
      ((Reserves.refl none last b.toContent.nodes).withFoot indent) hids
    cases hlaid
    rw [Build.lines_withFoot] at hmore
    refine reaches_end (startsAt_items hlines) ?_ hlimit hmore
    rintro rfl
    exact not_end_of_isAt hlines.1 (by simpa using hend)
  | @nestedItem sequence indent id last line lines b c b' s t hb hindent hitem hempty hvalue h
      ihvalue ih =>
    have hsize : sequence < b.nodes.size := hgrows sequence rfl
    refine spells_nestedItem hfinal hsize (startsAt_items hlines) hb hindent hitem hempty hvalue h
      (fun hwhole hfinalValue => ihvalue ?_ lt_of_mem_none hfinalValue) fun hwhole =>
        ih hwhole ?_ hfinal
    · show ∀ l ∈ b.toContent.dropLine.clearPending.lines, l.IsWhole
      rwa [Call.lines_dropLine hb]
    · rintro i ⟨⟩
      have hle : b.nodes.size ≤ c.nodes.size := (spares_of_reads hvalue).1.size_le
      simp only [Build.size_addContent, Build.size_setItem]
      omega
  | @compactItem sequence indent id last line lines b c b' s t hb hindent hitem hvalue h ihvalue
      ih =>
    have hsize : sequence < b.nodes.size := hgrows sequence rfl
    refine spells_compactItem hfinal hsize (startsAt_items hlines) hb hindent hitem hvalue h
      (fun hat hfinalValue => ihvalue hat lt_of_mem_none hfinalValue) fun hwhole =>
        ih hwhole ?_ hfinal
    rintro i ⟨⟩
    have hle : b.nodes.size ≤ c.nodes.size := (spares_of_reads hvalue).1.size_le
    simp only [Build.size_addContent]
    omega
  | @deeper indent number column id allowSequence line lines b b' t hb hindent h ih =>
    intro parts more hlaid hmore
    have hwhole : ∀ l ∈ line :: lines, l.IsWhole := by
      rw [← hb]
      exact fun l hl => hlines l (b.toContent_suffix.subset hl)
    have hcontent (h : LineEnd False (.mark indent) (tailText b.toContent.lines) (parts ++ more)) :
        LineEnd False (.mark indent) (tailText b.lines) (parts ++ more) :=
      lineEnd_collect hlines h
    refine hcontent ?_
    rw [hb]
    refine lineEnd_line (hwhole line List.mem_cons_self) ?_
    rw [← hb]
    refine ih ⟨Build.isAt_toContent hb, ?_⟩ lt_of_mem_none hfinal indent parts more (by omega) hlaid
      hmore (.mark indent) trivial fun l hl hno _ => ⟨rfl, ?_⟩
    · rw [hb]
      refine ⟨?_, fun l hl => hwhole l (List.mem_cons_of_mem _ hl)⟩
      rintro l ⟨⟩
      exact (hwhole line List.mem_cons_self).toIsCut
    · rw [hb] at hl
      cases hl
      rcases hindent with hlt | ⟨-, -, hitem⟩
      · exact hlt
      · rw [hno] at hitem
        cases hitem
  | @missing indent number column allowSequence b hnone =>
    intro parts more hlaid hmore
    obtain ⟨n', hn', hbecomes⟩ := hfinal.exists_node (Retains.refl _)
      (getElem?_push_size b.toContent (missingNode number column))
    obtain ⟨f, hf, hbare, hparts⟩ := hlaid.exists_node
    obtain rfl : f = n' := Option.some.inj (hf.symm.trans hn')
    have hempty := hparts hbecomes.kind
    rw [scalarText_eq_raw hbecomes.raw hbare] at hempty
    cases hempty with
    | empty => exact lineEnd_collect hlines (hmore (.mark indent) trivial)
    | line hline =>
      obtain ⟨c, cs, hcs, -⟩ := hline.exists_cons
      cases hcs

end ManifestMarkers.Manifest
