import ManifestMarkers.Proofs.ManifestComments
import ManifestMarkers.Proofs.ManifestRoundTrip

/-!
# Flow sequences as values

A flow collection is kept as the text it has. Its line is split from the comment behind it before
anything looks at its brackets and quotes, so ` #` in a string is taken for the start of a comment.

* `splitHash_eq_nil_iff`: a text without tabs has no comment exactly if it has no ` #`.
* `infix_flowText_iff`: ` #` is in a flow sequence of strings exactly if it is in one of them.
* `exists_parse_flow`: a flow sequence without ` #` is kept, and what is below it is read.
* `forall_of_holdsFlow`: with a ` #` the value keeps a comment, so it is not the whole sequence.
* `parse_flow_iff`: the value is kept exactly if no string has ` #` in it.
-/

namespace ManifestMarkers.Manifest.Canonical

open Build

/-! ### Strings in a flow sequence -/

/-- A control character. -/
def isControl (c : Char) : Bool := c.toNat < 32 || 127 ≤ c.toNat && c.toNat < 160

/-- A string that stands in double quotes as it is. -/
structure Quotable where
  text : List Char
  isFree : ∀ c ∈ text, c ≠ '"' ∧ isControl c = false

/-- A string in double quotes. -/
def Quotable.quoted (s : Quotable) : List Char := '"' :: (s.text ++ ['"'])

/-- Strings in double quotes, with commas between them. -/
def stringsText (ss : List Quotable) : List Char :=
  Text.joinWith [',', ' '] (ss.map Quotable.quoted)

/-- A flow sequence of strings on one line. -/
def flowText (ss : List Quotable) : List Char := '[' :: (stringsText ss ++ [']'])

theorem Quotable.notMem_quote (s : Quotable) : '"' ∉ s.text := fun h => (s.isFree _ h).1 rfl

theorem notMem_flowText {d : Char} (hd : isControl d = true) (ss : List Quotable) :
    d ∉ flowText ss := by
  have hmarks : ∀ c ∈ ['[', ']', '"', ',', ' '], d ≠ c := by
    have hfree : ∀ c ∈ ['[', ']', '"', ',', ' '], isControl c = false := by simp [isControl]
    exact fun c hc => ne_of_test hd (hfree c hc)
  have hstrings : d ∉ stringsText ss := by
    rw [stringsText, Text.mem_joinWith (by simp [hmarks])]
    rintro ⟨part, hpart, hmem⟩
    obtain ⟨s, -, rfl⟩ := List.mem_map.1 hpart
    have htext : d ∉ s.text := fun h => by simp [(s.isFree d h).2] at hd
    simp [Quotable.quoted, hmarks, htext] at hmem
  simp [flowText, hmarks, hstrings]

/-! ### Where a comment starts -/

/-- Behind a character, a text without tabs has no comment exactly if it has no ` #`. -/
theorem splitHash_eq_nil_iff {cs : List Char} (b : Char) (h : '\t' ∉ b :: cs) :
    (splitHash (some b) cs).2 = [] ↔ ¬ [' ', '#'] <:+: b :: cs := by
  induction cs generalizing b with
  | nil => simp [splitHash, List.infix_cons_iff]
  | cons c cs ih =>
    have hb : b ≠ '\t' := fun e => h (by simp [e])
    have ih := ih c fun hmem => h (by simp [hmem])
    rw [List.infix_cons_iff, not_or, ← ih]
    by_cases hhash : c = '#' ∧ b = ' '
    · simp [splitHash, hhash]
    · have hpass : ¬ (c = '#' ∧ (b = ' ' ∨ b = '\t')) := by simpa [hb] using hhash
      have hpair : ¬ [' ', '#'] <+: b :: c :: cs := by
        simpa [eq_comm, and_comm] using hhash
      simp [splitHash, hpass, hpair]

/-- Two characters stand next to each other in one of two texts, or where the texts meet. -/
theorem infix_pair_append {x y : Char} {a b : List Char} :
    [x, y] <:+: a ++ b ↔ [x, y] <:+: a ∨ [x, y] <:+: b ∨ a.getLast? = some x ∧ b.head? = some y := by
  induction a with
  | nil => simp
  | cons c a ih =>
    rw [List.cons_append, List.infix_cons_iff, ih, List.infix_cons_iff]
    cases a with
    | nil =>
      cases b with
      | nil => simp
      | cons d b => simp [eq_comm (a := c), eq_comm (a := d), or_comm]
    | cons d a => simp [List.getLast?_cons]; tauto

theorem infix_quoted_iff (s : Quotable) : [' ', '#'] <:+: s.quoted ↔ [' ', '#'] <:+: s.text := by
  have hsplit : s.quoted = ['"'] ++ (s.text ++ ['"']) := rfl
  rw [hsplit, infix_pair_append, infix_pair_append]
  simp [List.infix_cons_iff]

/-- The marks between strings make no ` #`. -/
theorem infix_flowText_iff (ss : List Quotable) :
    [' ', '#'] <:+: flowText ss ↔ ∃ s ∈ ss, [' ', '#'] <:+: s.text := by
  have hstrings : [' ', '#'] <:+: stringsText ss ↔ ∃ s ∈ ss, [' ', '#'] <:+: s.text := by
    unfold stringsText
    induction ss with
    | nil => simp [Text.joinWith]
    | cons s ss ih =>
      cases ss with
      | nil => simp [Text.joinWith, infix_quoted_iff]
      | cons t ss =>
        have hhead : (Text.joinWith [',', ' '] ((t :: ss).map Quotable.quoted)).head? = some '"' := by
          simp [Text.joinWith_cons_eq_flatMap, Quotable.quoted]
        rw [List.map_cons, List.map_cons, Text.joinWith, ← List.map_cons, infix_pair_append,
          infix_pair_append, ih, infix_quoted_iff, hhead]
        simp [List.infix_cons_iff]
  have hsplit : flowText ss = ['['] ++ (stringsText ss ++ [']']) := rfl
  rw [hsplit, infix_pair_append, infix_pair_append, hstrings]
  simp [List.infix_cons_iff]

/-- The line is split at the first ` #`, whatever the brackets and quotes are. -/
theorem splitValue_flow (ss : List Quotable) :
    splitValue (' ' :: flowText ss) =
      { text := if (splitHash none (flowText ss)).2 = [] then flowText ss
          else Text.trimEnd (splitHash none (flowText ss)).1
        comment := (splitHash none (flowText ss)).2 } := by
  have hfirst : Text.isBlank '[' = false := rfl
  have hlast : Text.isBlank ']' = false := rfl
  have htrim : Text.trim (flowText ss) = flowText ss :=
    trim_eq (by simp [flowText, hfirst]) (by simp [flowText, hlast, List.getLast?_cons])
  have hproperties : takeProperties 2 {} (flowText ss) = ({}, flowText ss) := by
    simp [flowText, takeProperties]
  have hstart : startsQuoted (flowText ss) = false := by simp [flowText, startsQuoted]
  have htag : splitTag (flowText ss) = ([], flowText ss) := by simp [splitTag, flowText, hfirst]
  have hquoted : splitQuoted? (flowText ss) = none := by simp [splitQuoted?, flowText]
  -- the comment ends with the bracket, so no blank is at its end
  have hcomment : Text.trimEnd (splitHash none (flowText ss)).2 = (splitHash none (flowText ss)).2 := by
    refine Text.trimEnd_eq fun c hc => ?_
    have hne : (splitHash none (flowText ss)).2 ≠ [] := by
      rintro h
      simp [h] at hc
    obtain ⟨lead, hlead⟩ := suffix_splitHash none (flowText ss)
    have hend : (flowText ss).getLast? = some ']' := by simp [flowText, List.getLast?_cons]
    rw [← hlead, List.getLast?_append_of_ne_nil _ hne, Option.mem_def.1 hc] at hend
    cases hend
    exact hlast
  rw [splitValue_blank]
  unfold splitValue splitComment
  simp only [htrim, hproperties, hstart, htag, hquoted, Option.getD_none, List.nil_append,
    List.getLast?_nil, Bool.false_and, Bool.false_eq_true, if_false, hcomment]
  split <;> simp_all

theorem comment_flow_iff (ss : List Quotable) :
    (splitValue (' ' :: flowText ss)).comment = [] ↔ ∀ s ∈ ss, ¬ [' ', '#'] <:+: s.text := by
  have htab : '\t' ∉ flowText ss := notMem_flowText (by decide) ss
  have hpair : ¬ [' ', '#'] <:+: flowText ss ↔ ∀ s ∈ ss, ¬ [' ', '#'] <:+: s.text := by
    simp [infix_flowText_iff]
  rw [splitValue_flow, ← hpair]
  exact splitHash_eq_nil_iff '[' htab

/-! ### Where the value ends -/

theorem flowDepthFrom_text {text : List Char} (h : '"' ∉ text) (depth : Int) (rest : List Char) :
    flowDepthFrom (some '"') depth (text ++ '"' :: rest) = flowDepthFrom none depth rest := by
  induction text with
  | nil => simp [flowDepthFrom]
  | cons c text ih =>
    have hc : c ≠ '"' := fun e => h (by simp [e])
    simp [flowDepthFrom, hc, ih fun hmem => h (by simp [hmem])]

theorem flowDepthFrom_quoted (s : Quotable) (depth : Int) (rest : List Char) :
    flowDepthFrom none depth (s.quoted ++ rest) = flowDepthFrom none depth rest := by
  have htext := flowDepthFrom_text s.notMem_quote depth rest
  simpa [Quotable.quoted, flowDepthFrom] using htext

/-- Brackets in strings do not count. -/
theorem flowDepth_flowText (ss : List Quotable) : flowDepth (flowText ss) = 0 := by
  have hstrings : flowDepthFrom none 1 (stringsText ss ++ [']']) = 0 := by
    unfold stringsText
    induction ss with
    | nil => rfl
    | cons s ss ih =>
      cases ss with
      | nil => simp [Text.joinWith, flowDepthFrom_quoted, flowDepthFrom]
      | cons t ss =>
        rw [List.map_cons, List.map_cons, Text.joinWith, ← List.map_cons, List.append_assoc,
          List.append_assoc, flowDepthFrom_quoted]
        simpa [flowDepthFrom] using ih
  simpa [flowDepth, flowText, flowDepthFrom] using hstrings

/-- A flow scalar that keeps a text, without comments. -/
structure IsFlowOf (n : Node) (text : List Char) : Prop extends IsScalarOf n [] text none where
  style : n.style = .flow
  value : n.value = String.ofList text

theorem flowScalar_closed (number : Nat) (text : List Char) (lines : List Line) :
    flowScalar number 0 text lines = .ok (text, lines) := by
  cases lines with
  | nil => rfl
  | cons line lines => simp [flowScalar]

/-- The lines behind a flow sequence do not continue it. -/
theorem exists_readValue_flow {ss : List Quotable} (h : ∀ s ∈ ss, ¬ [' ', '#'] <:+: s.text)
    (fuel indent : Nat) (line : Line) (key : Nat) (keyText : List Char) (b : Build) :
    ∃ n, IsFlowOf n (flowText ss) ∧
      readValue (fuel + 1) indent line key keyText (' ' :: flowText ss) b =
        .ok (b.nodes.size, (b.push n).2) := by
  have hcomment := (comment_flow_iff ss).2 h
  have hvalue : splitValue (' ' :: flowText ss) = { text := flowText ss } := by
    rw [splitValue_flow] at hcomment ⊢
    simp [show (splitHash none (flowText ss)).2 = [] from hcomment]
  have hstyle : styleOf (flowText ss) = .flow := rfl
  have hne : (flowText ss).isEmpty = false := rfl
  unfold readValue scalarNode
  simp only [hvalue, hne, hstyle, flowDepth_flowText, flowScalar_closed, Bool.false_eq_true,
    if_false]
  exact ⟨_, ⟨⟨⟨rfl, rfl, rfl, rfl, rfl⟩, rfl, rfl⟩, rfl, rfl⟩, rfl⟩

/-! ### The document -/

/-- A store that starts with a mapping, whose first value is a flow sequence and whose other pairs
are the members of a layout. -/
structure HoldsFlow {any : Bool} (nodes : Array Node) (key : Key) (ss : List Quotable)
    (more : Members .mapping any) : Prop where
  root : ∃ n ids, nodes[0]? = some n ∧ IsBlock n .mapping 0 ∧ n.content = 1 :: 2 :: ids ∧
    Holds nodes 1 0 more ids
  key : ∃ n, nodes[1]? = some n ∧ IsScalarOf n [] key.text none ∧ n.value = String.ofList key.text
  value : ∃ n, nodes[2]? = some n ∧ IsFlowOf n (flowText ss)

/-- The row of a key with a flow sequence. -/
def flowRow (key : Key) (ss : List Quotable) : Row := ⟨0, key.text ++ ':' :: ' ' :: flowText ss⟩

/-- The rows of a manifest with a flow sequence as its first value. -/
def flowRows {any : Bool} (key : Key) (ss : List Quotable) (more : Members .mapping any) :
    List Row :=
  flowRow key ss :: more.rows 0

section

variable {any : Bool} {key : Key} {ss : List Quotable} {more : Members .mapping any}

theorem exists_flowRow (key : Key) (ss : List Quotable) :
    ∃ c cs, (flowRow key ss).text = c :: cs ∧ c.isAlphanum = true := by
  obtain ⟨c, cs, hcs, hc, -⟩ := exists_of_isWord (isWord_of_isKey key.isKey)
  exact ⟨c, _, by rw [flowRow, hcs]; rfl, hc⟩

theorem isRowText_flowRow (key : Key) (ss : List Quotable) : IsRowText (flowRow key ss).text := by
  obtain ⟨c, cs, hcs, hc⟩ := exists_flowRow key ss
  have hkey : '\n' ∉ key.text := notMem_word (isWord_of_isKey key.isKey) (by decide)
  have hflow : '\n' ∉ flowText ss := notMem_flowText (by decide) ss
  have hlast : Text.isBlank ']' = false := rfl
  refine ⟨.inr (.inl ⟨c, by simp [hcs], hc⟩), by simp [flowRow, hkey, hflow], ?_⟩
  simp [flowRow, flowText, List.getLast?_append, List.getLast?_cons, hlast]

theorem kind_flowRow (key : Key) (ss : List Quotable) : (flowRow key ss).kind = .content := by
  obtain ⟨c, cs, hcs, hc⟩ := exists_flowRow key ss
  rw [Row.kind, if_neg]
  simpa [hcs] using ne_of_test hc (d := '#') (by decide)

theorem isItem_flowRow (key : Key) (ss : List Quotable) : isItem (flowRow key ss).text = false := by
  obtain ⟨c, cs, hcs, hc⟩ := exists_flowRow key ss
  rw [hcs]
  exact isItem_cons hc cs

theorem splitKey?_flowRow (key : Key) (ss : List Quotable) :
    splitKey? (flowRow key ss).text = some (key.text, ' ' :: flowText ss) :=
  splitKey?_key key.isKey (by simp)

theorem isRowText_flowRows : ∀ r ∈ flowRows key ss more, IsRowText r.text := by
  intro r hr
  rcases List.mem_cons.1 hr with rfl | hr
  · exact isRowText_flowRow key ss
  · exact more.isRowText_rows 0 r hr

/-- The further pairs need less fuel than their rows give. -/
theorem cost_le (more : Members .mapping any) (indent : Nat) :
    more.cost indent ≤ 4 * rowsWeight (more.rows indent) + 8 := by
  cases any with
  | false =>
    cases more
    exact Nat.le_add_left _ _
  | true =>
    have hrows := rowsWeight_rows more indent
    rw [Members.cost]
    omega

/-- The first pair is read, and then those behind it. -/
theorem exists_readPairs_flow (h : ∀ s ∈ ss, ¬ [' ', '#'] <:+: s.text) {fuel : Nat} {n : Node}
    (isblock : IsBlock n .mapping 0) (hempty : n.content = []) {line : Line}
    {lines below : List Line} (hline : Shows line (flowRow key ss))
    (hmore : List.Forall₂ Shows lines (more.rows 0)) (hbelow : collect [] below = ([], []))
    (hfuel : more.cost 0 ≤ fuel + 1) :
    ∃ b', readPairs (fuel + 2) 0 0 none { nodes := #[n], lines := line :: (lines ++ below) } =
        .ok (0, b') ∧ b'.pending = [] ∧ b'.lines = [] ∧ HoldsFlow b'.nodes key ss more := by
  let b : Build := { nodes := #[n], lines := line :: (lines ++ below) }
  have hcollect : collect [] (line :: (lines ++ below)) = ([], line :: (lines ++ below)) :=
    collect_content (hline.kind.trans (kind_flowRow key ss))
  have hlines : b.toContent.lines = line :: (lines ++ below) := by simp [b, toContent, hcollect]
  have hpending : b.toContent.pending.map Pending.text = ([] : List Comment).map Comment.text := by
    simp [b, toContent, hcollect]
  have hsplit : splitKey? line.text = some (key.text, ' ' :: flowText ss) := by
    rw [hline.text]
    exact splitKey?_flowRow key ss
  obtain ⟨value, isvalue, hvalue⟩ :=
    exists_readValue_flow h fuel 0 line 1 key.text (withKey b.toContent line 0 key)
  have hadds : Adds b.nodes ((withKey b.toContent line 0 key).push value).2.nodes :=
    (adds_push _ _).trans (adds_push _ _)
  obtain ⟨b', ids, hread, hend, hgrows, hkept, hholds⟩ :=
    (readsMembers more).pair hlines hline.indent hsplit hvalue hadds Nat.zero_lt_one
      (collect_withKey hlines 0 key) hmore (.nothing hbelow) hfuel
  obtain ⟨hpending', hnil⟩ := Prod.mk.inj (hend.symm.trans hbelow)
  have hsize : ((withKey b.toContent line 0 key).push value).2.nodes.size = 3 := by
    simp [size_withKey, b]
  refine ⟨b', hread, hpending', hnil, ⟨_, ids, hgrows.grown, ?_, ?_, hholds⟩,
    ⟨_, hkept 1 (Nat.le_refl _) (by omega), isScalarOf_keyNode hpending line 0 key, rfl⟩,
    _, hkept 2 (Nat.le_succ _) (by omega), isvalue⟩
  · exact ⟨⟨isblock.tag, isblock.anchor, isblock.headComment, isblock.lineComment,
      isblock.footComment⟩, isblock.kind, isblock.column⟩
  · simp [hempty, b]

theorem exists_readDocument_flow (h : ∀ s ∈ ss, ¬ [' ', '#'] <:+: s.text) {lines below : List Line}
    (hlines : List.Forall₂ Shows lines (flowRows key ss more)) (hbelow : collect [] below = ([], [])) :
    ∃ nodes, readDocument #[] (lines ++ below) = .ok ({ node := some 0 }, nodes) ∧
      HoldsFlow nodes key ss more := by
  obtain ⟨line, lines, hline, hmore, rfl⟩ := List.forall₂_cons_right_iff.1 hlines
  have hindent : line.indent = 0 := hline.indent
  have hstart : ({ nodes := #[], lines := line :: lines ++ below : Build }).toContent =
      { nodes := #[], lines := line :: (lines ++ below) } := by
    simp [toContent, collect_content (hline.kind.trans (kind_flowRow key ss))]
  obtain ⟨fuel, hfuel, hcost⟩ : ∃ fuel, 4 * linesWeight (line :: (lines ++ below)) + 4 = fuel + 3 ∧
      more.cost 0 ≤ fuel + 1 := by
    have hle := cost_le more 0
    refine ⟨4 * linesWeight (line :: (lines ++ below)) + 1, by omega, ?_⟩
    rw [linesWeight, linesWeight_append, linesWeight_eq hmore]
    omega
  obtain ⟨b, hread, hpending, hnil, hholds⟩ := exists_readPairs_flow h
    (n := { kind := .mapping, line := line.number, column := 1 })
    ⟨⟨rfl, rfl, rfl, rfl, rfl⟩, rfl, rfl⟩ rfl hline hmore hbelow hcost
  have hnode : readNode (fuel + 3) 0 { nodes := #[], lines := line :: (lines ++ below) } =
      .ok (0, b) := by
    unfold readNode
    simp only [hline.text, isItem_flowRow, splitKey?_flowRow, Option.isSome_some,
      Bool.false_eq_true, if_false, if_true]
    exact hread
  have hend : b.toContent = { nodes := b.nodes } := by simp [toContent, hpending, hnil, collect]
  refine ⟨b.nodes, ?_, hholds⟩
  unfold readDocument
  simp only [hstart, hindent, hfuel, hnode, hend]
  rfl

/-- A manifest with a flow sequence as its first value. -/
def flowManifest (key : Key) (ss : List Quotable) (more : Members .mapping any) : String :=
  String.ofList (rowsText (flowRows key ss more))

/-- The lines of the text: its rows, and the blank line behind the last line feed. -/
theorem exists_documentLines_flow (key : Key) (ss : List Quotable) (more : Members .mapping any) :
    ∃ lines below, documentLines (flowManifest key ss more).toList =
        .ok [(false, lines ++ below)] ∧
      List.Forall₂ Shows lines (flowRows key ss more) ∧ collect [] below = ([], []) := by
  have hrows : List.Forall₂ Shows (numberLines 1 ((flowRows key ss more).map Row.chars))
      (flowRows key ss more) := forall₂_numberLines isRowText_flowRows 1
  have htext : rowsText (flowRows key ss more) = rowsText (flowRows key ss more) ++ [] := by simp
  refine ⟨_, [.of (1 + (flowRows key ss more).length) []], ?_, hrows, rfl⟩
  rw [flowManifest, String.toList_ofList, htext, documentLines,
    lines_rowsText fun r hr => (isRowText_flowRows r hr).isLine,
    numberLines_append, List.length_map]
  have hchunks := chunkLines_append hrows
    (show chunkLines [.of (1 + (flowRows key ss more).length) []] = .ok (_, []) from rfl)
  simp only [Text.lines, Text.splitOn, numberLines]
  rw [hchunks]

theorem exists_parse_flow (h : ∀ s ∈ ss, ¬ [' ', '#'] <:+: s.text)
    (hdecode : (Yaml.decodeAll? (flowManifest key ss more).toList).isSome = true) :
    ∃ m, parse (flowManifest key ss more) = .ok m ∧ m.documents = [{ node := some 0 }] ∧
      HoldsFlow m.nodes key ss more := by
  obtain ⟨lines, below, hlines, hshows, hbelow⟩ := exists_documentLines_flow key ss more
  obtain ⟨nodes, hread, hholds⟩ := exists_readDocument_flow h hshows hbelow
  obtain ⟨values, hvalues⟩ := Option.isSome_iff_exists.1 hdecode
  refine ⟨{ nodes, documents := [{ node := some 0 }] }, ?_, rfl, hholds⟩
  simp only [parse, hvalues, ofLayout, hlines, readDocuments, hread]

/-- The text is written as it stood. -/
theorem text_of_holdsFlow {m : Manifest} (hdocuments : m.documents = [{ node := some 0 }])
    (h : HoldsFlow m.nodes key ss more) : m.text = flowManifest key ss more := by
  obtain ⟨n, ids, hn, isblock, hcontent, hholds⟩ := h.root
  obtain ⟨k, hk, iskey, -⟩ := h.key
  obtain ⟨v, hv, isvalue⟩ := h.value
  have hmembers : pairsText m true (collectionText m true m.nodes.size false) 0 false ids =
      rowsText (more.rows 0) := membersText_of_holds hholds m.nodes.size (Nat.le_add_left _ _)
  have hvalue (nested : Nat → List Char) :
      valueText m true nested k 2 = ' ' :: flowText ss ++ ['\n'] := by
    have hspaced : spaced (flowText ss) = ' ' :: flowText ss := rfl
    rw [valueText, node?, hv]
    simp [isvalue.isScalar_eq, isvalue.scalarText_eq, hspaced,
      trailing_pair iskey.toCarries isvalue.toCarries, trailText]
  have hrow : rowsText (flowRows key ss more) =
      key.text ++ ':' :: (' ' :: flowText ss ++ ['\n']) ++ rowsText (more.rows 0) := by
    simp [flowRows, flowRow, rowsText, Row.chars, spaces]
  have hdocument : documentText m true { node := some 0 } = rowsText (flowRows key ss more) := by
    simp only [documentText, node?, hn, isblock.isScalar_eq, Bool.false_eq_true, if_false,
      collectionText_block hn isblock, membersText, hcontent, pairsText_cons true hk iskey, hvalue,
      hmembers, hrow]
    simp [commentLines, commentRows, rowsText, spaces]
  simp [text, hdocuments, documentsText, hdocument, flowManifest]

/-! ### The comment that is none -/

theorem exists_text_flow (ss : List Quotable) :
    ∃ cs, (splitValue (' ' :: flowText ss)).text = '[' :: cs := by
  rw [splitValue_flow]
  dsimp only
  split
  · exact ⟨_, rfl⟩
  · obtain ⟨cs, hcs⟩ :=
      Text.prefix_trimEnd [] (splitHash (some '[') (stringsText ss ++ [']'])).1 (c := '[') rfl
    exact ⟨cs, hcs.symm⟩

/-- The first value has what is behind ` #` as its comment, also after the rest has been read. -/
theorem ownComments_of_reads_flow {n : Node} {line : Line} {lines : List Line} {t : Tally}
    {id : Nat} {b : Build} (hline : Shows line (flowRow key ss))
    (h : Reads (.pairs 0 0 none) { nodes := #[n], lines := line :: lines } t id b) :
    ownComments b.nodes 2 = presentComment (splitValue (' ' :: flowText ss)).comment := by
  have hcollect : collect [] (line :: lines) = ([], line :: lines) :=
    collect_content (hline.kind.trans (kind_flowRow key ss))
  have hcontent : ({ nodes := #[n], lines := line :: lines : Build }).toContent.lines =
      line :: lines := by simp [toContent, hcollect]
  have hsplit : splitKey? line.text = some (key.text, ' ' :: flowText ss) := by
    rw [hline.text]
    exact splitKey?_flowRow key ss
  obtain ⟨cs, hcs⟩ := exists_text_flow ss
  cases h with
  | pairsEnd hend =>
    rcases hend line (by rw [hcontent]; rfl) with hlt | hnone
    · cases hlt
    · simp [hsplit] at hnone
  | inlinePair hlines hindent hkey hn hmore =>
    obtain ⟨rfl, rfl⟩ := List.cons.inj (hcontent.symm.trans hlines)
    obtain ⟨rfl, rfl⟩ := Prod.mk.inj (Option.some.inj (hsplit.symm.trans hkey))
    obtain ⟨value, raw, closing, rfl, hclosing⟩ := exists_of_scalarNode hn
    obtain rfl : closing = none := by simpa [hcs, startsQuoted] using hclosing
    have hkept := ((Spares.refl _).addContent _).trans (spares_of_reads hmore).1
    rw [hkept.kept 2 (by simp)]
    refine (ownComments_push _ _).trans ?_
    simp [Node.ownComments]
  | nestedPair hlines hindent hkey hempty =>
    obtain ⟨rfl, rfl⟩ := List.cons.inj (hcontent.symm.trans hlines)
    obtain ⟨rfl, rfl⟩ := Prod.mk.inj (Option.some.inj (hsplit.symm.trans hkey))
    simp [hcs] at hempty

theorem ownComments_of_readDocument {nodes : Array Node} {root : Root} {lines below : List Line}
    (hlines : List.Forall₂ Shows lines (flowRows key ss more))
    (hread : readDocument #[] (lines ++ below) = .ok (root, nodes)) :
    ownComments nodes 2 = presentComment (splitValue (' ' :: flowText ss)).comment := by
  obtain ⟨line, lines, hline, hmore, rfl⟩ := List.forall₂_cons_right_iff.1 hlines
  have hcollect : collect [] (line :: (lines ++ below)) = ([], line :: (lines ++ below)) :=
    collect_content (hline.kind.trans (kind_flowRow key ss))
  have hstart : Build.start #[] (line :: lines ++ below) =
      { nodes := #[], lines := line :: (lines ++ below) } := by
    simp [Build.start, toContent, hcollect]
  have hreads := readsDocument_of_readDocument hread
  generalize documentTally _ _ = t at hreads
  cases hreads with
  | empty hnil =>
    rw [hstart] at hnil
    cases hnil
  | node hfirst h hend =>
    rw [hstart] at hfirst h
    obtain ⟨rfl, rfl⟩ := List.cons.inj hfirst
    rw [hline.indent] at h
    cases h with
    | sequence hlines hitem =>
      obtain ⟨rfl, rfl⟩ := List.cons.inj hlines
      simp [hline.text, isItem_flowRow] at hitem
    | mapping hlines hkey h => exact ownComments_of_reads_flow hline h
    | scalarLine hlines hitem hkey hn =>
      obtain ⟨rfl, rfl⟩ := List.cons.inj hlines
      simp [hline.text, splitKey?_flowRow] at hkey

/-- If the value is the whole flow sequence, no comment is behind it. -/
theorem forall_of_holdsFlow {m : Manifest} (hparse : parse (flowManifest key ss more) = .ok m)
    (h : HoldsFlow m.nodes key ss more) : ∀ s ∈ ss, ¬ [' ', '#'] <:+: s.text := by
  obtain ⟨lines, below, hlines, hshows, -⟩ := exists_documentLines_flow key ss more
  obtain ⟨chunks, hchunks, hread⟩ := readDocuments_of_parse hparse
  obtain rfl := Except.ok.inj (hlines.symm.trans hchunks)
  obtain ⟨value, hvalue, isvalue⟩ := h.value
  have hnone : ownComments m.nodes 2 = [] := by
    simp [ownComments, hvalue, Node.ownComments, isvalue.headComment, isvalue.lineComment, headText,
      trailComment, Text.joinWith]
  unfold readDocuments at hread
  split at hread
  · cases hread
  · next root nodes hroot =>
    obtain ⟨-, rfl⟩ := Prod.mk.inj (Except.ok.inj hread)
    have hcomment := (ownComments_of_readDocument hshows hroot).symm.trans hnone
    rw [← comment_flow_iff]
    by_contra hne
    simp [presentComment, hne] at hcomment

/-- The value is kept exactly if no string has ` #` in it. -/
theorem parse_flow_iff (key : Key) (ss : List Quotable) (more : Members .mapping any)
    (hdecode : (Yaml.decodeAll? (flowManifest key ss more).toList).isSome = true) :
    (∃ m, parse (flowManifest key ss more) = .ok m ∧ m.documents = [{ node := some 0 }] ∧
      HoldsFlow m.nodes key ss more ∧ m.text = flowManifest key ss more) ↔
        ∀ s ∈ ss, ¬ [' ', '#'] <:+: s.text := by
  constructor
  · rintro ⟨m, hparse, -, hholds, -⟩
    exact forall_of_holdsFlow hparse hholds
  · intro h
    obtain ⟨m, hparse, hdocuments, hholds⟩ := exists_parse_flow h hdecode
    exact ⟨m, hparse, hdocuments, hholds, text_of_holdsFlow hdocuments hholds⟩

end

/-- Brackets, colons and a `#` without a blank are text of a string. -/
theorem parse_flow_iff_brackets : ∃ (key : Key) (ss : List Quotable) (more : Members .mapping true),
    flowManifest key ss more = "k: [\"a#b\", \"]: \x7b\"]\nm: v # c\n" ∧
    (Yaml.decodeAll? (flowManifest key ss more).toList).isSome = true ∧
    ∃ m, parse (flowManifest key ss more) = .ok m ∧ m.documents = [{ node := some 0 }] ∧
      HoldsFlow m.nodes key ss more ∧ m.text = flowManifest key ss more := by
  let key : Key := ⟨['k'], by decide⟩
  let ss : List Quotable :=
    [⟨"a#b".toList, by simp [isControl]⟩, ⟨"]: \x7b".toList, by simp [isControl]⟩]
  let more : Members .mapping true :=
    .scalarPair [] ⟨['m'], by decide⟩ ⟨['v'], by decide⟩
      (some ⟨"# c".toList, rfl, by decide, by rintro _ ⟨⟩; rfl⟩) (.nil _)
  have hdecode : (Yaml.decodeAll? (flowManifest key ss more).toList).isSome = true := by
    decide
  refine ⟨key, ss, more, by decide, hdecode, (parse_flow_iff key ss more hdecode).2 ?_⟩
  have hfree : ∀ s ∈ ss, Text.occursIn [' ', '#'] s.text = false := by decide
  intro s hs hinfix
  obtain ⟨lead, rest, hsplit⟩ := hinfix
  have hoccurs := occursIn_append lead [' ', '#'] rest
  rw [← List.append_assoc, hsplit, hfree s hs] at hoccurs
  cases hoccurs

/-- The rest of the line behind ` #` is taken for a comment, and the sequence does not end. -/
theorem flow_cut_at_hash : ∃ (key : Key) (ss : List Quotable) (more : Members .mapping true),
    flowManifest key ss more = "k: [\"a # b\"]\nm: v\n" ∧
    (Yaml.decodeAll? (flowManifest key ss more).toList).isSome = true ∧
    parse (flowManifest key ss more) = .error (.layout 1 .unterminatedFlow) := by
  let key : Key := ⟨['k'], by decide⟩
  let ss : List Quotable := [⟨"a # b".toList, by simp [isControl]⟩]
  let more : Members .mapping true :=
    .scalarPair [] ⟨['m'], by decide⟩ ⟨['v'], by decide⟩ none (.nil _)
  have hfault : (match parse (flowManifest key ss more) with
      | .ok _ => none
      | .error fault => some fault) = some (.layout 1 .unterminatedFlow) := by with_unfolding_all decide
  refine ⟨key, ss, more, by decide, by decide, ?_⟩
  split at hfault
  · cases hfault
  · next fault hparse => rw [hparse, Option.some.inj hfault]

end ManifestMarkers.Manifest.Canonical
