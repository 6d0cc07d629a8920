import ManifestMarkers.Proofs.BuildInvariants
import ManifestMarkers.Proofs.ManifestComments

/-!
# Where comments stand

Every comment that is read has a place noted with it, and faults and warnings about a comment are
moved to the manifest by that place.

* `IsNoted`: a place is where the comment stands, except for a comment behind the indicator of a
  document: the place noted for it is the start of the line.
* `lasting_isNoted`: reading keeps the places.
* `commentPosition?_of_isNoted` finds the place of a line of the comment text of a node.
* `commentPosition?_of_parse`: all of this for the nodes of a manifest, with the places of faults
  and warnings.
-/

namespace ManifestMarkers.Manifest

/-! ### Places in a text -/

/-- The line of a text with a number, counted from one. -/
def lineOf? (cs : List Char) (number : Nat) : Option (List Char) :=
  if number = 0 then none else (Text.lines cs)[number - 1]?

/-- The character at a line and a column of a text, both counted from one. -/
def charAt? (cs : List Char) (line column : Nat) : Option Char :=
  if column = 0 then none else (lineOf? cs line).bind fun source => source[column - 1]?

/-- Whether a line is the indicator that starts a document. -/
def isIndicator (source : List Char) : Bool := (Line.of 0 source).kind == .documentStart

/-- The place that is noted for a comment. It is where the comment stands, unless the comment is
behind an indicator. -/
def IsNoted (cs : List Char) (p : Point) (comment : List Char) : Prop :=
  ∃ source, lineOf? cs p.line = some source ∧ 0 < p.column ∧
    (comment <+: source.drop (p.column - 1) ↔ isIndicator source = false)

/-- A comment line that waits is one line, with its place. -/
structure Pending.IsNoted (cs : List Char) (p : Pending) : Prop where
  isComment : IsComment p.text
  place : Manifest.IsNoted cs ⟨p.line, p.indent + 1, 0⟩ p.text

/-- A line of a text that is no indicator, or the part of it behind a dash. -/
structure Line.IsOf (cs : List Char) (l : Line) : Prop where
  source : ∃ source, lineOf? cs l.number = some source ∧ isIndicator source = false ∧
    l.raw <+: source
  text : l.text <:+: l.raw
  comment : l.kind = .comment → l.text ≠ [] ∧ l.text <+: l.raw.drop l.indent

section

variable {cs : List Char} {l : Line} {comment : List Char}

theorem notMem_lineOf? {number : Nat} {source : List Char} (h : lineOf? cs number = some source) :
    '\n' ∉ source := by
  unfold lineOf? at h
  split at h
  · cases h
  · exact Text.notMem_of_mem_splitOn (List.mem_of_getElem? h)

theorem Line.IsOf.notMem (h : l.IsOf cs) (hcomment : comment <:+: l.raw) : '\n' ∉ comment := by
  obtain ⟨source, hsource, -, hraw⟩ := h.source
  exact fun hmem => notMem_lineOf? hsource (hraw.subset (hcomment.subset hmem))

/-- A comment line has its place by its indentation. -/
theorem Line.IsOf.pending (h : l.IsOf cs) (hkind : l.kind = .comment) :
    Pending.IsNoted cs ⟨l.indent, l.number, l.text⟩ := by
  obtain ⟨source, hsource, hplain, hraw⟩ := h.source
  obtain ⟨hne, hstarts⟩ := h.comment hkind
  refine ⟨⟨hne, h.notMem h.text⟩, source, hsource, Nat.succ_pos _, ?_⟩
  exact iff_of_true (hstarts.trans (hraw.drop l.indent)) hplain

/-- A comment at the end of a line has its place by its last occurrence. -/
theorem Line.IsOf.commentPoint? (h : l.IsOf cs) (hcomment : comment <:+: l.raw)
    (hne : comment ≠ []) :
    ∃ p, l.commentPoint? comment = some p ∧ Manifest.IsNoted cs p comment := by
  obtain ⟨source, hsource, hplain, hraw⟩ := h.source
  obtain ⟨n, hn, hstarts⟩ := exists_lastIndexOf? hcomment
  refine ⟨⟨l.number, n + 1, 0⟩, ?_, source, hsource, Nat.succ_pos _, ?_⟩
  · rw [Line.commentPoint?, if_neg (by simpa using hne), hn]
    rfl
  · exact iff_of_true (hstarts.trans (hraw.drop n)) hplain

end

/-! ### Comments of nodes -/

/-- A comment of lines and their places. -/
def IsJoined (cs : List Char) (comment : String) (points : List Point) : Prop :=
  ∃ ps, (∀ p ∈ ps, Pending.IsNoted cs p) ∧ comment = joinPending ps ∧ points = pendingPoints ps

/-- The comment behind a node and its place. -/
def IsTrail (cs : List Char) (comment : String) (position : Option Point) : Prop :=
  comment = "" ∨ IsComment comment.toList ∧ ∃ p, position = some p ∧ IsNoted cs p comment.toList

/-- The comments of a node have their places. -/
structure Node.IsNoted (cs : List Char) (n : Node) : Prop where
  head : IsJoined cs n.headComment n.headPositions
  trail : IsTrail cs n.lineComment n.linePosition
  foot : IsJoined cs n.footComment n.footPositions

section

variable {cs : List Char}

theorem isJoined_nil (cs : List Char) : IsJoined cs "" [] := ⟨[], nofun, rfl, rfl⟩

theorem isTrail_empty (cs : List Char) (position : Option Point) : IsTrail cs "" position :=
  .inl rfl

theorem joinPending_append {ps qs : List Pending} (hps : ps ≠ []) (hqs : qs ≠ []) :
    joinPending (ps ++ qs) = joinPending ps ++ "\n" ++ joinPending qs := by
  have hjoin : Text.joinWith ['\n'] ((ps ++ qs).map Pending.text) = _ :=
    List.map_append ▸ Text.joinWith_append (by simpa using hps) (by simpa using hqs)
  rw [joinPending, hjoin, String.ofList_append, String.ofList_append]
  rfl

/-- Further lines below a node. -/
theorem IsJoined.append {comment : String} {points : List Point} {qs : List Pending}
    (h : IsJoined cs comment points) (hqs : ∀ p ∈ qs, Pending.IsNoted cs p) (hne : qs ≠ []) :
    IsJoined cs ((if comment.isEmpty then "" else comment ++ "\n") ++ joinPending qs)
      (points ++ pendingPoints qs) := by
  obtain ⟨ps, hps, rfl, rfl⟩ := h
  have hplain : PlainPending ps := fun p hp => (hps p hp).isComment
  refine ⟨ps ++ qs, ?_, ?_, by simp [pendingPoints]⟩
  · intro p hp
    rcases List.mem_append.1 hp with hp | hp
    · exact hps p hp
    · exact hqs p hp
  · by_cases hempty : ps = []
    · subst hempty
      simp [joinPending, Text.joinWith]
    · rw [isEmpty_joinPending hempty hplain, joinPending_append hempty hne]
      rfl

theorem Line.IsOf.isTrail {l : Line} {comment : List Char} (h : l.IsOf cs)
    (hcomment : comment <:+: l.raw) :
    IsTrail cs (String.ofList comment) (l.commentPoint? comment) := by
  by_cases hempty : comment = []
  · subst hempty
    exact isTrail_empty cs _
  · obtain ⟨p, hp, hnoted⟩ := h.commentPoint? hcomment hempty
    refine .inr ⟨?_, p, hp, ?_⟩
    · rw [String.toList_ofList]
      exact ⟨hempty, h.notMem hcomment⟩
    · rwa [String.toList_ofList]

end

/-- The comment behind a closing quote is on the line that closes it: the text up to that line is
not closed. -/
theorem infix_of_quotedLines {number : Nat} {text raw comment : List Char} {l : Line}
    {lines rest : List Line} (hopen : splitQuoted? text = none)
    (h : quotedLines number text lines = .ok (raw, some (l, comment), rest)) :
    l ∈ lines ∧ comment <:+: l.raw := by
  induction lines generalizing text with
  | nil => cases h
  | cons line lines ih =>
    unfold quotedLines at h
    dsimp only at h
    split at h
    · next hstill =>
      obtain ⟨hmem, hinfix⟩ := ih hstill h
      exact ⟨List.mem_cons_of_mem line hmem, hinfix⟩
    · next quoted after hclosed =>
      obtain ⟨hsplit, hquotes⟩ := quotes_splitQuoted? hclosed
      have hlong : text.length < quoted.length := by
        by_contra hle
        have hquoted : quoted <+: text :=
          List.prefix_of_prefix_length_le ⟨after, hsplit.symm⟩ (List.prefix_append _ _) (by omega)
        obtain ⟨less, rfl⟩ := hquoted
        rw [List.append_assoc, List.append_cancel_left_eq] at hsplit
        rw [hquotes.stays less ⟨_, hsplit⟩] at hopen
        cases hopen
      have hafter : after <:+ line.raw := by
        have hlength := congrArg List.length hsplit
        simp only [List.length_append, List.length_cons] at hlength
        have hends : after <:+ '\n' :: line.raw :=
          List.suffix_of_suffix_length_le ⟨quoted, hsplit.symm⟩ (List.suffix_append _ _)
            (by simp only [List.length_cons]; omega)
        rcases List.suffix_cons_iff.1 hends with heq | hsuffix
        · rw [heq] at hlength
          simp only [List.length_cons] at hlength
          omega
        · exact hsuffix
      split at h
      · cases h
      · cases h
        exact ⟨List.mem_cons_self, (infix_trim after).trans hafter.isInfix⟩
      · cases h

/-- A scalar on a line of a text. -/
theorem isNoted_of_scalarNode {cs text : List Char} {line : Line} {parent column : Nat}
    {lines rest : List Line} {n : Node} (hline : line.IsOf cs) (hlines : ∀ l ∈ lines, l.IsOf cs)
    (htext : text <:+: line.raw)
    (h : scalarNode (splitValue text) line parent column lines = .ok (n, rest)) :
    n.IsNoted cs := by
  obtain ⟨value, raw, closing, rfl, hclosing⟩ := exists_of_scalarNode h
  refine ⟨isJoined_nil cs, ?_, isJoined_nil cs⟩
  cases closing with
  | none => exact hline.isTrail ((infix_splitValue text).trans htext)
  | some closing =>
    obtain ⟨l, comment⟩ := closing
    split at hclosing
    · unfold quotedScalar at hclosing
      split at hclosing
      · cases hclosing
      · next hopen =>
        obtain ⟨hmem, hinfix⟩ := infix_of_quotedLines (by simpa using hopen) hclosing
        exact (hlines l hmem).isTrail hinfix
    · cases hclosing

/-! ### The builder -/

/-- What is read has the places of its comments. -/
theorem lasting_isNoted (cs : List Char) :
    Lasting (Node.IsNoted cs) (Line.IsOf cs) (Pending.IsNoted cs) where
  pending hline hkind := hline.pending hkind
  dash {l} _ hline hkind := by
    refine ⟨hline.source, (infix_dash l).trans hline.text, fun hcomment => ?_⟩
    rw [show l.kind = .comment from hcomment] at hkind
    cases hkind
  collection _ _ _ := ⟨isJoined_nil cs, isTrail_empty cs _, isJoined_nil cs⟩
  missing _ _ := ⟨isJoined_nil cs, isTrail_empty cs _, isJoined_nil cs⟩
  key _ _ _ _ := ⟨isJoined_nil cs, isTrail_empty cs _, isJoined_nil cs⟩
  scalar hline hlines htext hn :=
    isNoted_of_scalarNode hline hlines (htext.trans hline.text) hn
  head hn hps := ⟨⟨_, hps, rfl, rfl⟩, hn.trail, hn.foot⟩
  trail hn hline htext :=
    ⟨hn.head, hline.isTrail (((infix_splitValue _).trans htext).trans hline.text), hn.foot⟩
  properties hn _ _ := ⟨hn.head, hn.trail, hn.foot⟩
  foot hn hps hne := ⟨hn.head, hn.trail, hn.foot.append hps hne⟩
  content _ hn := ⟨hn.head, hn.trail, hn.foot⟩

/-! ### Documents -/

/-- What follows the indentation of a line. -/
theorem drop_indent_of (number : Nat) (source : List Char) :
    (Line.of number source).raw.drop (Line.of number source).indent =
      (Line.of number source).raw.dropWhile (· == ' ') :=
  (List.suffix_iff_eq_drop.1 (List.dropWhile_suffix _)).symm

theorem kind_of (number : Nat) (source : List Char) :
    ((Line.of number source).kind == .documentStart) = isIndicator source := rfl

theorem isOf_of {cs source : List Char} {number : Nat} (h : lineOf? cs number = some source)
    (hkind : (Line.of number source).kind ≠ .documentStart) : (Line.of number source).IsOf cs := by
  refine ⟨⟨source, h, ?_, prefix_dropCarriageReturn source⟩, ?_, fun hcomment => ⟨?_, ?_⟩⟩
  · rw [← kind_of number source]
    simpa using hkind
  · exact (Text.trimEnd_prefix _).isInfix.trans (List.dropWhile_suffix _).isInfix
  · exact (isPlain_of number (notMem_lineOf? h)).ne_nil hcomment
  · rw [drop_indent_of]
    exact Text.trimEnd_prefix _

/-- An indicator starts its line. -/
theorem indicator_of {number : Nat} {source : List Char}
    (h : (Line.of number source).kind = .documentStart) :
    (Line.of number source).indent = 0 ∧ source.head? = some '-' := by
  have hkind : lineKind (Line.of number source).indent (Line.of number source).text =
      .documentStart := h
  unfold lineKind at hkind
  split at hkind
  · cases hkind
  · cases hkind
  · split at hkind
    · next hstart =>
      obtain ⟨hindent, htext⟩ := hstart
      have hhead : (Line.of number source).text.head? = some '-' := by
        rcases htext with htext | htext
        · rw [htext]
          rfl
        · obtain ⟨rest, hrest⟩ := List.isPrefixOf_iff_prefix.1 htext
          rw [← hrest]
          rfl
      refine ⟨hindent, ?_⟩
      have hstarts : (Line.of number source).text <+: source := by
        have hdrop := drop_indent_of number source
        rw [hindent, List.drop_zero] at hdrop
        have hraw : (Line.of number source).text <+: (Line.of number source).raw := by
          conv_rhs => rw [hdrop]
          exact Text.trimEnd_prefix _
        exact hraw.trans (prefix_dropCarriageReturn source)
      obtain ⟨rest, hrest⟩ := hstarts
      rw [← hrest, List.head?_append, hhead]
      rfl
    · split at hkind
      · cases hkind
      · cases hkind

/-- The comment behind an indicator has the place of the indicator. -/
theorem isNoted_indicator {cs source rest : List Char} {number : Nat}
    (h : lineOf? cs number = some source) (hkind : (Line.of number source).kind = .documentStart)
    (hrest : Text.trim ((Line.of number source).text.drop 3) = '#' :: rest) :
    Pending.IsNoted cs ⟨(Line.of number source).indent, number, '#' :: rest⟩ := by
  have hplain := isPlain_indicator (isPlain_of number (notMem_lineOf? h)) hrest
  obtain ⟨hindent, hhead⟩ := indicator_of hkind
  refine ⟨⟨List.cons_ne_nil _ _, hplain.oneLine⟩, source, h, Nat.succ_pos _, ?_⟩
  refine iff_of_false (fun hstarts => ?_) ?_
  · rw [hindent] at hstarts
    obtain ⟨more, hmore⟩ := hstarts
    replace hmore : '#' :: rest ++ more = source := hmore
    rw [← hmore] at hhead
    cases hhead
  · rw [← kind_of number source, hkind]
    decide

/-- A line of a text, with its number. -/
def Line.IsFrom (cs : List Char) (l : Line) : Prop :=
  ∃ source, lineOf? cs l.number = some source ∧ l = Line.of l.number source

theorem isFrom_numberLines (cs : List Char) :
    ∀ l ∈ numberLines 1 (Text.lines cs), l.IsFrom cs := by
  have hall {parts : List (List Char)} {number : Nat} {l : Line}
      (hl : l ∈ numberLines number parts) :
      ∃ i source, parts[i]? = some source ∧ l = Line.of (number + i) source := by
    induction parts generalizing number with
    | nil => cases hl
    | cons part parts ih =>
      rcases List.mem_cons.1 hl with rfl | hl
      · exact ⟨0, part, rfl, rfl⟩
      · obtain ⟨i, source, hsource, rfl⟩ := ih hl
        exact ⟨i + 1, source, hsource, by rw [Nat.add_right_comm, Nat.add_assoc]⟩
  intro l hl
  obtain ⟨i, source, hsource, rfl⟩ := hall hl
  refine ⟨source, ?_, rfl⟩
  show lineOf? cs (1 + i) = some source
  rw [lineOf?, if_neg (by omega), Nat.add_sub_cancel_left]
  exact hsource

theorem isChunk_of_chunkLines {cs : List Char} {lines chunk : List Line}
    {chunks : List (Bool × List Line)} (h : chunkLines lines = .ok (chunk, chunks))
    (hlines : ∀ l ∈ lines, l.IsFrom cs) :
    (∀ l ∈ chunk, l.IsOf cs) ∧
      ∀ c ∈ chunks, IsChunk (Line.IsOf cs) (Pending.IsNoted cs) c.2 := by
  induction lines generalizing chunk chunks with
  | nil =>
    cases h
    exact ⟨nofun, nofun⟩
  | cons line lines ih =>
    obtain ⟨source, hsource, hline⟩ := hlines line (by simp)
    have hmore : ∀ l ∈ lines, l.IsFrom cs := fun l hl => hlines l (by simp [hl])
    unfold chunkLines at h
    split at h
    · next hkind =>
      dsimp only at h
      split at h
      · cases h
      · next first hfirst =>
        split at h
        · cases h
        · next chunk' chunks' hrest =>
          cases h
          obtain ⟨hchunk, hchunks⟩ := ih hrest hmore
          refine ⟨nofun, fun c hc => ?_⟩
          rcases List.mem_cons.1 hc with rfl | hc
          · refine ⟨first, chunk', rfl, hchunk, fun l hl => ?_⟩
            split at hfirst
            · cases hfirst
              cases hl
            · next rest htrim =>
              cases hfirst
              obtain rfl := List.mem_singleton.1 hl
              rw [hline] at hkind htrim
              refine ⟨rfl, ?_⟩
              have hnoted := isNoted_indicator hsource hkind htrim
              rw [← hline] at hnoted htrim
              rwa [← htrim] at hnoted
            · cases hfirst
          · exact hchunks c hc
    · exact ih h hmore
    · next hstart _ =>
      split at h
      · cases h
      · next chunk' chunks' hrest =>
        cases h
        obtain ⟨hchunk, hchunks⟩ := ih hrest hmore
        refine ⟨fun l hl => ?_, hchunks⟩
        rcases List.mem_cons.1 hl with rfl | hl
        · rw [hline]
          exact isOf_of hsource (by rw [← hline]; exact hstart)
        · exact hchunk l hl

theorem isChunk_of_documentLines {cs : List Char} {chunks : List (Bool × List Line)}
    (h : documentLines cs = .ok chunks) :
    ∀ c ∈ chunks, IsChunk (Line.IsOf cs) (Pending.IsNoted cs) c.2 := by
  have hall := isFrom_numberLines cs
  unfold documentLines at h
  split at h
  · cases h
  · next first hchunks =>
    cases h
    intro c hc
    obtain rfl := List.mem_singleton.1 hc
    exact isChunk_of_forall (isChunk_of_chunkLines hchunks hall).1
  · next first chunks hne hchunks =>
    obtain ⟨hfirst, hrest⟩ := isChunk_of_chunkLines hchunks hall
    cases h
    split
    · exact hrest
    · intro c hc
      rcases List.mem_cons.1 hc with rfl | hc
      · exact isChunk_of_forall hfirst
      · exact hrest c hc

/-- The comments of every node of a manifest have their places. -/
theorem isNoted_of_parse {text : String} {m : Manifest} (h : parse text = .ok m) {id : Nat}
    {n : Node} (hn : m.node? id = some n) : n.IsNoted text.toList := by
  unfold parse at h
  split at h
  · cases h
  · unfold ofLayout at h
    split at h
    · cases h
    · next chunks hchunks =>
      split at h
      · cases h
      · next documents nodes hdocuments =>
        cases h
        exact (each_of_readDocuments (lasting_isNoted text.toList) hdocuments (by simp)
          (isChunk_of_documentLines hchunks)).1 id n hn

/-! ### Lines of the comment text -/

section

variable {cs : List Char} {comment : String} {points : List Point}

/-- The lines of a comment that is not empty have as many places. -/
theorem IsJoined.getElem? (h : IsJoined cs comment points) {i : Nat} {line : List Char}
    (hline : (Text.lines comment.toList)[i]? = some line) (hne : line ≠ []) :
    points.length = Node.lineCount comment ∧ ∃ p, points[i]? = some p ∧ IsNoted cs p line := by
  obtain ⟨ps, hps, rfl, rfl⟩ := h
  have hplain : PlainPending ps := fun p hp => (hps p hp).isComment
  have hfull : ps ≠ [] := by
    rintro rfl
    have hempty : Text.lines (joinPending []).toList = [[]] := rfl
    rw [hempty] at hline
    exact hne (List.mem_singleton.1 (List.mem_of_getElem? hline))
  rw [lines_joinPending hfull hplain, List.getElem?_map] at hline
  obtain ⟨p, hp, rfl⟩ := Option.map_eq_some_iff.1 hline
  refine ⟨by simp [Node.lineCount, lines_joinPending hfull hplain, pendingPoints], _, ?_,
    (hps p (List.mem_of_getElem? hp)).place⟩
  rw [pendingPoints, List.getElem?_map, hp]
  rfl

end

theorem lines_commentText {cs : List Char} {n : Node} (h : n.IsNoted cs) :
    Text.lines n.commentText.toList = Text.lines n.headComment.toList ++
      n.lineComment.toList :: Text.lines n.footComment.toList := by
  have honeLine : '\n' ∉ n.lineComment.toList := by
    rcases h.trail with hempty | ⟨hcomment, -⟩
    · simp [hempty]
    · exact hcomment.oneLine
  have htext : n.commentText.toList =
      n.headComment.toList ++ '\n' :: (n.lineComment.toList ++ '\n' :: n.footComment.toList) := by
    simp [Node.commentText]
  rw [htext, Text.lines, Text.splitOn_append_cons, Text.splitOn_append honeLine]
  rfl

/-- A line of the comment text that is not empty has its place. -/
theorem commentPosition?_of_isNoted {cs : List Char} {n : Node} (h : n.IsNoted cs) {number : Nat}
    {comment : List Char} (hline : lineOf? n.commentText.toList number = some comment)
    (hne : comment ≠ []) : ∃ p, n.commentPosition? number = some p ∧ IsNoted cs p comment := by
  unfold lineOf? at hline
  unfold Node.commentPosition?
  split at hline
  · cases hline
  · next hnumber =>
    rw [if_neg hnumber]
    rw [lines_commentText h] at hline
    dsimp only
    have hcount : (Text.lines n.headComment.toList).length = Node.lineCount n.headComment := rfl
    split
    · next hhead =>
      rw [List.getElem?_append_left (by omega)] at hline
      obtain ⟨hlength, p, hp, hnoted⟩ := h.head.getElem? hline hne
      rw [if_pos hlength]
      exact ⟨p, hp, hnoted⟩
    · next hhead =>
      rw [List.getElem?_append_right (by omega), hcount] at hline
      split
      · next htrail =>
        rw [htrail, Nat.sub_self] at hline
        obtain rfl : n.lineComment.toList = comment := by simpa using hline
        rcases h.trail with hempty | ⟨-, p, hp, hnoted⟩
        · exact absurd (by simp [hempty]) hne
        · have hfull : ¬ n.lineComment.isEmpty = true := by
            rw [String.isEmpty_iff]
            intro hempty
            exact hne (by simp [hempty])
          rw [if_neg hfull]
          exact ⟨p, hp, hnoted⟩
      · next htrail =>
        obtain ⟨k, hk⟩ : ∃ k, number - 1 - Node.lineCount n.headComment = k + 1 :=
          ⟨number - 1 - Node.lineCount n.headComment - 1, by omega⟩
        rw [hk, List.getElem?_cons_succ] at hline
        obtain ⟨-, p, hp, hnoted⟩ := h.foot.getElem? hline hne
        refine ⟨p, ?_, hnoted⟩
        rw [hk, Nat.add_sub_cancel]
        exact hp

/-! ### Faults and warnings -/

/-- A place in a comment is a place in the text where the comment stands. -/
theorem charAt?_placeIn {cs source comment : List Char} {n : Node} {p q : Point} {c : Char}
    (hp : n.commentPosition? q.line = some p) (hsource : lineOf? cs p.line = some source)
    (hcolumn : 0 < p.column) (hstands : comment <+: source.drop (p.column - 1))
    (hline : lineOf? n.commentText.toList q.line = some comment)
    (hc : charAt? n.commentText.toList q.line q.column = some c) :
    charAt? cs (Inspection.placeIn n q).line (Inspection.placeIn n q).column = some c := by
  unfold charAt? at hc
  split at hc
  · cases hc
  · next hq =>
    rw [hline] at hc
    have hc : comment[q.column - 1]? = some c := hc
    have hdrop : (source.drop (p.column - 1))[q.column - 1]? = some c := by
      obtain ⟨more, hmore⟩ := hstands
      have hlt : q.column - 1 < comment.length := (List.getElem?_eq_some_iff.1 hc).1
      rw [← hmore, List.getElem?_append_left hlt, hc]
    rw [List.getElem?_drop] at hdrop
    rw [Inspection.placeIn, hp]
    show charAt? cs p.line (p.column + q.column - 1) = some c
    rw [charAt?, if_neg (by omega), hsource]
    show source[p.column + q.column - 1 - 1]? = some c
    rw [← hdrop]
    congr 1
    omega

/-- Each line of the comment text of a node that is not empty has a place in the manifest. The
comment stands there exactly if the line of the place is no indicator of a document; and then faults
and warnings about the comment are moved to the very characters they are about. -/
theorem commentPosition?_of_parse {text : String} {m : Manifest} (h : parse text = .ok m)
    {id number : Nat} {n : Node} {comment : List Char} (hn : m.node? id = some n)
    (hline : lineOf? n.commentText.toList number = some comment) (hne : comment ≠ []) :
    ∃ p source, n.commentPosition? number = some p ∧ lineOf? text.toList p.line = some source ∧
      0 < p.column ∧ (comment <+: source.drop (p.column - 1) ↔ isIndicator source = false) ∧
      (isIndicator source = false →
        (∀ cause q c, cause.position? = some q → q.line = number →
          charAt? n.commentText.toList q.line q.column = some c →
            ∃ line column, Inspection.faultIn n cause = .inManifest line column cause ∧
              charAt? text.toList line column = some c) ∧
        ∀ w c, w.line = number → charAt? n.commentText.toList w.line w.column = some c →
          charAt? text.toList (Inspection.warningIn n w).line (Inspection.warningIn n w).column =
            some c) := by
  obtain ⟨p, hp, source, hsource, hcolumn, hiff⟩ :=
    commentPosition?_of_isNoted (isNoted_of_parse h hn) hline hne
  refine ⟨p, source, hp, hsource, hcolumn, hiff, fun hplain => ⟨?_, ?_⟩⟩
  · rintro cause q c hq rfl hc
    refine ⟨(Inspection.placeIn n q).line, (Inspection.placeIn n q).column, ?_, ?_⟩
    · rw [Inspection.faultIn, hq]
    · exact charAt?_placeIn hp hsource hcolumn (hiff.2 hplain) hline hc
  · rintro w c rfl hc
    exact charAt?_placeIn (q := ⟨w.line, w.column, 0⟩) hp hsource hcolumn (hiff.2 hplain) hline hc

/-- A comment behind the closing quote of a scalar that goes on over lines stands at its place. -/
theorem commentPosition?_of_parse_quoted : ∃ m n p source,
    parse "k: \"é\n  ü\" # b\n  # c\n" = .ok m ∧ m.node? 2 = some n ∧
      lineOf? n.commentText.toList 2 = some "# b".toList ∧ n.commentPosition? 2 = some p ∧
      p = ⟨2, 6, 0⟩ ∧ lineOf? "k: \"é\n  ü\" # b\n  # c\n".toList p.line = some source ∧
      "# b".toList <+: source.drop (p.column - 1) := by
  have h : (parse "k: \"é\n  ü\" # b\n  # c\n").toOption.bind (fun m => (m.node? 2).map fun n =>
      (lineOf? n.commentText.toList 2, n.commentPosition? 2)) =
        some (some "# b".toList, some ⟨2, 6, 0⟩) := by
    with_unfolding_all decide
  obtain ⟨m, hm, hnode⟩ := Option.bind_eq_some_iff.1 h
  obtain ⟨n, hn, hfacts⟩ := Option.map_eq_some_iff.1 hnode
  obtain ⟨hline, hplace⟩ := Prod.mk.inj hfacts
  have hm := eq_ok_of_toOption hm
  obtain ⟨p, source, hp, hsource, -, hiff, -⟩ :=
    commentPosition?_of_parse hm hn hline (by decide)
  obtain rfl : p = ⟨2, 6, 0⟩ := Option.some.inj (hp.symm.trans hplace)
  have hquoted : lineOf? "k: \"é\n  ü\" # b\n  # c\n".toList 2 = some "  ü\" # b".toList := by
    decide
  obtain rfl : source = "  ü\" # b".toList := Option.some.inj (hsource.symm.trans hquoted)
  exact ⟨m, n, _, _, hm, hn, hline, hp, rfl, hsource, hiff.2 (by decide)⟩

/-- The place of a comment behind an indicator is the start of the line. -/
theorem commentPosition?_of_indicator : ∃ m n,
    parse "--- # c\na: b\n" = .ok m ∧ m.node? 1 = some n ∧
      lineOf? n.commentText.toList 1 = some "# c".toList ∧
      n.commentPosition? 1 = some ⟨1, 1, 0⟩ ∧
      lineOf? "--- # c\na: b\n".toList 1 = some "--- # c".toList ∧
      ¬ "# c".toList <+: "--- # c".toList.drop (1 - 1) := by
  have h : (parse "--- # c\na: b\n").toOption.bind (fun m => (m.node? 1).map fun n =>
      (lineOf? n.commentText.toList 1, n.commentPosition? 1)) =
        some (some "# c".toList, some ⟨1, 1, 0⟩) := by
    with_unfolding_all decide
  obtain ⟨m, hm, hnode⟩ := Option.bind_eq_some_iff.1 h
  obtain ⟨n, hn, hfacts⟩ := Option.map_eq_some_iff.1 hnode
  obtain ⟨hline, hplace⟩ := Prod.mk.inj hfacts
  exact ⟨m, n, eq_ok_of_toOption hm, hn, hline, hplace, by decide, by decide⟩

end ManifestMarkers.Manifest
