import ManifestMarkers.Proofs.CommentPositions
import ManifestMarkers.Proofs.SourceLines

/-!
# Comments of lines whose blanks are spaces

The comments of a manifest are parts of its lines. If the lines have only the characters that may
stand on a line of YAML, then so have the comments, and each can be written behind a value or on a
line of its own.

* `head_splitValue`, `head_of_quotedLines`: a comment starts with its sign.
* `lasting_hasRemarks`: reading keeps this for all comments of a node.
* `hasRemarks_of_parse`: so it is for every node and every document of a text.
-/

namespace ManifestMarkers.Manifest

open Yaml

/-! ### Comments start with their sign -/

theorem head_of_prefix {a b : List Char} {d : Char} (h : a <+: b) (hb : ∀ c ∈ b.head?, c = d) :
    ∀ c ∈ a.head?, c = d := by
  obtain ⟨more, rfl⟩ := h
  cases a with
  | nil => simp
  | cons c cs => exact hb

theorem head_splitComment (cs : List Char) : ∀ c ∈ (splitComment cs).2.head?, c = '#' := by
  unfold splitComment
  dsimp only
  split
  · simp
  · next hne =>
    refine head_of_prefix (Text.trimEnd_prefix _) fun c hc => ?_
    rw [(splitHash_spec (by simpa using hne)).1] at hc
    exact (Option.some.inj hc).symm

theorem head_splitValue (text : List Char) : ∀ c ∈ (splitValue text).comment.head?, c = '#' := by
  have hplain := comment_takeProperties 2 {} (Text.trim text)
  unfold splitValue
  generalize takeProperties 2 {} (Text.trim text) = taken at hplain ⊢
  obtain ⟨value, rest⟩ := taken
  dsimp only at hplain ⊢
  split
  · rw [hplain]
    simp
  · exact head_splitComment rest

theorem head_of_quotedLines {number : Nat} {text raw comment : List Char} {l : Line}
    {lines rest : List Line}
    (h : quotedLines number text lines = .ok (raw, some (l, comment), rest)) :
    ∀ c ∈ comment.head?, c = '#' := by
  induction lines generalizing text with
  | nil => cases h
  | cons line lines ih =>
    unfold quotedLines at h
    dsimp only at h
    split at h
    · exact ih h
    · split at h
      · cases h
      · next more htrim =>
        cases h
        simp [htrim]
      · cases h

/-! ### Nodes -/

/-- A line whose blanks are spaces. -/
structure Line.IsClean (l : Line) : Prop where
  raw : ∀ c ∈ l.raw, isTextChar c = true
  text : ∀ c ∈ l.text, isTextChar c = true
  comment : l.kind = .comment → l.text.head? = some '#'

/-- The comment is there, and it can be written on a line. -/
structure Pending.IsClean (p : Pending) : Prop where
  ne_nil : p.text ≠ []
  isRemark : IsRemark p.text

theorem Line.IsWhole.isClean {l : Line} (h : l.IsWhole) : l.IsClean :=
  ⟨h.chars, h.isTextChar_text, h.comment⟩

section

variable {ps : List Pending} {text comment : List Char} {line l : Line} {n : Node}

theorem isRemark_of_infix {text : List Char} (hhead : ∀ c ∈ comment.head?, c = '#')
    (hwithin : comment <:+: text) (htext : ∀ c ∈ text, isTextChar c = true) : IsRemark comment :=
  isRemark_of_isTextChar hhead fun c hc => htext c (hwithin.subset hc)

theorem notMem_of_isRemark (h : IsRemark comment) : '\n' ∉ comment := by
  intro hmem
  have hbreak := (h.2 '\n' hmem).2
  revert hbreak
  decide

theorem plainPending_of_isClean (h : ∀ p ∈ ps, p.IsClean) : PlainPending ps :=
  fun p hp => ⟨(h p hp).ne_nil, notMem_of_isRemark (h p hp).isRemark⟩

theorem isRemark_joinPending (h : ∀ p ∈ ps, p.IsClean) :
    ∀ part ∈ commentParts (joinPending ps), IsRemark part := by
  rw [commentParts_joinPending (plainPending_of_isClean h)]
  intro part hpart
  obtain ⟨p, hp, rfl⟩ := List.mem_map.1 hpart
  exact (h p hp).isRemark

theorem hasRemarks_of_trail (hhead : n.headComment = "") (hfoot : n.footComment = "")
    (htrail : IsRemark n.lineComment.toList) : n.HasRemarks := by
  refine ⟨?_, htrail, ?_⟩
  · rw [hhead]
    nofun
  · rw [hfoot]
    nofun

theorem hasRemarks_of_scalarNode {parent column : Nat} {lines rest : List Line}
    (hline : line.IsClean) (hlines : ∀ l ∈ lines, l.IsClean) (htext : text <:+: line.text)
    (h : scalarNode (splitValue text) line parent column lines = .ok (n, rest)) :
    n.HasRemarks := by
  obtain ⟨value, raw, closing, rfl, hclosing⟩ := exists_of_scalarNode h
  refine hasRemarks_of_trail rfl rfl ?_
  rw [String.toList_ofList]
  cases closing with
  | none =>
    exact isRemark_of_infix (head_splitValue text) ((infix_splitValue text).trans htext) hline.text
  | some closing =>
    obtain ⟨l, comment⟩ := closing
    split at hclosing
    · unfold quotedScalar at hclosing
      split at hclosing
      · cases hclosing
      · next hopen =>
        obtain ⟨hmem, hwithin⟩ := infix_of_quotedLines (by simpa using hopen) hclosing
        exact isRemark_of_infix (head_of_quotedLines hclosing) hwithin (hlines l hmem).raw
    · cases hclosing

/-- Reading keeps that comments can be written. -/
theorem lasting_hasRemarks : Lasting Node.HasRemarks Line.IsClean Pending.IsClean where
  pending {l} hline hkind := by
    have hhead := hline.comment hkind
    refine ⟨?_, isRemark_of_infix ?_ List.infix_rfl hline.text⟩
    · rintro hnil
      rw [show l.text = [] from hnil] at hhead
      cases hhead
    · intro c hc
      rw [show l.text.head? = some '#' from hhead] at hc
      exact (Option.some.inj hc).symm
  dash {l} _ hline hkind := by
    refine ⟨hline.raw, fun c hc => hline.text c ((infix_dash l).subset hc), fun hcomment => ?_⟩
    rw [show l.kind = .comment from hcomment] at hkind
    cases hkind
  collection _ _ _ := hasRemarks_of_trail rfl rfl isRemark_nil
  missing _ _ := hasRemarks_of_trail rfl rfl isRemark_nil
  key _ _ _ _ := hasRemarks_of_trail rfl rfl isRemark_nil
  scalar hline hlines htext hn := hasRemarks_of_scalarNode hline hlines htext hn
  head hn hps := ⟨isRemark_joinPending hps, hn.trail, hn.foot⟩
  trail {n line text} hn hline htext := by
    refine ⟨hn.head, ?_, hn.foot⟩
    rw [String.toList_ofList]
    exact isRemark_of_infix (head_splitValue text) ((infix_splitValue text).trans htext) hline.text
  properties hn _ _ := ⟨hn.head, hn.trail, hn.foot⟩
  foot {n ps} hn hps hne := by
    refine ⟨hn.head, hn.trail, ?_⟩
    rw [commentParts_foot n.footComment hne (plainPending_of_isClean hps),
      ← commentParts_joinPending (plainPending_of_isClean hps)]
    exact fun part hpart => (List.mem_append.1 hpart).elim (hn.foot part)
      (isRemark_joinPending hps part)
  content _ hn := ⟨hn.head, hn.trail, hn.foot⟩

end

/-! ### Documents -/

/-- A line whose blanks are spaces and that does not start like a document indicator. -/
structure IsTextLine (cs : List Char) : Prop where
  chars : ∀ c ∈ cs, isTextChar c = true
  marker : startsMarker cs = false

theorem isWhole_numberLines {number : Nat} {parts : List (List Char)}
    (h : ∀ part ∈ parts, IsTextLine part) : ∀ l ∈ numberLines number parts, l.IsWhole := by
  induction parts generalizing number with
  | nil => nofun
  | cons part parts ih =>
    obtain ⟨hpart, hmore⟩ := List.forall_mem_cons.1 h
    exact List.forall_mem_cons.2 ⟨isWhole_of number hpart.chars hpart.marker, ih hmore⟩

/-- Without indicators, all lines are one document. -/
theorem chunkLines_of_isWhole {lines : List Line} (h : ∀ l ∈ lines, l.IsWhole) :
    chunkLines lines = .ok (lines, []) := by
  induction lines with
  | nil => rfl
  | cons line lines ih =>
    obtain ⟨hline, hmore⟩ := List.forall_mem_cons.1 h
    unfold chunkLines
    split
    · next hkind => exact absurd hkind hline.noStart
    · next hkind => exact absurd hkind hline.noEnd
    · rw [ih hmore]

section

variable {text : String} {m : Manifest}

/-- A text without indicators is read as one document. -/
theorem exists_document_of_parse (h : parse text = .ok m)
    (hlines : ∀ line ∈ Text.lines text.toList, IsTextLine line) :
    ∃ root, m.documents = [{ root with isExplicit := false }] ∧
      readDocument #[] (numberLines 1 (Text.lines text.toList)) = .ok (root, m.nodes) := by
  obtain ⟨chunks, hchunks, hread⟩ := readDocuments_of_parse h
  rw [documentLines, chunkLines_of_isWhole (isWhole_numberLines hlines)] at hchunks
  cases hchunks
  rw [readDocuments] at hread
  split at hread
  · cases hread
  · next root nodes hroot =>
    obtain ⟨hdocuments, rfl⟩ := Prod.mk.inj (Except.ok.inj hread)
    exact ⟨root, hdocuments.symm, hroot⟩

/-- The comments of a text can be written on lines of their own. -/
theorem hasRemarks_of_parse (h : parse text = .ok m)
    (hlines : ∀ line ∈ Text.lines text.toList, IsTextLine line) :
    (∀ id n, m.node? id = some n → n.HasRemarks) ∧
      ∀ root ∈ m.documents, ∀ line ∈ commentParts root.comment, IsRemark line := by
  obtain ⟨chunks, hchunks, hread⟩ := readDocuments_of_parse h
  have hwhole : ∀ l ∈ numberLines 1 (Text.lines text.toList), l.IsWhole :=
    isWhole_numberLines hlines
  rw [documentLines, chunkLines_of_isWhole hwhole] at hchunks
  cases hchunks
  obtain ⟨hnodes, hroots⟩ := each_of_readDocuments lasting_hasRemarks hread (by simp) fun c hc => by
    obtain rfl := List.mem_singleton.1 hc
    exact isChunk_of_forall fun l hl => (hwhole l hl).isClean
  refine ⟨hnodes, fun root hroot => ?_⟩
  obtain ⟨ps, hps, hcomment⟩ := hroots root hroot
  rw [hcomment]
  exact isRemark_joinPending hps

end

end ManifestMarkers.Manifest
