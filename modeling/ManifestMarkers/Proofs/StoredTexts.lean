import ManifestMarkers.Proofs.BuildInvariants

/-!
# Texts that are stored with nodes

A node keeps texts as they stand in the source: its properties, its comments and, for a scalar, its
own text. Nothing is decoded on the way, and lines are only joined by line feeds. So whatever holds
of the lines of the source, of parts of texts and of joined lines holds of the texts that are stored
(`stored_of_parse`).
-/

namespace ManifestMarkers.Manifest

/-- A property of texts that goes to the parts of a text, and to texts of lines. -/
structure IsTextual (T : List Char → Prop) : Prop where
  nil : T []
  part : ∀ {a b : List Char}, a <:+: b → T b → T a
  lines : ∀ {a b : List Char}, T a → T b → T (a ++ '\n' :: b)

/-- The texts of a node have a property. A node without a text of its own has no value either. -/
structure Node.Stored (T : List Char → Prop) (n : Node) : Prop where
  properties : ∀ property ∈ n.anchor.toList ++ n.tag.toList, T property.toList
  text : n.raw = none ∧ n.value = "" ∨ ∃ raw, n.raw = some raw ∧ T raw.toList
  head : T n.headComment.toList
  trail : T n.lineComment.toList
  foot : T n.footComment.toList

/-- The text of a line has a property. -/
structure Line.Stored (T : List Char → Prop) (l : Line) : Prop where
  raw : T l.raw
  text : l.text <:+: l.raw

section

variable {T : List Char → Prop} (hT : IsTextual T)

include hT

theorem IsTextual.joinWith {parts : List (List Char)} (h : ∀ part ∈ parts, T part) :
    T (Text.joinWith ['\n'] parts) := by
  fun_induction Text.joinWith ['\n'] parts with
  | case1 => exact hT.nil
  | case2 part => exact h part (by simp)
  | case3 part next parts ih =>
    rw [List.append_assoc]
    exact hT.lines (h part (by simp)) (ih fun p hp => h p (by simp [hp]))

theorem IsTextual.joinPending {ps : List Pending} (h : ∀ p ∈ ps, T p.text) :
    T (joinPending ps).toList := by
  rw [Manifest.joinPending, String.toList_ofList]
  refine hT.joinWith fun part hpart => ?_
  obtain ⟨p, hp, rfl⟩ := List.mem_map.1 hpart
  exact h p hp

/-- A text that goes on over lines. -/
theorem IsTextual.flatMap {text : List Char} {lines : List Line} (htext : T text)
    (hlines : ∀ l ∈ lines, T l.raw) : T (text ++ lines.flatMap fun l => '\n' :: l.raw) := by
  induction lines generalizing text with
  | nil => simpa using htext
  | cons l lines ih =>
    rw [List.flatMap_cons, ← List.append_assoc]
    exact ih (hT.lines htext (hlines l (by simp))) fun l hl => hlines l (by simp [hl])

/-! ### Scalars -/

theorem stored_of_flowScalar {number : Nat} {depth : Int} {text raw : List Char}
    {lines rest : List Line} (h : flowScalar number depth text lines = .ok (raw, rest))
    (htext : T text) (hlines : ∀ l ∈ lines, T l.raw) : T raw := by
  induction lines generalizing depth text with
  | nil =>
    unfold flowScalar at h
    split at h
    · cases h
    · cases h
      exact htext
  | cons l lines ih =>
    unfold flowScalar at h
    split at h
    · exact ih h (hT.lines htext (hlines l (by simp))) fun l hl => hlines l (by simp [hl])
    · cases h
      exact htext

theorem stored_of_quotedLines {number : Nat} {text raw : List Char}
    {closing : Option (Line × List Char)} {lines rest : List Line}
    (h : quotedLines number text lines = .ok (raw, closing, rest)) (htext : T text)
    (hlines : ∀ l ∈ lines, T l.raw) :
    T raw ∧ ∀ l comment, closing = some (l, comment) → T comment := by
  induction lines generalizing text with
  | nil => cases h
  | cons l lines ih =>
    have hmore : T (text ++ '\n' :: l.raw) := hT.lines htext (hlines l (by simp))
    unfold quotedLines at h
    dsimp only at h
    split at h
    · exact ih h hmore fun l hl => hlines l (by simp [hl])
    · next quoted after hclosed =>
      have hsplit := (quotes_splitQuoted? hclosed).1
      have hquoted : T quoted := hT.part ⟨[], after, by simp [hsplit]⟩ hmore
      have hafter : T (Text.trim after) :=
        hT.part ((infix_trim after).trans ⟨quoted, [], by simp [hsplit]⟩) hmore
      split at h
      · cases h
        exact ⟨hquoted, by simp⟩
      · cases h
        refine ⟨hquoted, fun l comment heq => ?_⟩
        cases heq
        exact hafter
      · cases h

theorem stored_of_quotedScalar {number : Nat} {text raw : List Char}
    {closing : Option (Line × List Char)} {lines rest : List Line}
    (h : quotedScalar number text lines = .ok (raw, closing, rest)) (htext : T text)
    (hlines : ∀ l ∈ lines, T l.raw) :
    T raw ∧ ∀ l comment, closing = some (l, comment) → T comment := by
  unfold quotedScalar at h
  split at h
  · cases h
    exact ⟨htext, by simp⟩
  · exact stored_of_quotedLines hT h htext hlines

omit hT in
theorem mem_of_mem_blockLines {parent : Nat} {lines : List Line} {l : Line}
    (h : l ∈ blockLines parent lines) : l ∈ lines := by
  rw [blockLines, List.mem_reverse] at h
  have hmem := (List.dropWhile_subset _) h
  rw [List.mem_reverse] at hmem
  exact (List.takeWhile_subset _) hmem

/-- The text and the comment of a scalar. -/
theorem stored_of_scalarNode {v : InlineValue} {line : Line} {parent column : Nat}
    {lines rest : List Line} {n : Node}
    (h : scalarNode v line parent column lines = .ok (n, rest)) (htext : T v.text)
    (hcomment : T v.comment)
    (hproperties : ∀ property ∈ v.anchor.toList ++ v.tag.toList, T property)
    (hlines : ∀ l ∈ lines, T l.raw) : n.Stored T := by
  have hnil : T "".toList := hT.nil
  have hall : ∀ property ∈ (v.anchor.map String.ofList).toList ++ (v.tag.map String.ofList).toList,
      T property.toList := by
    intro property hmem
    simp only [Option.toList_map, ← List.map_append] at hmem
    obtain ⟨p, hp, rfl⟩ := List.mem_map.1 hmem
    rw [String.toList_ofList]
    exact hproperties p hp
  have hstored {raw comment : List Char} (hraw : T raw) (hcomment : T comment) (style : ScalarStyle)
      (value : String) (position : Option Point) :
      Node.Stored T
        { kind := .scalar
          line := line.number
          column
          style
          tag := v.tag.map String.ofList
          anchor := v.anchor.map String.ofList
          value
          raw := some (String.ofList raw)
          lineComment := String.ofList comment
          linePosition := position } := by
    refine ⟨hall, .inr ⟨_, rfl, ?_⟩, hnil, ?_, hnil⟩
    · rwa [String.toList_ofList]
    · rwa [String.toList_ofList]
  have hblock : T (v.text ++ (blockLines parent lines).flatMap fun l => '\n' :: l.raw) :=
    hT.flatMap htext fun l hl => hlines l (mem_of_mem_blockLines hl)
  unfold scalarNode at h
  dsimp only at h
  split at h
  · cases h
    exact hstored hblock hcomment _ _ _
  · cases h
    exact hstored hblock hcomment _ _ _
  · split at h
    · next raw rest' hflow =>
      cases h
      exact hstored (stored_of_flowScalar hT hflow htext hlines) hcomment _ _ _
    · cases h
  · cases h
    refine hstored (hT.flatMap htext fun l hl => hlines l ?_) hcomment _ _ _
    exact (List.takeWhile_subset _) hl
  all_goals
    split at h
    · cases h
    · next raw closing rest' hquoted =>
      obtain ⟨hraw, hclosing⟩ := stored_of_quotedScalar hT hquoted htext hlines
      split at h
      · cases h
      · cases h
        cases closing with
        | none => exact hstored hraw hcomment _ _ _
        | some closing => exact hstored hraw (hclosing _ _ rfl) _ _ _

/-! ### The builder -/

/-- What is read stores texts of the source. -/
theorem lasting_stored :
    Lasting (Node.Stored T) (Line.Stored T) (fun p => T p.text) where
  pending hline _ := hT.part hline.text hline.raw
  dash {l} _ hline _ := ⟨hline.raw, (infix_dash l).trans hline.text⟩
  collection _ _ _ := ⟨by simp [emptyCollection], .inl ⟨rfl, rfl⟩, hT.nil, hT.nil, hT.nil⟩
  missing _ _ := ⟨by simp [missingNode], .inr ⟨_, rfl, hT.nil⟩, hT.nil, hT.nil, hT.nil⟩
  key {line text rest} _ _ hline hkey := by
    have htext : T text :=
      hT.part ((prefix_splitKey? hkey).isInfix.trans hline.text) hline.raw
    refine ⟨by simp [plainKey], .inr ⟨_, rfl, ?_⟩, hT.nil, hT.nil, hT.nil⟩
    rwa [String.toList_ofList]
  scalar {line lines rest text parent column n} hline hlines htext hn := by
    have hpart {part : List Char} (h : part <:+: text) : T part :=
      hT.part ((h.trans htext).trans hline.text) hline.raw
    exact stored_of_scalarNode hT hn (hpart (infix_text_splitValue text))
      (hpart (infix_splitValue text))
      (fun property hmem => hpart (infix_property_splitValue text property hmem))
      fun l hl => (hlines l hl).raw
  head hn hps := ⟨hn.properties, hn.text, hT.joinPending hps, hn.trail, hn.foot⟩
  trail {n line text} hn hline htext := by
    refine ⟨hn.properties, hn.text, hn.head, ?_, hn.foot⟩
    rw [String.toList_ofList]
    exact hT.part (((infix_splitValue text).trans htext).trans hline.text) hline.raw
  properties {n line text} hn hline htext := by
    refine ⟨fun property hmem => ?_, hn.text, hn.head, hn.trail, hn.foot⟩
    have hnew : ∀ p ∈ (splitValue text).anchor.toList ++ (splitValue text).tag.toList,
        T (String.ofList p).toList := by
      intro p hp
      rw [String.toList_ofList]
      have hpart := (infix_property_splitValue text p hp).trans htext
      exact hT.part (hpart.trans hline.text) hline.raw
    have hor {new : Option (List Char)} {old : Option String}
        (h : property ∈ ((new.map String.ofList).or old).toList) :
        property ∈ old.toList ∨ ∃ p ∈ new.toList, String.ofList p = property := by
      cases new <;> simp_all
    rcases List.mem_append.1 hmem with hmem | hmem
    · rcases hor hmem with hold | ⟨p, hp, rfl⟩
      · exact hn.properties property (List.mem_append_left _ hold)
      · exact hnew p (List.mem_append_left _ hp)
    · rcases hor hmem with hold | ⟨p, hp, rfl⟩
      · exact hn.properties property (List.mem_append_right _ hold)
      · exact hnew p (List.mem_append_right _ hp)
  foot {n ps} hn hps _ := by
    refine ⟨hn.properties, hn.text, hn.head, hn.trail, ?_⟩
    have hjoin := hT.joinPending hps
    dsimp only
    split
    · simpa using hjoin
    · simpa using hT.lines hn.foot hjoin
  content _ hn := ⟨hn.properties, hn.text, hn.head, hn.trail, hn.foot⟩

/-! ### Manifests -/

theorem stored_of_line {number : Nat} {source : List Char} (h : T source) :
    (Line.of number source).Stored T := by
  have hraw : dropCarriageReturn source <:+: source := (prefix_dropCarriageReturn source).isInfix
  exact ⟨hT.part hraw h, (Text.trimEnd_prefix _).isInfix.trans (List.dropWhile_suffix _).isInfix⟩

theorem stored_numberLines (number : Nat) {parts : List (List Char)} (h : ∀ part ∈ parts, T part) :
    ∀ l ∈ numberLines number parts, l.Stored T := by
  induction parts generalizing number with
  | nil => simp [numberLines]
  | cons part parts ih =>
    intro l hl
    rcases List.mem_cons.1 hl with rfl | hl
    · exact stored_of_line hT (h part (by simp))
    · exact ih _ (fun p hp => h p (by simp [hp])) l hl

omit hT in
theorem stored_of_chunkLines {lines chunk : List Line} {chunks : List (Bool × List Line)}
    (h : chunkLines lines = .ok (chunk, chunks)) (hlines : ∀ l ∈ lines, l.Stored T) :
    (∀ l ∈ chunk, l.Stored T) ∧ ∀ c ∈ chunks, ∀ l ∈ c.2, l.Stored T := by
  induction lines generalizing chunk chunks with
  | nil =>
    cases h
    exact ⟨by simp, by simp⟩
  | cons line lines ih =>
    have hline := hlines line (by simp)
    have hmore : ∀ l ∈ lines, l.Stored T := fun l hl => hlines l (by simp [hl])
    unfold chunkLines at h
    split at h
    · dsimp only at h
      split at h
      · cases h
      · next first hfirst =>
        split at h
        · cases h
        · next chunk' chunks' hrest =>
          cases h
          obtain ⟨hchunk, hchunks⟩ := ih hrest hmore
          -- a comment behind an indicator is the first line of the document that starts there
          refine ⟨by simp, fun c hc l hl => ?_⟩
          rcases List.mem_cons.1 hc with rfl | hc
          · rcases List.mem_append.1 hl with hl | hl
            · split at hfirst
              · cases hfirst
                cases hl
              · cases hfirst
                obtain rfl := List.mem_singleton.1 hl
                exact ⟨hline.raw, ((infix_trim _).trans (List.drop_suffix _ _).isInfix).trans
                  hline.text⟩
              · cases hfirst
            · exact hchunk l hl
          · exact hchunks c hc l hl
    · exact ih h hmore
    · split at h
      · cases h
      · next chunk' chunks' hrest =>
        cases h
        obtain ⟨hchunk, hchunks⟩ := ih hrest hmore
        refine ⟨fun l hl => ?_, hchunks⟩
        rcases List.mem_cons.1 hl with rfl | hl
        · exact hline
        · exact hchunk l hl

/-- What holds of the lines of a text holds of the texts that are stored with nodes and with
documents. -/
theorem stored_of_parse {text : String} {m : Manifest} (h : parse text = .ok m)
    (htext : ∀ line ∈ Text.lines text.toList, T line) :
    (∀ id n, m.node? id = some n → n.Stored T) ∧
      ∀ root ∈ m.documents, T root.comment.toList := by
  have hlines := stored_numberLines hT 1 htext
  unfold parse at h
  split at h
  · cases h
  · unfold ofLayout at h
    split at h
    · cases h
    · next chunks hchunks =>
      have hall : ∀ c ∈ chunks, ∀ l ∈ c.2, l.Stored T := by
        unfold documentLines at hchunks
        split at hchunks
        · cases hchunks
        · next first hfirst =>
          cases hchunks
          simpa using (stored_of_chunkLines hfirst hlines).1
        · next first chunks' _ hfirst =>
          obtain ⟨hchunk, hrest⟩ := stored_of_chunkLines hfirst hlines
          cases hchunks
          split
          · exact hrest
          · intro c hc
            rcases List.mem_cons.1 hc with rfl | hc
            · exact hchunk
            · exact hrest c hc
      split at h
      · cases h
      · next documents nodes hdocuments =>
        cases h
        obtain ⟨hnodes, hroots⟩ := each_of_readDocuments (lasting_stored hT) hdocuments (by simp)
          fun c hc => isChunk_of_forall (hall c hc)
        refine ⟨hnodes, fun root hroot => ?_⟩
        obtain ⟨ps, hps, heq⟩ := hroots root hroot
        rw [heq]
        exact hT.joinPending hps

end

end ManifestMarkers.Manifest
