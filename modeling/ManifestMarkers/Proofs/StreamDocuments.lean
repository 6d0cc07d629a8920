import ManifestMarkers.Proofs.BlockLayouts
import ManifestMarkers.Yaml.Value

/-!
# Streams of one document

A document ends where the tokens of its node end, and only a document that is marked may follow. So
a stream without directives and indicators has at most one document.

* `Parse.Forward`: a reader leaves the last of its tokens. All readers do (`Parse.forward_node`).
* `Parse.length_documents_le_one`: a stream of content tokens has at most one document.
* `isContent_of_spells`: the tokens of a block layout are content tokens.
* `exists_decode?_of_spells`: the value of a text depends on its parts alone.
-/

namespace ManifestMarkers.Yaml

namespace Parse

/-! ### Readers go forward -/

/-- The reader leaves the last of the tokens. -/
def Forward (read : NodeReader) : Prop := ∀ p p', read p = some p' → p'.tokens <:+ p.tokens

theorem skip_suffix (p : Parse) : p.skip.tokens <:+ p.tokens := List.drop_suffix 1 p.tokens

section

variable {read read' : NodeReader} {ends : List Token} {p p' : Parse}

theorem Forward.bind (h : Forward read) (h' : Forward read') :
    Forward fun p => (read p).bind read' := by
  intro p p' hp
  obtain ⟨q, hq, hp'⟩ := Option.bind_eq_some_iff.1 hp
  exact (h' q p' hp').trans (h p q hq)

theorem Forward.skip (h : Forward read) : Forward fun p => read p.skip :=
  fun p p' hp => (h p.skip p' hp).trans p.skip_suffix

theorem forward_emitEmpty : Forward fun p => some p.emitEmpty := by
  rintro p _ ⟨⟩
  exact List.suffix_refl _

theorem forward_close (e : Event) : Forward fun p => some (p.skip.emit e) := by
  rintro p _ ⟨⟩
  exact p.skip_suffix

variable (h : Forward read)

include h

theorem Forward.nodeUnless (ends : List Token) : Forward (nodeUnless ends read) := by
  intro p p' hp
  unfold Parse.nodeUnless at hp
  split at hp
  · exact forward_emitEmpty p p' hp
  · exact h p p' hp

theorem Forward.blockSequence (fuel : Nat) : Forward (blockSequence read fuel) := by
  induction fuel with
  | zero => nofun
  | succ fuel ih =>
    intro p p' hp
    unfold Parse.blockSequence at hp
    split at hp
    · exact ((h.nodeUnless _).skip.bind ih) p p' hp
    · exact forward_close _ p p' hp
    · cases hp

theorem Forward.indentlessSequence (fuel : Nat) : Forward (indentlessSequence read fuel) := by
  induction fuel with
  | zero => nofun
  | succ fuel ih =>
    intro p p' hp
    unfold Parse.indentlessSequence at hp
    split at hp
    · exact ((h.nodeUnless _).skip.bind ih) p p' hp
    · cases hp
      exact List.suffix_refl _

theorem Forward.blockValue : Forward (blockValue read) := by
  intro p p' hp
  unfold Parse.blockValue at hp
  split at hp
  · exact (h.nodeUnless _).skip p p' hp
  · exact forward_emitEmpty p p' hp

theorem Forward.blockMapping (fuel : Nat) : Forward (blockMapping read fuel) := by
  induction fuel with
  | zero => nofun
  | succ fuel ih =>
    intro p p' hp
    unfold Parse.blockMapping at hp
    split at hp
    · exact (((h.nodeUnless _).skip.bind h.blockValue).bind ih) p p' hp
    · exact forward_close _ p p' hp
    · cases hp

omit h in
theorem forward_flowComma (isFirst : Bool) : Forward (flowComma isFirst) := by
  intro p p' hp
  unfold flowComma at hp
  split at hp
  · cases hp
    exact List.suffix_refl _
  · split at hp
    · cases hp
      exact p.skip_suffix
    · cases hp

theorem Forward.flowPair : Forward (flowPair read) := by
  intro p p' hp
  unfold Parse.flowPair at hp
  dsimp only at hp
  -- the value behind the key
  have hvalue {q : Parse} (hq : ((Parse.nodeUnless [.flowEntry, .flowSequenceEnd] read q.skip).bind
      fun r => some (r.emit .mappingEnd)) = some p') : p'.tokens <:+ q.tokens := by
    obtain ⟨r, hr, heq⟩ := Option.bind_eq_some_iff.1 hq
    cases heq
    exact (h.nodeUnless _).skip q r hr
  split at hp
  · obtain ⟨q, hq, hp⟩ := Option.bind_eq_some_iff.1 hp
    cases hq
    split at hp
    · exact (hvalue hp).trans p.skip_suffix
    · cases hp
      exact p.skip_suffix
  · obtain ⟨q, hq, hp⟩ := Option.bind_eq_some_iff.1 hp
    have hkey : q.tokens <:+ p.tokens := h (p.emit (.mappingStart {})) q hq
    split at hp
    · exact (hvalue hp).trans hkey
    · cases hp
      exact hkey

theorem Forward.flowSequence (fuel : Nat) (isFirst : Bool) :
    Forward (flowSequence read fuel isFirst) := by
  induction fuel generalizing isFirst with
  | zero => nofun
  | succ fuel ih =>
    intro p p' hp
    unfold Parse.flowSequence at hp
    split at hp
    · exact forward_close _ p p' hp
    · obtain ⟨q, hq, hp⟩ := Option.bind_eq_some_iff.1 hp
      have hcomma := forward_flowComma isFirst p q hq
      split at hp
      · exact (forward_close _ q p' hp).trans hcomma
      · exact ((h.flowPair.skip.bind (ih false)) q p' hp).trans hcomma
      · exact ((h.bind (ih false)) q p' hp).trans hcomma

theorem Forward.flowValue : Forward (flowValue read) := by
  intro p p' hp
  unfold Parse.flowValue at hp
  split at hp
  · exact (h.nodeUnless _).skip p p' hp
  · exact forward_emitEmpty p p' hp

theorem Forward.flowMapping (fuel : Nat) (isFirst : Bool) :
    Forward (flowMapping read fuel isFirst) := by
  induction fuel generalizing isFirst with
  | zero => nofun
  | succ fuel ih =>
    intro p p' hp
    unfold Parse.flowMapping at hp
    split at hp
    · exact forward_close _ p p' hp
    · obtain ⟨q, hq, hp⟩ := Option.bind_eq_some_iff.1 hp
      have hcomma := forward_flowComma isFirst p q hq
      split at hp
      · exact (forward_close _ q p' hp).trans hcomma
      · obtain ⟨r, hr, hp⟩ := Option.bind_eq_some_iff.1 hp
        have hkey := (h.nodeUnless _).skip q r hr
        exact (((h.flowValue.bind (ih false)) r p' hp).trans hkey).trans hcomma
      · obtain ⟨r, hr, hp⟩ := Option.bind_eq_some_iff.1 hp
        have hmore : p'.tokens <:+ r.tokens := ih false r.emitEmpty p' hp
        exact (hmore.trans (h q r hr)).trans hcomma

end

theorem readProperties_suffix {handles : Handles} {p p' : Parse} {props : Properties}
    (h : readProperties handles p = some (props, p')) : p'.tokens <:+ p.tokens := by
  have hskips : p.skip.skip.tokens <:+ p.tokens := p.skip.skip_suffix.trans p.skip_suffix
  unfold readProperties at h
  split at h
  · obtain ⟨tag, -, heq⟩ := Option.map_eq_some_iff.1 h
    cases heq
    exact hskips
  · obtain ⟨tag, -, heq⟩ := Option.map_eq_some_iff.1 h
    cases heq
    exact hskips
  · cases h
    exact p.skip_suffix
  · obtain ⟨tag, -, heq⟩ := Option.map_eq_some_iff.1 h
    cases heq
    exact p.skip_suffix
  · cases h
    exact List.suffix_refl _

/-- Every node leaves the tokens behind it. -/
theorem forward_node (handles : Handles) (fuel : Nat) (block indentless : Bool) :
    Forward (node handles fuel block indentless) := by
  induction fuel generalizing block indentless with
  | zero => nofun
  | succ fuel ih =>
    intro p p' hp
    unfold node at hp
    dsimp only at hp
    split at hp
    · exact forward_close _ p p' hp
    · obtain ⟨⟨props, q⟩, hq, hp⟩ := Option.bind_eq_some_iff.1 hp
      have hprops := readProperties_suffix hq
      refine List.IsSuffix.trans ?_ hprops
      split at hp
      · have hentries := (ih true false).indentlessSequence _ _ p' hp
        exact hentries
      · exact forward_close _ q p' hp
      · exact ((ih false false).flowSequence _ _ _ p' hp).trans q.skip_suffix
      · exact ((ih false false).flowMapping _ _ _ p' hp).trans q.skip_suffix
      · exact ((ih true false).blockSequence _ _ p' hp).trans q.skip_suffix
      · exact ((ih true true).blockMapping _ _ p' hp).trans q.skip_suffix
      · split at hp
        · cases hp
        · cases hp
          exact List.suffix_refl _

end Parse

/-! ### One document -/

/-- The token is neither a directive nor an indicator. -/
def Token.IsContent : Token → Prop
  | .versionDirective _ _ | .tagDirective _ _ | .documentStart | .documentEnd => False
  | _ => True

namespace Parse

variable {ts rest : List Token} {isFirst : Bool} {events : List Event}

/-- Only the first document has no indicator in front. -/
theorem suffix_of_document (hts : ∀ t ∈ ts, t.IsContent)
    (h : document isFirst ts = some (events, rest)) : isFirst = true ∧ rest <:+ ts := by
  unfold document at h
  dsimp only at h
  split at h
  · exact (hts _ List.mem_cons_self).elim
  · exact (hts _ List.mem_cons_self).elim
  · exact (hts _ List.mem_cons_self).elim
  · split at h
    · next hfirst =>
      obtain ⟨p, hp, heq⟩ := Option.map_eq_some_iff.1 h
      cases heq
      have hleft : p.tokens <:+ ts := forward_node _ _ _ _ _ p hp
      refine ⟨hfirst, List.IsSuffix.trans ?_ hleft⟩
      unfold skipEnd
      split
      · next ts hts =>
        rw [hts]
        exact List.suffix_cons _ _
      · exact List.suffix_refl _
    · cases h

/-- A stream of content tokens has at most one document. -/
theorem length_documents_le_one {fuel : Nat} {docs : List (List Event)}
    (hts : ∀ t ∈ ts, t.IsContent) (h : documents fuel true ts = some docs) : docs.length ≤ 1 := by
  cases fuel with
  | zero => cases h
  | succ fuel =>
    rw [documents, if_pos rfl] at h
    dsimp only at h
    split at h
    · cases h
      exact Nat.zero_le _
    · obtain ⟨⟨events, rest⟩, hfirst, h⟩ := Option.bind_eq_some_iff.1 h
      obtain ⟨more, hmore, h⟩ := Option.bind_eq_some_iff.1 h
      cases h
      have hrest := (suffix_of_document hts hfirst).2
      have hnone : more = [] := by
        cases fuel with
        | zero => cases hmore
        | succ fuel =>
          rw [documents, if_neg Bool.false_ne_true] at hmore
          dsimp only at hmore
          split at hmore
          · cases hmore
            rfl
          · obtain ⟨⟨events', rest'⟩, hsecond, -⟩ := Option.bind_eq_some_iff.1 hmore
            have hleft : rest.dropWhile (· == .documentEnd) <:+ rest := List.dropWhile_suffix _
            cases (suffix_of_document (fun t ht => hts t (hrest.subset (hleft.subset ht)))
              hsecond).1
      rw [hnone]
      exact Nat.le_refl _

end Parse

/-! ### Block layouts -/

/-- The token of the part is a content token. -/
def Part.IsContent : Part → Prop
  | .dash _ => True
  | .key _ token | .scalar token => token.IsContent

theorem LineScalar.isContent {raw : List Char} {token : Token} (h : LineScalar raw token) :
    token.IsContent := by
  cases h with
  | plain => trivial
  | quoted => trivial

theorem isContent_of_spells {short : Prop} {column : Nat} {inline : Bool} {behind : Behind}
    {text : List Char} {parts : List Part} (h : Spells short column inline behind text parts) :
    ∀ part ∈ parts, part.IsContent := by
  induction h with
  | last => nofun
  | line k hremark h ih => exact ih
  | dash k hbehind hgap h ih => exact List.forall_mem_cons.2 ⟨trivial, ih⟩
  | key k j hname hlength hmarker hbehind hgap h ih =>
    exact List.forall_mem_cons.2 ⟨hname.isContent, ih⟩
  | scalar k hraw hmark hgap h ih => exact List.forall_mem_cons.2 ⟨hraw.isContent, ih⟩

namespace Nest

/-- All tokens so far are content tokens. -/
def IsContent (n : Nest) : Prop := ∀ t ∈ n.tokens, t.IsContent

variable {n : Nest}

theorem IsContent.push (h : n.IsContent) {t : Token} (ht : t.IsContent) : (n.push t).IsContent := by
  intro t' ht'
  rcases Array.mem_push.1 ht' with hmem | rfl
  · exact h t' hmem
  · exact ht

theorem IsContent.enter (h : n.IsContent) (column : Nat) {t : Token} (ht : t.IsContent) :
    (n.enter column t).IsContent := by
  unfold Nest.enter
  split
  · exact h
  · exact h.push ht

theorem isContent_unrollFrom {tokens : Array Token} (h : ∀ t ∈ tokens, t.IsContent)
    (column indent : Int) (outer : List Int) :
    ∀ t ∈ (Scan.unrollFrom column indent tokens outer).2.2, t.IsContent := by
  induction outer generalizing indent tokens with
  | nil => exact h
  | cons i outer ih =>
    rw [Scan.unrollFrom]
    split
    · refine ih (fun t ht => ?_) i
      rcases Array.mem_push.1 ht with hmem | rfl
      · exact h t hmem
      · trivial
    · exact h

theorem IsContent.close (h : n.IsContent) (column : Int) : (n.close column).IsContent :=
  isContent_unrollFrom h column n.indent n.outer

theorem IsContent.add (h : n.IsContent) {part : Part} (hpart : part.IsContent) :
    (n.add part).IsContent := by
  cases part with
  | dash column =>
    have hopen := (h.close column).enter column (t := .blockSequenceStart) trivial
    exact hopen.push trivial
  | key column name =>
    have hopen := (h.close column).enter column (t := .blockMappingStart) trivial
    exact ((hopen.push (t := .key) trivial).push hpart).push trivial
  | scalar token => exact h.push hpart

theorem IsContent.foldl (h : n.IsContent) {parts : List Part}
    (hparts : ∀ part ∈ parts, part.IsContent) : (parts.foldl Nest.add n).IsContent := by
  induction parts generalizing n with
  | nil => exact h
  | cons part parts ih =>
    obtain ⟨hpart, hmore⟩ := List.forall_mem_cons.1 hparts
    exact ih (h.add hpart) hmore

end Nest

/-- A text of parts has one value at most, and another text of the same parts has the same one. -/
theorem exists_decode?_of_spells {short : Prop} {text text' : List Char} {parts : List Part}
    {values : List Value} (h : Spells short 0 true .nothing text parts)
    (h' : Spells True 0 true .nothing text' parts) (hvalues : decodeAll? text = some values) :
    ∃ v, decode? text = some v ∧ decode? text' = some v := by
  obtain ⟨docs, hdocs, hvalues⟩ := Option.bind_eq_some_iff.1 hvalues
  have hscan' : scan? text' = some (parts.foldl Nest.add {}).finish.toList :=
    (scan?_of_spells h').resolve_right (by simp)
  have hscan : scan? text = some (parts.foldl Nest.add {}).finish.toList := by
    refine (scan?_of_spells h).resolve_right fun hnone => ?_
    rw [documents?, hnone.2] at hdocs
    cases hdocs
  have hdocs' : documents? text' = some docs := by
    rw [← hdocs, documents?, documents?, hscan, hscan']
  have hcontent : ∀ t ∈ (parts.foldl Nest.add {}).finish.toList, t.IsContent := by
    have hempty : Nest.IsContent {} := by simp [Nest.IsContent]
    have hall := (hempty.foldl (isContent_of_spells h)).close (-1)
    exact fun t ht => hall t (Array.mem_toList_iff.1 ht)
  have hone : docs.length ≤ 1 := by
    rw [documents?, hscan] at hdocs
    exact Parse.length_documents_le_one hcontent hdocs
  have hvalue : ∃ v, decode? text = some v := by
    rw [decode?, hdocs]
    match docs, hone with
    | [], _ => exact ⟨.null, rfl⟩
    | [events], _ =>
      rw [List.mapM_cons] at hvalues
      obtain ⟨v, hv, -⟩ := Option.bind_eq_some_iff.1 hvalues
      exact ⟨v, hv⟩
  obtain ⟨v, hv⟩ := hvalue
  refine ⟨v, hv, ?_⟩
  rw [← hv, decode?, decode?, hdocs, hdocs']

end ManifestMarkers.Yaml
