import ManifestMarkers.Proofs.LexemePlace

/-!
# Positions of lexemes

The lexer moves its place along with the characters that it reads and never counts anew. Still every
lexeme names the place that counting from the start of the text gives.

* `Point.Counts` is a place counted from the text before it; `Point.counts_after` says that moving
  along gives the same.
* `Reading.Ordered` is the order of the lexemes of one step, `Reading.pairwise_toEnd` that of a run.
* `lex_positions`: places are exact and in order, the text there spells the lexeme, and messages
  name their place.
-/

namespace ManifestMarkers

namespace Point

/-- The place behind the text `before`, counted from its start: the line feeds, the characters since
the last one, and the bytes. -/
structure Counts (p : Point) (before : List Char) : Prop where
  line : p.line = before.count '\n' + 1
  column : p.column = (before.reverse.takeWhile (· ≠ '\n')).length + 1
  offset : p.offset = Text.byteSize before

theorem Counts.next {p : Point} {before : List Char} (h : p.Counts before) (c : Char) :
    (p.next c).Counts (before ++ [c]) := by
  have hoffset : (p.next c).offset = Text.byteSize (before ++ [c]) := by
    rw [offset_next, h.offset, Text.byteSize_append, Text.byteSize_cons, Text.byteSize_nil,
      Nat.add_zero]
  by_cases hc : c = '\n'
  · subst hc
    exact ⟨by simp [Point.next, h.line], by simp [Point.next], hoffset⟩
  · exact ⟨by simp [Point.next, hc, h.line], by simp [Point.next, hc, h.column], hoffset⟩

/-- Moving along a text counts it. -/
theorem counts_after (before : List Char) : (origin.after before).Counts before := by
  suffices hmore : ∀ (p : Point) (done cs : List Char), p.Counts done →
      (p.after cs).Counts (done ++ cs) by
    exact hmore origin [] before ⟨rfl, rfl, rfl⟩
  intro p done cs h
  induction cs generalizing p done with
  | nil => simpa using h
  | cons c cs ih => simpa using ih (p.next c) (done ++ [c]) (h.next c)

end Point

namespace Lexeme

/-- Where lexemes stand, in bytes. -/
def offsets (ls : List Lexeme) : List Nat := ls.map fun l => l.position.offset

namespace Reading

/-! ### One lemma per reader -/

/-- The lexemes `e` stand in order, from the place of `r` up to the place of `n`. -/
def Ordered (r : Reading) (e : List Lexeme) (n : Reading) : Prop :=
  (r.point.offset :: (offsets e ++ [n.point.offset])).Pairwise (· ≤ ·)

section

variable {r n : Reading} {e : List Lexeme} {m : Mode}

theorem ordered_skip (read : List Char) (hp : n.point = r.point.after read) : r.Ordered [] n := by
  have hle : r.point.offset ≤ n.point.offset := by rw [hp, Point.offset_after]; omega
  simpa [Ordered, offsets] using hle

/-- One lexeme, with `before` in front of it and `more` from there on. -/
theorem ordered_single (before more : List Char) {l : Lexeme}
    (hl : l.position = r.point.after before) (hn : n.point = r.point.after (before ++ more)) :
    r.Ordered [l] n := by
  have hfirst : r.point.offset ≤ l.position.offset := by rw [hl, Point.offset_after]; omega
  have hlast : l.position.offset ≤ n.point.offset := by
    rw [hl, hn, Point.after_append, Point.offset_after _ more]
    omega
  have hboth : r.point.offset ≤ n.point.offset := Nat.le_trans hfirst hlast
  simpa [Ordered, offsets] using ⟨⟨hfirst, hboth⟩, hlast⟩

/-- Two lexemes, the first one at the place of `r`. -/
theorem ordered_pair (read more : List Char) {l l' : Lexeme} (hl : l.position = r.point)
    (hl' : l'.position = r.point.after read) (hn : n.point = r.point.after (read ++ more)) :
    r.Ordered [l, l'] n := by
  have hsecond := ordered_single read more hl' hn
  simpa [Ordered, offsets, hl] using hsecond

theorem ordered_readComment {sign : CommentSign} {cs : List Char}
    (h : r.readComment sign cs = .go e n) : r.Ordered e n := by
  unfold readComment at h
  dsimp only at h
  split at h
  · split at h
    · cases h
      exact ordered_pair (sign.chars ++ cs.takeWhile isGap) ['+'] rfl rfl (by simp)
    · cases h
      exact ordered_skip _ rfl
  · cases h
    exact ordered_skip _ rfl

theorem ordered_readText (h : r.readText = .go e n) : r.Ordered e n := by
  unfold readText at h
  split at h
  · cases h
  · cases h
    exact ordered_skip _ rfl
  · exact ordered_readComment h
  · exact ordered_readComment h
  · split at h
    · cases h
      exact ordered_single [] ['+'] rfl rfl
    · cases h
      exact ordered_skip _ rfl
  · cases h
    exact ordered_skip _ rfl

theorem ordered_readHeader {hasScope : Bool} (h : r.readHeader hasScope = .go e n) :
    r.Ordered e n := by
  unfold readHeader at h
  split at h
  · cases h
  · next c cs _ =>
    split at h
    · dsimp only at h
      split at h
      · cases h
        exact ordered_pair (c :: cs.takeWhile isIdentChar) [':'] rfl rfl (by simp)
      · split at h
        · cases h
          exact ordered_single [] (c :: cs.takeWhile isIdentChar) rfl rfl
        · -- a warning stands behind the identifier
          cases h
          exact ordered_single (c :: cs.takeWhile isIdentChar) [] rfl (by simp)
    · cases h

theorem ordered_readAfterArg (h : r.readAfterArg = .go e n) : r.Ordered e n := by
  unfold readAfterArg at h
  split at h
  · cases h
    exact ordered_skip _ rfl
  · cases h
    exact ordered_single [] [] rfl rfl

theorem ordered_readBare (gap rest : List Char) {inSlice : Bool}
    (h : (r.skip gap rest).readBare inSlice m = .go e n) : r.Ordered e n := by
  unfold readBare at h
  cases h
  exact ordered_single gap (rest.takeWhile (isBare inSlice)) rfl (by simp)

theorem ordered_readQuoted (gap rest : List Char) {quote : Char} {cs : List Char}
    (h : (r.skip gap rest).readQuoted quote cs m = .go e n) : r.Ordered e n := by
  unfold readQuoted at h
  dsimp only at h
  split at h
  · next q _ =>
    cases h
    exact ordered_single gap (quote :: q.source) rfl (by simp)
  · cases h

theorem ordered_readValue (h : r.readValue = .go e n) : r.Ordered e n := by
  unfold readValue at h
  split at h
  · cases h
  · next c cs hr =>
    split at h
    · exact ordered_readQuoted [] (c :: cs) (by simpa [skip, ← hr] using h)
    · split at h
      · cases h
        exact ordered_single [] [c] rfl rfl
      · split at h
        · cases h
        · exact ordered_readBare [] r.rest h

theorem ordered_readAfterValue (h : r.readAfterValue = .go e n) : r.Ordered e n := by
  unfold readAfterValue at h
  split at h
  · cases h
    exact ordered_single [] [] rfl rfl
  · next c cs _ =>
    split at h
    · cases h
      exact ordered_single [] (unit (c :: cs)) rfl rfl
    · split at h
      · cases h
        exact ordered_single [] (c :: cs.takeWhile isGap) rfl rfl
      · split at h
        · dsimp only at h
          split at h
          · next d ds _ _ =>
            split at h
            · cases h
              exact ordered_single [c] (d :: ds.takeWhile isIdentChar) rfl (by simp)
            · cases h
          · cases h
        · cases h

theorem ordered_readSliceItem (gap rest : List Char) {turn : SliceTurn}
    (h : (r.skip gap rest).readSliceItem turn = .go e n) : r.Ordered e n := by
  unfold readSliceItem at h
  split at h
  · cases h
  · next c cs _ =>
    split at h
    · cases h
    · split at h
      · cases h
        exact ordered_single gap [c] rfl (by simp)
      · split at h
        · cases h
          exact ordered_single gap [c] rfl (by simp)
        · split at h
          · exact ordered_readQuoted gap rest h
          · split at h
            · cases h
            · split at h
              · exact ordered_readBare gap rest h
              · cases h

theorem ordered_readSlice {turn : SliceTurn} (h : r.readSlice turn = .go e n) :
    r.Ordered e n := by
  unfold readSlice at h
  dsimp only at h
  split at h
  · cases h
  · exact ordered_readSliceItem _ _ h

theorem ordered_of_step (h : r.step = .go e n) : r.Ordered e n := by
  unfold step at h
  split at h
  · exact ordered_readText h
  · exact ordered_readHeader h
  · exact ordered_readAfterArg h
  · exact ordered_readValue h
  · exact ordered_readAfterValue h
  · exact ordered_readSlice h

end

/-! ### Runs -/

/-- The lexemes of a run stand in order, none before the place where it starts. -/
theorem pairwise_toEnd (r : Reading) :
    (r.point.offset :: offsets r.toEnd).Pairwise (· ≤ ·) := by
  induction r using stepInduction with
  | halt r e h =>
    -- a run halts with one lexeme, which stands in what is left
    have hsingle : ∃ l, e = [l] ∧ r.Holds l := by
      rcases eof_or_error_of_halt h with ⟨-, -, rfl⟩ | ⟨⟨l, rfl, -, -, hl⟩, -⟩
      · exact ⟨_, rfl, holds_of_spelled rfl trivial⟩
      · exact ⟨l, rfl, hl⟩
    obtain ⟨l, rfl, before, rest, -, hl, -⟩ := hsingle
    have hle : r.point.offset ≤ l.position.offset := by rw [hl, Point.offset_after]; omega
    rw [toEnd_of_halt h]
    simpa [offsets] using hle
  | go r e n h ih =>
    have hstep := ordered_of_step h
    rw [Ordered, ← List.cons_append] at hstep
    obtain ⟨hread, -, hbound⟩ := List.pairwise_append.1 hstep
    obtain ⟨hafter, hrest⟩ := List.pairwise_cons.1 ih
    rw [toEnd_of_go h, offsets, List.map_append, ← List.cons_append]
    refine List.pairwise_append.2 ⟨hread, hrest, fun a ha b hb => ?_⟩
    exact Nat.le_trans (hbound a ha _ (by simp)) (hafter b hb)

/-- Every message of a run names its own place. -/
theorem names_place_of_mem_toEnd {r : Reading} {l : Lexeme} (hl : l ∈ r.toEnd)
    (hk : l.kind.isMessage = true) : ∃ lead tail, l.value = lead ++ l.position.text ++ tail := by
  -- a run is related to itself, and the relation says where a message differs between two places
  have hself : r.Shifted 0 0 r := ⟨rfl, rfl, rfl, rfl, fun _ => rfl⟩
  obtain ⟨i, hi, rfl⟩ := List.getElem_of_mem hl
  have hvalue := ((List.forall₂_iff_get.1 (toEnd_shifted r hself)).2 i hi hi).value
  rw [List.get_eq_getElem, if_pos hk] at hvalue
  obtain ⟨what, last, heq, -⟩ := hvalue
  refine ⟨what ++ " at position: ", ", following " ++ Text.quoted last, ?_⟩
  rw [heq, message]
  simp only [String.append_assoc]

end Reading

/-! ### Texts -/

/-- Every lexeme of a text stands at the place that it names: the place is counted from the text
before it, the text behind it spells the lexeme, and a message names the place. The lexemes stand in
order. -/
theorem lex_positions (text : String) :
    (∀ l ∈ lex text, ∃ before rest, text.toList = before ++ rest ∧ l.position.Counts before ∧
      Spelled l rest ∧ (l.kind.isMessage = true → ∃ lead tail, l.value =
        lead ++ ("\x7bline:" ++ toString l.position.line ++ " column:" ++
          toString l.position.column ++ "\x7d") ++ tail)) ∧
      (lex text).Pairwise fun l l' => l.position.offset ≤ l'.position.offset := by
  constructor
  · intro l hl
    obtain ⟨before, rest, htext, hposition, hspelled⟩ := Reading.holds_of_mem_toEnd _ l hl
    refine ⟨before, rest, htext, ?_, hspelled, Reading.names_place_of_mem_toEnd hl⟩
    rw [hposition]
    exact Point.counts_after before
  · have hordered := (List.pairwise_cons.1 (Reading.start text.toList).pairwise_toEnd).2
    exact List.pairwise_map.1 hordered

end Lexeme

end ManifestMarkers
