import ManifestMarkers.Proofs.StreamLines

/-!
# Reading scalars of two streams

A scalar may go over several lines and into the last one, where the streams differ. If it ends
before the text of that line on the right, then a comment there ends it on the left.

* `readQuoted_eq_some_iff` and `readPlain_eq_some_iff` are one round of reading a scalar.
* `length_readQuoted` and its companions: what is left does not grow, so a scalar that takes part of
  the last line does not give it back.
* `Near.readGap`, `Twin.readQuoted`, `Twin.readPlain` and `Twin.readBlock` say that both streams
  give the same text and lead to the same place.
-/

namespace ManifestMarkers.Yaml

variable {e : Ends} {n : Nat} {s t : Spot}

/-! ### Gaps -/

theorem Near.readGap (he : e.IsClear) (h : Near e n s t) {f g : Nat} (hf : n < f) (hg : n < g)
    (indent : Option Nat) (gap : Gap) :
    Option.Rel (Both (Near e n)) (Yaml.readGap indent f gap s) (Yaml.readGap indent g gap t) := by
  induction n using Nat.strongRecOn generalizing s t f g gap with
  | _ n ih =>
  obtain ⟨f, rfl⟩ : ∃ k, f = k + 1 := ⟨f - 1, by omega⟩
  obtain ⟨g, rfl⟩ : ∃ k, g = k + 1 := ⟨g - 1, by omega⟩
  have hmore {s₁ t₁ : Spot} (hn : 0 < n) (h₁ : Near e (n - 1) s₁ t₁) (gap : Gap) :
      Option.Rel (Both (Near e n)) (Yaml.readGap indent f gap s₁) (Yaml.readGap indent g gap t₁) :=
    both_mono (ih (n - 1) (by omega) h₁ (by omega) (by omega) gap) fun _ _ h => h.mono (by omega)
  unfold Yaml.readGap
  rw [h.next_blank he, h.next_break he, h.next_tab he, h.column]
  split
  · next hblank =>
    obtain ⟨hn, h₁, htake⟩ := h.skip he hblank
    rw [htake]
    split
    · exact .none
    split
    · exact hmore hn h₁ _
    · exact hmore hn h₁ _
  split
  · next hbreak =>
    obtain ⟨hn, hread, h₁⟩ := h.readBreak he hbreak
    dsimp only
    rw [hread]
    split
    · exact hmore hn h₁ _
    · exact hmore hn h₁ _
  · exact .some ⟨rfl, h⟩

theorem length_of_both {α : Type} {a : Option (α × Spot)} {v : α} {t' : Spot}
    (h : Option.Rel (Both (Near (.moved 0 0) n)) a (some (v, t'))) : t'.rest.length ≤ n := by
  obtain ⟨-, h⟩ | _ := h
  exact h.length_le

theorem length_readGap {indent : Option Nat} {gap gap' : Gap} {t' : Spot}
    (h : readGap indent (t.rest.length + 1) gap t = some (gap', t')) :
    t'.rest.length ≤ t.rest.length := by
  have hrel := Near.readGap (by trivial) (.inl (Twin.refl t)) (Nat.lt_succ_self _)
    (Nat.lt_succ_self _) indent gap
  rw [h] at hrel
  exact length_of_both hrel

theorem readGap_next {indent : Option Nat} {fuel : Nat} {gap gap' : Gap} {t' : Spot}
    (h : readGap indent fuel gap t = some (gap', t')) : t'.next isSpaceOrTab = false := by
  induction fuel generalizing t gap with
  | zero => cases h
  | succ fuel ih =>
    unfold readGap at h
    split at h
    · split at h
      · cases h
      split at h
      · exact ih h
      · exact ih h
    · next hblank =>
      split at h
      · dsimp only at h
        split at h
        · exact ih h
        · exact ih h
      · cases h
        simpa using hblank

/-! ### Quoted scalars -/

theorem exists_some_eq {α β : Type} {a : α} {b : β} {P : α → β → Prop} :
    (∃ x y, some (a, b) = some (x, y) ∧ P x y) ↔ P a b := by
  constructor
  · rintro ⟨_, _, heq, h⟩
    cases heq
    exact h
  · intro h
    exact ⟨a, b, rfl, h⟩

theorem length_readQuotedPiece {single escaped : Bool} {piece : List Char} {t' : Spot}
    (h : readQuotedPiece single (t.rest.length + 1) t = some (piece, t', escaped)) :
    t'.rest.length ≤ t.rest.length := by
  have hrel := (Twin.refl t).readQuotedPiece (Nat.lt_succ_self _) (Nat.lt_succ_self _) single
  rw [h] at hrel
  obtain ⟨-, h, -⟩ | _ := hrel
  exact h.length_le

/-- The quote that closes a scalar. -/
def closingQuote (single : Bool) : Char := if single then '\'' else '"'

/-- One round of reading a quoted scalar: a piece, then the closing quote or the gap before the next
piece. -/
theorem readQuoted_eq_some_iff {single : Bool} {fuel : Nat} {text v : List Char} {t' : Spot} :
    readQuoted single (fuel + 1) text t = some (v, t') ↔
      t.atDocumentIndicator = false ∧ t.rest ≠ [] ∧ ∃ piece t₁ escaped,
        readQuotedPiece single (t.rest.length + 1) t = some (piece, t₁, escaped) ∧
          if t₁.next (· == closingQuote single) = true then v = text ++ piece ∧ t' = t₁.skip
          else ∃ gap t₂,
            readGap none (t₁.rest.length + 1) { broken := escaped } t₁ = some (gap, t₂) ∧
              readQuoted single fuel (text ++ piece ++ gap.folded) t₂ = some (v, t') := by
  rw [readQuoted]
  split
  · next hstop =>
    simp only [Bool.or_eq_true, List.isEmpty_iff] at hstop
    refine iff_of_false (by simp) ?_
    rintro ⟨hindicator, hrest, -⟩
    rcases hstop with h | h
    · simp [h] at hindicator
    · exact hrest h
  · next hstop =>
    simp only [Bool.or_eq_true, List.isEmpty_iff, not_or, Bool.not_eq_true] at hstop
    rw [and_iff_right hstop.1, and_iff_right hstop.2]
    cases readQuotedPiece single (t.rest.length + 1) t with
    | none => simp
    | some r =>
      obtain ⟨piece, t₁, escaped⟩ := r
      simp only [Option.some.injEq, Prod.mk.injEq, exists_and_left, exists_eq_left', and_assoc]
      change (if t₁.next (· == closingQuote single) = true then _ else _) = _ ↔ _
      cases t₁.next (· == closingQuote single) with
      | true => simp [eq_comm]
      | false =>
        cases readGap none (t₁.rest.length + 1) { broken := escaped } t₁ with
        | none => simp
        | some r =>
          obtain ⟨gap, t₂⟩ := r
          rw [exists_some_eq]
          simp

/-- A quoted scalar has at least its closing quote. -/
theorem length_readQuoted {single : Bool} {fuel : Nat} {text v : List Char} {t' : Spot}
    (h : readQuoted single fuel text t = some (v, t')) : t'.rest.length < t.rest.length := by
  induction fuel generalizing t text with
  | zero => cases h
  | succ fuel ih =>
    obtain ⟨-, -, piece, t₁, escaped, hpiece, h⟩ := readQuoted_eq_some_iff.1 h
    have hlength := length_readQuotedPiece hpiece
    split at h
    · next hclose =>
      obtain ⟨-, rfl⟩ := h
      cases hrest : t₁.rest with
      | nil => simp [Spot.next, hrest] at hclose
      | cons c b =>
        simp only [Spot.skip, Spot.skipMany, hrest, List.drop_one, List.tail_cons]
        rw [hrest, List.length_cons] at hlength
        omega
    · obtain ⟨gap, t₂, hgap, h⟩ := h
      have hgap' := length_readGap hgap
      have hrest := ih h
      omega

/-- A quote that closes a scalar is in front of the last line, or it is left behind. -/
theorem Near.next_quote (he : e.IsClear) (h : Near e n s t) {quote : Char}
    (hquote : quote ∈ ['\'', '"']) :
    (s.next (· == quote) = t.next (· == quote) ∧
      (t.next (· == quote) = true → Twin e n s.skip t.skip)) ∨
      (s.next (· == quote) = false ∧ t.skip.rest.length < e.own) := by
  have hbreak : breakChars.any (· == quote) = false := by
    simp only [List.mem_cons, List.not_mem_nil, or_false] at hquote
    rcases hquote with rfl | rfl <;> decide
  rcases h with h | @⟨indent, line, body, cs, c, n, k, index, column, hk, hcolumn⟩
  · refine .inl ⟨h.next _, fun hnext => ?_⟩
    exact (h.skip_of_next hnext hbreak).2.mono (Nat.sub_le _ _)
  · cases k with
    | zero =>
      refine .inr ⟨?_, by simp [Spot.skip, Spot.skipMany, Ends.own]⟩
      simp only [List.mem_cons, List.not_mem_nil, or_false] at hquote
      rcases hquote with rfl | rfl <;> rfl
    | succ k =>
      refine .inl ⟨rfl, fun hnext => ?_⟩
      simp only [List.mem_cons, List.not_mem_nil, or_false] at hquote
      have hspace : (' ' == quote) = true := hnext
      rcases hquote with rfl | rfl <;> exact absurd hspace (by decide)

/-- A quoted scalar after its opening quote. It cannot reach over the start of the last line. -/
theorem Twin.readQuoted (he : e.IsClear) (h : Twin e n s t ∨ t.rest.length ≤ e.own) {f g : Nat}
    (hfuel : g ≤ f) {single : Bool} {text v : List Char} {t' : Spot}
    (hread : Yaml.readQuoted single g text t = some (v, t')) (hstays : e.own ≤ t'.rest.length) :
    ∃ s', Yaml.readQuoted single f text s = some (v, s') ∧ Twin e n s' t' := by
  induction g generalizing s t f n text with
  | zero => cases hread
  | succ g ih =>
    have hlength := length_readQuoted hread
    rcases h.symm with h | h
    · omega
    obtain ⟨f, rfl⟩ : ∃ k, f = k + 1 := ⟨f - 1, by omega⟩
    obtain ⟨m, hm, hs, ht, h'⟩ := h.exact
    obtain ⟨hindicator, hrest, piece, t₁, escaped, hpiece, hread⟩ := readQuoted_eq_some_iff.1 hread
    have hrel := h'.readQuotedPiece (f := s.rest.length + 1) (g := t.rest.length + 1) (by omega)
      (by omega) single
    obtain ⟨s₁, hpiece', h₁⟩ := exists_of_alike hrel hpiece
    have hrest' : s.rest ≠ [] := by
      rcases h.rest_cases with ⟨-, ht⟩ | ⟨c, a, b, hs, -⟩
      · exact absurd ht hrest
      · simp [hs]
    have hquote : (closingQuote single) ∈ ['\'', '"'] := by cases single <;> decide
    have hround (s' : Spot) (hs' : if s₁.next (· == closingQuote single) = true
        then v = text ++ piece ∧ s' = s₁.skip
        else ∃ gap s₂, Yaml.readGap none (s₁.rest.length + 1) { broken := escaped } s₁ =
            some (gap, s₂) ∧
          Yaml.readQuoted single f (text ++ piece ++ gap.folded) s₂ = some (v, s')) :
        Yaml.readQuoted single (f + 1) text s = some (v, s') :=
      readQuoted_eq_some_iff.2
        ⟨h.atDocumentIndicator.trans hindicator, hrest', piece, s₁, escaped, hpiece', hs'⟩
    have hgo (hread : ∃ gap t₂, Yaml.readGap none (t₁.rest.length + 1) { broken := escaped } t₁ =
            some (gap, t₂) ∧
          Yaml.readQuoted single g (text ++ piece ++ gap.folded) t₂ = some (v, t')) :
        ∃ s' gap s₂, Yaml.readGap none (s₁.rest.length + 1) { broken := escaped } s₁ =
            some (gap, s₂) ∧
          Yaml.readQuoted single f (text ++ piece ++ gap.folded) s₂ = some (v, s') ∧
          Twin e n s' t' := by
      obtain ⟨gap, t₂, hgap, hread⟩ := hread
      obtain ⟨k, hk, hs₁, ht₁, h₁⟩ := Near.exact h₁
      have hrel := Near.readGap he h₁ (f := s₁.rest.length + 1) (g := t₁.rest.length + 1)
        (by omega) (by omega) none { broken := escaped }
      obtain ⟨s₂, hgap', h₂⟩ := exists_of_both hrel hgap
      have h₂ : Twin e k s₂ t₂ ∨ t₂.rest.length ≤ e.own := by
        rcases Near.twin_or_edge he h₂ (readGap_next hgap) with h₂ | h₂
        · exact .inl h₂
        · exact .inr (by simpa using Near.length_le (.inr h₂))
      obtain ⟨s', hs', h'⟩ := ih h₂ (f := f) (by omega) hread
      exact ⟨s', gap, s₂, hgap', hs', h'.mono (by omega)⟩
    rcases Near.next_quote he h₁ hquote with ⟨hsame, hskip⟩ | ⟨hno, hown⟩
    · split at hread
      · next hclose =>
        obtain ⟨rfl, rfl⟩ := hread
        exact ⟨s₁.skip, hround _ (by rw [hsame, if_pos hclose]; exact ⟨rfl, rfl⟩),
          (hskip hclose).mono hm⟩
      · next hclose =>
        obtain ⟨s', gap, s₂, hgap, hs', h'⟩ := hgo hread
        exact ⟨s', hround _ (by rw [hsame, if_neg hclose]; exact ⟨gap, s₂, hgap, hs'⟩), h'⟩
    · split at hread
      · obtain ⟨rfl, rfl⟩ := hread
        omega
      · obtain ⟨s', gap, s₂, hgap, hs', h'⟩ := hgo hread
        exact ⟨s', hround _ (by rw [hno, if_neg (by simp)]; exact ⟨gap, s₂, hgap, hs'⟩), h'⟩

/-! ### Plain scalars -/

/-- A piece of a plain scalar is what has been read. -/
theorem length_readPlainPiece {inFlow : Bool} {fuel : Nat} {piece : List Char} {t' : Spot}
    (h : readPlainPiece inFlow fuel t = some (piece, t')) :
    t.rest.length = piece.length + t'.rest.length ∧ (piece = [] → t' = t) := by
  fun_induction readPlainPiece inFlow fuel t generalizing piece with
  | case1 => cases h
  | case4 => cases h
  | case7 fuel t c cs hrest _ _ _ _ ih =>
    obtain ⟨⟨more, t₁⟩, hmore, heq⟩ := Option.map_eq_some_iff.1 h
    cases heq
    have hskip : t.skip.rest = cs := by simp [Spot.skip, Spot.skipMany, hrest]
    have hlength := (ih hmore).1
    rw [hskip] at hlength
    refine ⟨?_, by simp⟩
    rw [hrest, List.length_cons, List.length_cons]
    omega
  | _ =>
    cases h
    simp

/-- The text and the gap after one more piece. -/
def addPiece (text : List Char) (gap : Gap) (piece : List Char) : List Char × Gap :=
  if piece.isEmpty then (text, gap) else (text ++ gap.folded ++ piece, {})

/-- One round of reading a plain scalar: its end, or a piece and the gap before the next piece. -/
theorem readPlain_eq_some_iff {inFlow broken : Bool} {indent fuel : Nat} {text v : List Char}
    {gap : Gap} {t' : Spot} :
    readPlain inFlow indent (fuel + 1) text gap t = some (v, t', broken) ↔
      if (t.atDocumentIndicator || t.next (· == '#')) = true then
        v = text ∧ t' = t ∧ broken = gap.broken
      else ∃ piece t₁, readPlainPiece inFlow (t.rest.length + 1) t = some (piece, t₁) ∧
        if (t₁.next isSpaceOrTab || t₁.next isBreak) = true then
          ∃ gap' t₂, readGap (some indent) (t₁.rest.length + 1) (addPiece text gap piece).2 t₁ =
              some (gap', t₂) ∧
            if (!inFlow && decide (t₂.column < indent)) = true then
              v = (addPiece text gap piece).1 ∧ t' = t₂ ∧ broken = gap'.broken
            else readPlain inFlow indent fuel (addPiece text gap piece).1 gap' t₂ =
              some (v, t', broken)
        else v = (addPiece text gap piece).1 ∧ t' = t₁ ∧
          broken = (addPiece text gap piece).2.broken := by
  rw [readPlain]
  split
  · simp [eq_comm]
  · cases readPlainPiece inFlow (t.rest.length + 1) t with
    | none => simp
    | some r =>
      obtain ⟨piece, t₁⟩ := r
      have hpiece :
          (if piece.isEmpty = true then (text, gap) else (text ++ gap.folded ++ piece, {})) =
            addPiece text gap piece := rfl
      rw [exists_some_eq]
      dsimp only
      rw [hpiece]
      clear hpiece
      generalize addPiece text gap piece = r
      obtain ⟨text', gap'⟩ := r
      cases t₁.next isSpaceOrTab || t₁.next isBreak with
      | false => simp [eq_comm]
      | true =>
        simp only [Bool.not_true, Bool.false_eq_true, if_false, if_true]
        cases readGap (some indent) (t₁.rest.length + 1) gap' t₁ with
        | none => simp
        | some r =>
          obtain ⟨gap'', t₂⟩ := r
          rw [exists_some_eq]
          dsimp only
          split
          · simp [eq_comm]
          · rfl

theorem length_readPlain {inFlow broken : Bool} {indent fuel : Nat} {text v : List Char} {gap : Gap}
    {t' : Spot} (h : readPlain inFlow indent fuel text gap t = some (v, t', broken)) :
    t'.rest.length ≤ t.rest.length := by
  induction fuel generalizing t text gap with
  | zero => cases h
  | succ fuel ih =>
    have h := readPlain_eq_some_iff.1 h
    split at h
    · obtain ⟨-, rfl, -⟩ := h
      exact Nat.le_refl _
    obtain ⟨piece, t₁, hpiece, h⟩ := h
    have hlength := (length_readPlainPiece hpiece).1
    split at h
    · obtain ⟨gap', t₂, hgap, h⟩ := h
      have hgap' := length_readGap hgap
      split at h
      · obtain ⟨-, rfl, -⟩ := h
        omega
      · have hrest := ih h
        omega
    · obtain ⟨-, rfl, -⟩ := h
      omega

/-- A plain scalar cannot reach over the start of the last line, and a comment there ends it too. -/
theorem Edge.readPlain (he : e.IsClear) (h : Edge e 0 s t) {inFlow broken : Bool} {indent f g : Nat}
    {text v : List Char} {gap : Gap} {t' : Spot}
    (hread : Yaml.readPlain inFlow indent g text gap t = some (v, t', broken))
    (hstays : e.own ≤ t'.rest.length) :
    Yaml.readPlain inFlow indent (f + 1) text gap s = some (v, s, broken) ∧ t' = t := by
  have hlength : t.rest.length = e.own ∧ s.next (· == '#') = true ∧
      (t.next isSpaceOrTab || t.next isBreak) = false := by
    obtain @⟨indent, line, body, cs, c, n, k, index, column, hk, hcolumn⟩ := h
    obtain rfl : k = 0 := by omega
    exact ⟨by simp [Ends.own], rfl, by simp [Spot.next, he.1, he.2.1]⟩
  obtain ⟨hown, hhash, hclear⟩ := hlength
  have hstop (h : v = text ∧ t' = t ∧ broken = gap.broken) :
      Yaml.readPlain inFlow indent (f + 1) text gap s = some (v, s, broken) ∧ t' = t := by
    refine ⟨readPlain_eq_some_iff.2 ?_, h.2.1⟩
    rw [hhash, Bool.or_true, if_pos rfl]
    exact ⟨h.1, rfl, h.2.2⟩
  cases g with
  | zero => cases hread
  | succ g =>
    have hread := readPlain_eq_some_iff.1 hread
    split at hread
    · exact hstop hread
    obtain ⟨piece, t₁, hpiece, hread⟩ := hread
    obtain ⟨hread', hnil⟩ := length_readPlainPiece hpiece
    cases piece with
    | nil =>
      rw [hnil rfl, hclear] at hread
      exact hstop hread
    | cons d piece =>
      -- the piece is behind the start of the line
      rw [List.length_cons] at hread'
      split at hread
      · obtain ⟨gap', t₂, hgap, hread⟩ := hread
        have hgap' := length_readGap hgap
        split at hread
        · obtain ⟨-, rfl, -⟩ := hread
          omega
        · have hrest := length_readPlain hread
          omega
      · obtain ⟨-, rfl, -⟩ := hread
        omega

theorem Twin.readPlain (he : e.IsClear) (h : Twin e n s t ∨ Edge e 0 s t) {f g : Nat}
    (hfuel : g ≤ f) {inFlow broken : Bool} {indent : Nat} {text v : List Char} {gap : Gap}
    {t' : Spot}
    (hread : Yaml.readPlain inFlow indent g text gap t = some (v, t', broken))
    (hstays : e.own ≤ t'.rest.length) :
    ∃ s', Yaml.readPlain inFlow indent f text gap s = some (v, s', broken) ∧ Near e n s' t' := by
  induction g generalizing s t f n text gap with
  | zero => cases hread
  | succ g ih =>
    obtain ⟨f, rfl⟩ : ∃ k, f = k + 1 := ⟨f - 1, by omega⟩
    rcases h with h | h
    rotate_left
    · obtain ⟨hread', rfl⟩ := h.readPlain he hread hstays (f := f)
      exact ⟨s, hread', .inr (h.mono (Nat.zero_le _))⟩
    have hread := readPlain_eq_some_iff.1 hread
    have hstop : (s.atDocumentIndicator || s.next (· == '#')) =
        (t.atDocumentIndicator || t.next (· == '#')) := by
      rw [h.atDocumentIndicator, h.next]
    split at hread
    · next hends =>
      obtain ⟨rfl, rfl, rfl⟩ := hread
      refine ⟨s, readPlain_eq_some_iff.2 ?_, .inl h⟩
      rw [hstop, if_pos hends]
      exact ⟨rfl, rfl, rfl⟩
    · next hgoes =>
      obtain ⟨piece, t₁, hpiece, hread⟩ := hread
      obtain ⟨m, hm, hs, ht, h'⟩ := h.exact
      have hrel := h'.readPlainPiece (f := s.rest.length + 1) (g := t.rest.length + 1) (by omega)
        (by omega) inFlow
      obtain ⟨s₁, hpiece', h₁⟩ := exists_of_both hrel hpiece
      split at hread
      · next hnext =>
        obtain ⟨gap', t₂, hgap, hread⟩ := hread
        obtain ⟨k, hk, hs₁, ht₁, h₁'⟩ := h₁.exact
        have hrel := Near.readGap he (.inl h₁') (f := s₁.rest.length + 1)
          (g := t₁.rest.length + 1) (by omega) (by omega) (some indent) (addPiece text gap piece).2
        obtain ⟨s₂, hgap', h₂⟩ := exists_of_both hrel hgap
        have hround (s' : Spot) (hs' : if (!inFlow && decide (s₂.column < indent)) = true then
              v = (addPiece text gap piece).1 ∧ s' = s₂ ∧ broken = gap'.broken
            else Yaml.readPlain inFlow indent f (addPiece text gap piece).1 gap' s₂ =
              some (v, s', broken)) :
            Yaml.readPlain inFlow indent (f + 1) text gap s = some (v, s', broken) := by
          refine readPlain_eq_some_iff.2 ?_
          rw [hstop, if_neg hgoes]
          refine ⟨piece, s₁, hpiece', ?_⟩
          rw [h₁.next, h₁.next, if_pos hnext]
          exact ⟨gap', s₂, hgap', hs'⟩
        rw [← Near.column h₂] at hread
        split at hread
        · next hdeep =>
          obtain ⟨rfl, rfl, rfl⟩ := hread
          refine ⟨s₂, hround _ ?_, Near.mono h₂ (by omega)⟩
          rw [if_pos hdeep]
          exact ⟨rfl, rfl, rfl⟩
        · next hdeep =>
          have h₂' := Near.twin_or_edge he h₂ (readGap_next hgap)
          obtain ⟨s', hs', h'⟩ := ih h₂' (f := f) (by omega) hread
          refine ⟨s', hround _ ?_, Near.mono h' (by omega)⟩
          rw [if_neg hdeep]
          exact hs'
      · next hnext =>
        obtain ⟨rfl, rfl, rfl⟩ := hread
        refine ⟨s₁, readPlain_eq_some_iff.2 ?_, .inl (h₁.mono hm)⟩
        rw [hstop, if_neg hgoes]
        refine ⟨piece, s₁, hpiece', ?_⟩
        rw [h₁.next, h₁.next, if_neg hnext]
        exact ⟨rfl, rfl, rfl⟩

/-! ### Block scalars -/

theorem Near.readBlockBreaks (he : e.IsClear) (h : Near e n s t) {f g : Nat} (hf : n < f)
    (hg : n < g) (indent widest : Nat) (breaks : List Char) :
    Option.Rel (fun a b => a.1 = b.1 ∧ Both (Near e n) a.2 b.2)
      (Yaml.readBlockBreaks indent f widest breaks s)
      (Yaml.readBlockBreaks indent g widest breaks t) := by
  induction f generalizing s t n g widest breaks with
  | zero => omega
  | succ f ih =>
    obtain ⟨g, rfl⟩ : ∃ k, g = k + 1 := ⟨g - 1, by omega⟩
    obtain ⟨hspaces, hskip⟩ := Near.spaces he h
    unfold Yaml.readBlockBreaks
    dsimp only
    rw [hspaces, Near.column h]
    generalize hroom : (if indent == 0 then (t.rest.takeWhile (· == ' ')).length
      else min (t.rest.takeWhile (· == ' ')).length (indent - t.column)) = room
    have h₁ : Near e n (s.skipMany room) (t.skipMany room) := by
      refine hskip room ?_
      rw [← hroom]
      split <;> omega
    simp only [Near.column h₁, Near.next_tab he h₁, Near.next_break he h₁]
    split
    · exact .none
    split
    · next hbreak =>
      obtain ⟨hn, hread, h₂⟩ := Near.readBreak he h₁ hbreak
      rw [hread]
      refine rel_mono (ih h₂ (by omega) (by omega) _ _) ?_
      rintro a b ⟨heq, hboth, h₃⟩
      exact ⟨heq, hboth, Near.mono h₃ (Nat.sub_le _ _)⟩
    · exact .some ⟨rfl, rfl, h₁⟩

theorem length_readBlockBreaks {indent widest widest' : Nat} {breaks breaks' : List Char}
    {t' : Spot} (h : Yaml.readBlockBreaks indent (t.rest.length + 1) widest breaks t =
      some (widest', breaks', t')) : t'.rest.length ≤ t.rest.length := by
  have hrel := Near.readBlockBreaks (by trivial) (.inl (Twin.refl t)) (Nat.lt_succ_self _)
    (Nat.lt_succ_self _) indent widest breaks
  rw [h] at hrel
  obtain ⟨-, -, h⟩ | _ := hrel
  exact Near.length_le h

theorem length_readBreak (t : Spot) : t.readBreak.2.rest.length ≤ t.rest.length :=
  Near.length_le (Twin.refl t).readBreak_le.2

theorem rest_readWhile (t : Spot) (p : Char → Bool) :
    (t.readWhile p).2.rest = t.rest.dropWhile p := by
  have hdrop := congrArg (List.drop (t.rest.takeWhile p).length)
    (List.takeWhile_append_dropWhile (p := p) (l := t.rest))
  rw [List.drop_left] at hdrop
  exact hdrop.symm

/-- The lines of a block scalar have what is left of the line they start on. -/
theorem length_readBlockLines {literal wasBlank : Bool} {indent fuel : Nat}
    {text first more text' first' more' : List Char} {t' : Spot}
    (h : Yaml.readBlockLines literal indent fuel text first more wasBlank t =
      some (text', first', more', t')) :
    t'.rest.length ≤ t.rest.length ∧ ((t.column == indent && !t.rest.isEmpty) = true →
      t'.rest.length ≤ (t.rest.dropWhile (!isBreak ·)).length) := by
  induction fuel generalizing t text first more wasBlank with
  | zero => cases h
  | succ fuel ih =>
    unfold Yaml.readBlockLines at h
    split at h
    · next hline =>
      dsimp only at h
      split at h
      · cases h
      · next w breaks t₂ hbreaks =>
        have hrest : (t.readWhile (!isBreak ·)).2.rest = t.rest.dropWhile (!isBreak ·) :=
          rest_readWhile t _
        have hbreak := length_readBreak (t.readWhile (!isBreak ·)).2
        have hlength := length_readBlockBreaks hbreaks
        have hdrop := (List.dropWhile_sublist (!isBreak ·) (l := t.rest)).length_le
        have hmore := (ih h).1
        rw [hrest] at hbreak
        exact ⟨by omega, fun _ => by omega⟩
    · next hend =>
      cases h
      exact ⟨Nat.le_refl _, fun h => absurd h hend⟩

theorem Near.readBlockLines (he : e.IsClear) (h : Near e n s t) {f g : Nat} (hfuel : g ≤ f)
    {literal wasBlank : Bool} {indent : Nat} {text first more text' first' more' : List Char}
    {t' : Spot}
    (hread : Yaml.readBlockLines literal indent g text first more wasBlank t =
      some (text', first', more', t')) (hstays : e.own ≤ t'.rest.length) :
    ∃ s', Yaml.readBlockLines literal indent f text first more wasBlank s =
      some (text', first', more', s') ∧ Near e n s' t' := by
  induction g generalizing s t f n text first more wasBlank with
  | zero => cases hread
  | succ g ih =>
    obtain ⟨f, rfl⟩ : ∃ k, f = k + 1 := ⟨f - 1, by omega⟩
    rcases h with h | h
    · unfold Yaml.readBlockLines at hread ⊢
      rw [h.column, h.isEmpty_eq]
      obtain ⟨hline, h₁⟩ := h.readWhile (p := (!isBreak ·)) (by decide)
      obtain ⟨hbreak, h₂⟩ := h₁.readBreak_le
      split at hread
      · dsimp only at hread ⊢
        rw [hline, hbreak, h.next]
        obtain ⟨k, hk, hs, ht, h₂'⟩ := Near.exact h₂
        have hrel := Near.readBlockBreaks he h₂' (Nat.lt_succ_of_le hs) (Nat.lt_succ_of_le ht)
          indent 0 []
        rw [if_pos (by assumption)]
        generalize Yaml.readBlockBreaks indent _ 0 [] (t.readWhile (!isBreak ·)).2.readBreak.2 = y
          at hread hrel
        generalize Yaml.readBlockBreaks indent _ 0 [] (s.readWhile (!isBreak ·)).2.readBreak.2 = x
          at hrel ⊢
        rcases hrel with @⟨⟨_, _, s₃⟩, ⟨w, breaks, t₃⟩, rfl, rfl, h₃⟩ | _
        · exact ih (Near.mono h₃ hk) (f := f) (by omega) hread
        · cases hread
      · next hend =>
        cases hread
        exact ⟨s, by rw [if_neg hend], .inl h⟩
    · -- a line of the scalar that starts here would have the start of the last line
      have hend : ¬(t.column == indent && !t.rest.isEmpty) = true := by
        intro hline
        have hlength := (length_readBlockLines hread).2 hline
        obtain @⟨indent, line, body, cs, c, n, k, index, column, hk, hcolumn⟩ := h
        have hall : ∀ d ∈ List.replicate k ' ', (!isBreak d) = true := by
          intro d hd
          rw [List.eq_of_mem_replicate hd]
          decide
        rw [List.dropWhile_append_of_pos hall, List.dropWhile_cons_of_pos (by simp [he.2.1])]
          at hlength
        have hdrop := (List.dropWhile_sublist (!isBreak ·) (l := cs)).length_le
        simp only [Ends.own] at hstays
        omega
      have hend' : ¬(s.column == indent && !s.rest.isEmpty) = true := by
        rw [Near.column (.inr h)]
        have hrest : s.rest.isEmpty = t.rest.isEmpty := by
          obtain ⟨-, -⟩ := h
          rw [Bool.eq_iff_iff]
          simp
        rwa [hrest]
      unfold Yaml.readBlockLines at hread ⊢
      rw [if_neg hend] at hread
      rw [if_neg hend']
      cases hread
      exact ⟨s, rfl, .inr h⟩

/-- A block scalar after its indicator. It cannot reach over the start of the last line, and a
comment there ends it too. -/
theorem Twin.readBlock (he : e.IsClear) (h : Twin e n s t) {literal : Bool} {parent : Int}
    {v : List Char} {t' : Spot} (hread : Yaml.readBlock literal parent t = some (v, t'))
    (hstays : e.own ≤ t'.rest.length) :
    ∃ s', Yaml.readBlock literal parent s = some (v, s') ∧ Near e n s' t' := by
  unfold Yaml.readBlock at hread ⊢
  obtain ⟨⟨header, t₁⟩, ht₁, hread⟩ := Option.bind_eq_some_iff.1 hread
  have hrel := h.readIndicators
  obtain ⟨s₁, hs₁, h₁⟩ := exists_of_both hrel ht₁
  obtain ⟨t₂, ht₂, hread⟩ := Option.bind_eq_some_iff.1 hread
  have hrel := h₁.skipToLineEnd
  obtain ⟨s₂, hs₂, h₂⟩ := exists_of_rel hrel ht₂
  obtain ⟨⟨widest, breaks, t₃⟩, ht₃, hread⟩ := Option.bind_eq_some_iff.1 hread
  obtain ⟨m, hm, hs, ht, h₂'⟩ := Near.exact h₂
  obtain ⟨⟨_, _, s₃⟩, hs₃, rfl, rfl, h₃⟩ := exists_of_rel
    (Near.readBlockBreaks he h₂' (Nat.lt_succ_of_le hs) (Nat.lt_succ_of_le ht) _ 0 []) ht₃
  obtain ⟨⟨text, first, more, t₄⟩, ht₄, hread⟩ := Option.bind_eq_some_iff.1 hread
  cases hread
  obtain ⟨s₄, hs₄, h₄⟩ := Near.readBlockLines he h₃
    (Nat.succ_le_succ (Near.length_le_left he h₃)) ht₄ hstays
  refine ⟨s₄, ?_, Near.mono h₄ hm⟩
  rw [hs₁]
  simp only [Option.bind_eq_bind, Option.bind_some, hs₂, hs₃, hs₄]
  rfl

end ManifestMarkers.Yaml
