import Mathlib.Data.List.Forall2
import ManifestMarkers.Proofs.StreamScalars

/-!
# Tokens of two streams

* `Beside` are two scanners that have read the same and stand at related places. Their possible keys
  are the same but for the lines and bytes that one stream is ahead (`KeyTwin`).
* Each of the steps that fetch a token leads from such scanners to such scanners, if the right one
  does not go into the text of the last line (`Follows`); `Beside.fetchToken` is all of them.
-/

namespace ManifestMarkers.Yaml

variable {e : Ends} {n m : Nat} {s t : Scan}

/-! ### Scanners side by side -/

/-- Whether a line comes before the one that the streams end with. -/
def Ends.Passes : Ends → Nat → Prop
  | moved _ _, _ => True
  | remark _ line _ _ _, l => l < line

/-- A possible key in two streams. -/
structure KeyTwin (e : Ends) (k l : KeySpot) : Prop where
  possible : k.possible = l.possible
  required : l.possible = true → k.required = l.required
  token : l.possible = true → k.token = l.token
  index : l.possible = true → (k.index : Int) = l.index + e.bytes
  line : l.possible = true → (k.line : Int) = l.line + e.lines
  column : l.possible = true → k.column = l.column
  passes : l.possible = true → e.Passes l.line

/-- Two scanners at related places that have read the same. -/
structure Beside (e : Ends) (R : Spot → Spot → Prop) (s t : Scan) : Prop where
  spot : R s.spot t.spot
  tokens : s.tokens = t.tokens
  indent : s.indent = t.indent
  outer : s.outer = t.outer
  key : KeyTwin e s.key t.key
  outerKeys : List.Forall₂ (KeyTwin e) s.outerKeys t.outerKeys
  keyAllowed : s.keyAllowed = t.keyAllowed

variable {R : Spot → Spot → Prop}

theorem KeyTwin.impossible {k l : KeySpot} (hk : k.possible = false) (hl : l.possible = false) :
    KeyTwin e k l := by
  refine ⟨hk.trans hl.symm, ?_, ?_, ?_, ?_, ?_, ?_⟩ <;> intro h <;> rw [hl] at h <;> cases h

theorem Beside.inFlow (h : Beside e R s t) : s.inFlow = t.inFlow := by
  have hkeys := h.outerKeys
  unfold Scan.inFlow
  generalize s.outerKeys = ks at hkeys
  generalize t.outerKeys = ls at hkeys
  cases hkeys <;> rfl

theorem Beside.push (h : Beside e R s t) (token : Token) :
    Beside e R (s.push token) (t.push token) :=
  { h with tokens := by simp [Scan.push, h.tokens] }

theorem Beside.insert (h : Beside e R s t) (k : Nat) (token : Token) :
    Beside e R (s.insert k token) (t.insert k token) :=
  { h with tokens := by simp [Scan.insert, h.tokens] }

theorem Beside.goTo {S : Spot → Spot → Prop} {a b : Spot} (h : Beside e R s t) (hab : S a b) :
    Beside e S (s.goTo a) (t.goTo b) :=
  { h with spot := hab }

theorem Beside.roll (h : Beside e R s t) (column : Nat) (number : Option Nat) (token : Token) :
    Beside e R (s.roll column number token) (t.roll column number token) := by
  unfold Scan.roll
  rw [h.inFlow, h.indent]
  split
  · exact h
  · have h' : Beside e R { s with indent := column, outer := s.indent :: s.outer }
        { t with indent := column, outer := t.indent :: t.outer } :=
      { h with indent := rfl, outer := by simp [h.indent, h.outer] }
    rw [h.indent] at h'
    cases number with
    | none => exact h'.push token
    | some k => exact h'.insert k token

theorem Beside.unroll (h : Beside e R s t) (column : Int) :
    Beside e R (s.unroll column) (t.unroll column) := by
  unfold Scan.unroll
  rw [h.inFlow, h.indent, h.tokens, h.outer]
  split
  · exact h
  · exact { h with tokens := rfl, indent := rfl, outer := rfl }

theorem Beside.removeKey (h : Beside e R s t) :
    Option.Rel (Beside e R) s.removeKey t.removeKey := by
  have hboth : (s.key.possible && s.key.required) = (t.key.possible && t.key.required) := by
    rw [h.key.possible]
    cases hp : t.key.possible with
    | false => rfl
    | true => rw [h.key.required hp]
  unfold Scan.removeKey
  rw [hboth]
  split
  · exact .none
  · exact .some { h with key := .impossible rfl rfl }

theorem Beside.resetBlocks (h : Beside e R s t) :
    Option.Rel (Beside e R) s.resetBlocks t.resetBlocks :=
  rel_map (h.unroll (-1)).removeKey fun _ _ h' => { h' with keyAllowed := rfl }

theorem breaks_pos (p : List Char) : 0 < breaks (p ++ ['\n']) := by
  induction p with
  | nil => decide
  | cons c p ih =>
    rw [List.cons_append]
    by_cases hc : isBreak c = true
    · by_cases hcr : c = '\r' ∧ (p ++ ['\n']).head? = some '\n'
      · obtain ⟨rfl, hhead⟩ := hcr
        obtain ⟨r, hr⟩ := List.head?_eq_some_iff.1 hhead
        rw [hr, breaks_crlf]
        omega
      · rw [breaks_break hc fun h hhead => hcr ⟨h, hhead⟩]
        omega
    · rwa [breaks_cons (by simpa using hc)]

/-- A place before the last line is on a line before it. -/
theorem Twin.passes {a b : Spot} (h : Twin e n a b) : e.Passes b.line := by
  obtain ⟨p, -, -, hcounts⟩ := h.rest
  cases e with
  | moved => trivial
  | remark indent line body c cs =>
    have hpos := breaks_pos p
    simp only [Ends.Counts] at hcounts
    simp only [Ends.Passes]
    omega

/-- The same place in two streams, in front of a character that is no line break. -/
structure Ahead (e : Ends) (n : Nat) (a b : Spot) : Prop where
  twin : Twin e n a b
  next : b.next (!isBreak ·) = true

theorem Ahead.skip {a b : Spot} (h : Ahead e n a b) : 0 < n ∧ Twin e (n - 1) a.skip b.skip :=
  h.twin.skip_of_next h.next (by decide)

theorem Beside.saveKey (h : Beside e (Ahead e n) s t) :
    Option.Rel (Beside e (Ahead e n)) s.saveKey t.saveKey := by
  unfold Scan.saveKey
  rw [h.keyAllowed]
  split
  · rw [h.inFlow, h.indent, h.spot.twin.column]
    refine rel_map h.removeKey fun s' t' h' => { h' with key := ?_ }
    have htwin := h'.spot.twin
    rw [h'.tokens]
    exact ⟨rfl, fun _ => rfl, fun _ => rfl, fun _ => htwin.index, fun _ => htwin.line,
      fun _ => htwin.column, fun _ => htwin.passes⟩
  · exact .some h

/-! ### Tokens -/

theorem Ahead.readDirective {a b : Spot} (h : Ahead e n a b) :
    Option.Rel (Both (Near e (n - 1))) (Scan.readDirective a) (Scan.readDirective b) := by
  obtain ⟨hname, h₁⟩ := h.skip.2.readWhile (p := isNameChar) (by decide)
  have hmore (token : Token) (a₂ b₂ : Spot) (h₂ : Twin e (n - 1) a₂ b₂) :
      Option.Rel (Both (Near e (n - 1))) ((skipToLineEnd a₂).bind fun spot => some (token, spot))
        ((skipToLineEnd b₂).bind fun spot => some (token, spot)) :=
    rel_bind h₂.skipToLineEnd fun a₃ b₃ h₃ => .some ⟨rfl, h₃⟩
  unfold Scan.readDirective
  dsimp only
  rw [hname, h₁.atBlankOrEnd]
  split
  · exact .none
  split
  · exact both_bind h₁.readVersion hmore
  split
  · exact both_bind h₁.readTagDirective hmore
  · exact .none

theorem Beside.fetchDirective (h : Beside e (Ahead e n) s t) :
    Option.Rel (Beside e (Near e (n - 1))) s.fetchDirective t.fetchDirective :=
  rel_bind h.resetBlocks fun _ _ h₁ =>
    both_bind h₁.spot.readDirective fun token _ _ h₂ => .some ((h₁.goTo h₂).push token)

theorem Beside.fetchIndicator (h : Beside e (Ahead e n) s t)
    (hmark : t.spot.atDocumentIndicator = true) (token : Token) :
    Option.Rel (Beside e (Near e (n - 1))) (s.fetchIndicator token) (t.fetchIndicator token) := by
  have h' : Beside e (fun a b => Ahead e n a b ∧ b.atDocumentIndicator = true) s t :=
    { h with spot := ⟨h.spot, hmark⟩ }
  refine rel_map h'.resetBlocks fun _ _ h₁ => (h₁.goTo ?_).push token
  exact .inl ((h₁.spot.1.twin.skipIndicator h₁.spot.2).mono (by omega))

theorem Beside.fetchFlowStart (h : Beside e (Ahead e n) s t) (token : Token) :
    Option.Rel (Beside e (Near e (n - 1))) (s.fetchFlowStart token) (t.fetchFlowStart token) := by
  refine rel_map h.saveKey fun _ _ h₁ => Beside.push ?_ _
  exact { h₁ with
    spot := .inl h₁.spot.skip.2
    key := .impossible rfl rfl
    outerKeys := .cons h₁.key h₁.outerKeys
    keyAllowed := rfl }

theorem Beside.fetchFlowEnd (h : Beside e (Ahead e n) s t) (token : Token) :
    Option.Rel (Beside e (Near e (n - 1))) (s.fetchFlowEnd token) (t.fetchFlowEnd token) := by
  refine rel_map h.removeKey fun s₁ t₁ h₁ => ?_
  have hkeys := h₁.outerKeys
  cases hs : s₁.outerKeys with
  | nil =>
    cases ht : t₁.outerKeys with
    | nil =>
      refine Beside.push ?_ _
      exact { h₁ with spot := .inl h₁.spot.skip.2, outerKeys := .nil, keyAllowed := rfl }
    | cons l ls => simp [hs, ht] at hkeys
  | cons k ks =>
    cases ht : t₁.outerKeys with
    | nil => simp [hs, ht] at hkeys
    | cons l ls =>
      rw [hs, ht, List.forall₂_cons] at hkeys
      refine Beside.push ?_ _
      exact { h₁ with
        spot := .inl h₁.spot.skip.2
        key := hkeys.1
        outerKeys := hkeys.2
        keyAllowed := rfl }

theorem Beside.fetchFlowEntry (h : Beside e (Ahead e n) s t) :
    Option.Rel (Beside e (Near e (n - 1))) s.fetchFlowEntry t.fetchFlowEntry := by
  refine rel_map h.removeKey fun _ _ h₁ => Beside.push ?_ _
  exact { h₁ with spot := .inl h₁.spot.skip.2, keyAllowed := rfl }

theorem Beside.fetchBlockEntry (h : Beside e (Ahead e n) s t) :
    Option.Rel (Beside e (Near e (n - 1))) s.fetchBlockEntry t.fetchBlockEntry := by
  unfold Scan.fetchBlockEntry
  rw [h.inFlow, h.keyAllowed, h.spot.twin.column]
  split
  · exact .none
  · refine rel_map (h.roll _ _ _).removeKey fun _ _ h₁ => Beside.push ?_ _
    exact { h₁ with spot := .inl h₁.spot.skip.2, keyAllowed := rfl }

theorem Beside.fetchKey (h : Beside e (Ahead e n) s t) :
    Option.Rel (Beside e (Near e (n - 1))) s.fetchKey t.fetchKey := by
  unfold Scan.fetchKey
  rw [h.inFlow, h.keyAllowed, h.spot.twin.column]
  split
  · exact .none
  · refine rel_map (h.roll _ _ _).removeKey fun _ _ h₁ => Beside.push ?_ _
    exact { h₁ with spot := .inl h₁.spot.skip.2, keyAllowed := by rw [h₁.inFlow] }

theorem Beside.fetchValue (h : Beside e (Ahead e n) s t) :
    Option.Rel (Beside e (Near e (n - 1))) s.fetchValue t.fetchValue := by
  unfold Scan.fetchValue
  rw [h.key.possible]
  split
  · next hpossible =>
    dsimp only
    rw [h.key.token hpossible, h.key.column hpossible]
    have h₁ := (h.insert t.key.token .key).roll t.key.column (some t.key.token) .blockMappingStart
    refine .some (Beside.push ?_ _)
    exact { h₁ with
      spot := .inl h₁.spot.skip.2
      key := .impossible rfl rfl
      keyAllowed := rfl }
  · rw [h.inFlow, h.keyAllowed, h.spot.twin.column]
    split
    · exact .none
    · have h₁ := h.roll t.spot.column none .blockMappingStart
      refine .some (Beside.push ?_ _)
      exact { h₁ with spot := .inl h₁.spot.skip.2, keyAllowed := by rw [h₁.inFlow] }

theorem Beside.fetchAnchor (h : Beside e (Ahead e n) s t) (token : List Char → Token) :
    Option.Rel (Beside e (Near e (n - 1))) (s.fetchAnchor token) (t.fetchAnchor token) := by
  refine rel_bind h.saveKey fun _ _ h₁ => ?_
  refine both_bind h₁.spot.skip.2.readAnchorName fun name _ _ h₂ => .some (Beside.push ?_ _)
  exact { h₁ with spot := .inl h₂, keyAllowed := rfl }

theorem Beside.fetchTag (h : Beside e (Ahead e n) s t) :
    Option.Rel (Beside e (Near e (n - 1))) s.fetchTag t.fetchTag := by
  refine rel_bind h.saveKey fun _ _ h₁ => ?_
  dsimp only
  rw [h₁.inFlow]
  refine both_bind (h₁.spot.twin.readTag _) fun token _ _ h₂ => .some (Beside.push ?_ _)
  exact { h₁ with spot := .inl h₂, keyAllowed := rfl }

/-- If the right scanner goes on and not past the start of the last line, then so does the left. -/
def Follows (e : Ends) (n : Nat) (a b : Option Scan) : Prop :=
  ∀ t, b = some t → e.own ≤ t.spot.rest.length → ∃ s, a = some s ∧ Beside e (Near e n) s t

theorem follows_of_rel {a b : Option Scan} (h : Option.Rel (Beside e (Near e n)) a b) :
    Follows e n a b :=
  fun _ hb _ => exists_of_rel h hb

theorem follows_ite {p : Prop} [Decidable p] {a b a' b' : Option Scan} (h : p → Follows e n a b)
    (h' : ¬p → Follows e n a' b') : Follows e n (if p then a else a') (if p then b else b') := by
  by_cases hp : p
  · rw [if_pos hp, if_pos hp]
    exact h hp
  · rw [if_neg hp, if_neg hp]
    exact h' hp

section

variable (he : e.IsClear)

include he

theorem Beside.fetchBlockScalar (h : Beside e (Ahead e n) s t) (literal : Bool) :
    Follows e (n - 1) (s.fetchBlockScalar literal) (t.fetchBlockScalar literal) := by
  intro t' hfetch hstays
  unfold Scan.fetchBlockScalar at hfetch ⊢
  obtain ⟨t₁, ht₁, hfetch⟩ := Option.bind_eq_some_iff.1 hfetch
  obtain ⟨s₁, hs₁, h₁⟩ := exists_of_rel h.removeKey ht₁
  obtain ⟨⟨text, spot⟩, ht₂, hfetch⟩ := Option.bind_eq_some_iff.1 hfetch
  cases hfetch
  obtain ⟨spot', hs₂, h₂⟩ := h₁.spot.skip.2.readBlock he ht₂ hstays
  rw [← h₁.indent] at hs₂
  refine ⟨({ s₁ with keyAllowed := true, spot := spot' } : Scan).push _, ?_, Beside.push ?_ _⟩
  · simp only [hs₁, Option.bind_eq_bind, Option.bind_some, hs₂]
    rfl
  · exact { h₁ with spot := h₂, keyAllowed := rfl }

theorem Beside.fetchQuoted (h : Beside e (Ahead e n) s t) (single : Bool) :
    Follows e (n - 1) (s.fetchQuoted single) (t.fetchQuoted single) := by
  intro t' hfetch hstays
  unfold Scan.fetchQuoted at hfetch ⊢
  obtain ⟨t₁, ht₁, hfetch⟩ := Option.bind_eq_some_iff.1 hfetch
  obtain ⟨s₁, hs₁, h₁⟩ := exists_of_rel h.saveKey ht₁
  obtain ⟨⟨text, spot⟩, ht₂, hfetch⟩ := Option.bind_eq_some_iff.1 hfetch
  cases hfetch
  have hskip := h₁.spot.skip.2
  obtain ⟨spot', hs₂, h₂⟩ := Twin.readQuoted he (.inl hskip)
    (Nat.succ_le_succ (Near.length_le_left he (.inl hskip))) ht₂ hstays
  refine ⟨({ s₁ with keyAllowed := false, spot := spot' } : Scan).push _, ?_, Beside.push ?_ _⟩
  · simp only [hs₁, Option.bind_eq_bind, Option.bind_some, hs₂]
    rfl
  · exact { h₁ with spot := .inl h₂, keyAllowed := rfl }

omit he in
/-- A character that may start a plain scalar is part of it. -/
theorem length_readPlain_lt {inFlow broken : Bool} {indent fuel : Nat} {text v : List Char}
    {gap : Gap} {a a' : Spot} (hstart : ∀ piece b, readPlainPiece inFlow (a.rest.length + 1) a =
      some (piece, b) → piece ≠ []) (hmark : a.atDocumentIndicator = false)
    (hhash : a.next (· == '#') = false)
    (h : readPlain inFlow indent fuel text gap a = some (v, a', broken)) :
    a'.rest.length < a.rest.length := by
  cases fuel with
  | zero => cases h
  | succ fuel =>
    have h := readPlain_eq_some_iff.1 h
    rw [hmark, hhash, if_neg (by simp)] at h
    obtain ⟨piece, b, hpiece, h⟩ := h
    have hlength := (length_readPlainPiece hpiece).1
    have hpos := List.length_pos_iff.2 (hstart piece b hpiece)
    split at h
    · obtain ⟨gap', c, hgap, h⟩ := h
      have hgap' := length_readGap hgap
      split at h
      · obtain ⟨-, rfl, -⟩ := h
        omega
      · have hrest := length_readPlain h
        omega
    · obtain ⟨-, rfl, -⟩ := h
      omega

omit he in
theorem Beside.startsPlain (h : Beside e (Ahead e n) s t) (c : Char) :
    s.startsPlain c = t.startsPlain c := by
  have hskip := h.spot.skip.2
  have hend : s.spot.blankOrEndAt 1 = t.spot.blankOrEndAt 1 := hskip.atBlankOrEnd
  unfold Scan.startsPlain
  rw [h.spot.twin.atBlankOrEnd, hskip.next, h.inFlow, hend]

omit he in
/-- A plain scalar has the character that it starts with. -/
theorem piece_ne_nil {c : Char} {cs piece : List Char} {b : Spot} {fuel : Nat}
    (ht : t.spot.rest = c :: cs) (hplain : t.startsPlain c = true)
    (hcolon : ¬(c == ':' && (t.inFlow || t.spot.blankOrEndAt 1)) = true)
    (h : readPlainPiece t.inFlow fuel t.spot = some (piece, b)) : piece ≠ [] := by
  cases fuel with
  | zero => cases h
  | succ fuel =>
    have hspace : t.spot.atBlankOrEnd = true → False := by
      intro hblank
      have hc : isSpaceOrTab c = true ∨ isBreak c = true := by
        simpa [Spot.atBlankOrEnd, Spot.blankOrEndAt, ht] using hblank
      have hne : c ≠ '-' ∧ c ≠ '?' ∧ c ≠ ':' := by
        refine ⟨?_, ?_, ?_⟩ <;> rintro rfl <;> exact absurd hc (by decide)
      simp [Scan.startsPlain, hblank, hne.1, hne.2.1, hne.2.2] at hplain
    have hflow : isFlowIndicator c = true → False := by
      intro hflow
      unfold isFlowIndicator at hflow
      simp only [Bool.or_eq_true, beq_iff_eq] at hflow
      rcases hflow with (((rfl | rfl) | rfl) | rfl) | rfl <;> simp [Scan.startsPlain] at hplain
    unfold readPlainPiece at h
    rw [ht] at h
    dsimp only at h
    rw [if_neg hspace] at h
    have h := (Option.ite_none_left_eq_some.1 h).2
    rw [if_neg fun hc => hcolon (by simp_all), if_neg fun hc => hflow (by simp_all)] at h
    obtain ⟨⟨piece', b'⟩, -, heq⟩ := Option.map_eq_some_iff.1 h
    cases heq
    exact List.cons_ne_nil _ _

omit he in
theorem spot_saveKey {t₁ : Scan} (h : t.saveKey = some t₁) :
    t₁.spot = t.spot ∧ t₁.inFlow = t.inFlow := by
  unfold Scan.saveKey at h
  split at h
  · obtain ⟨t₂, ht₂, rfl⟩ := Option.map_eq_some_iff.1 h
    unfold Scan.removeKey at ht₂
    split at ht₂
    · cases ht₂
    · cases ht₂
      exact ⟨rfl, rfl⟩
  · cases h
    exact ⟨rfl, rfl⟩

theorem Beside.fetchPlain (h : Beside e (Ahead e n) s t) {c : Char} {cs : List Char}
    (ht : t.spot.rest = c :: cs) (hplain : t.startsPlain c = true)
    (hcolon : ¬(c == ':' && (t.inFlow || t.spot.blankOrEndAt 1)) = true)
    (hmark : t.spot.atDocumentIndicator = false) :
    Follows e (n - 1) s.fetchPlain t.fetchPlain := by
  intro t' hfetch hstays
  unfold Scan.fetchPlain at hfetch ⊢
  obtain ⟨t₁, ht₁, hfetch⟩ := Option.bind_eq_some_iff.1 hfetch
  obtain ⟨s₁, hs₁, h₁⟩ := exists_of_rel h.saveKey ht₁
  obtain ⟨⟨text, spot, broken⟩, ht₂, hfetch⟩ := Option.bind_eq_some_iff.1 hfetch
  cases hfetch
  obtain ⟨spot', hs₂, h₂⟩ := Twin.readPlain he (.inl h₁.spot.twin)
    (Nat.succ_le_succ (Near.length_le_left he (.inl h₁.spot.twin))) ht₂ hstays
  have hspot : Near e (n - 1) spot' spot := by
    obtain ⟨heq, hflow⟩ := spot_saveKey ht₁
    rw [heq, hflow] at ht₂
    have hhash : t.spot.next (· == '#') = false := by
      rw [Bool.eq_false_iff]
      intro hhash
      obtain rfl : c = '#' := by simpa [Spot.next, ht] using hhash
      simp [Scan.startsPlain] at hplain
    have hlt := length_readPlain_lt (fun piece b => piece_ne_nil ht hplain hcolon) hmark hhash ht₂
    have hbound := h.spot.twin.bound
    exact Near.tighten h₂ (by omega)
  rw [← h₁.inFlow, ← h₁.indent] at hs₂
  refine ⟨({ s₁ with keyAllowed := broken, spot := spot' } : Scan).push _, ?_, Beside.push ?_ _⟩
  · simp only [hs₁, Option.bind_eq_bind, Option.bind_some, hs₂]
    rfl
  · exact { h₁ with spot := hspot, keyAllowed := rfl }

/-- The next token. -/
theorem Beside.fetchToken (h : Beside e (Ahead e n) s t) {c : Char} {cs : List Char}
    (ht : t.spot.rest = c :: cs) : Follows e (n - 1) (s.fetchToken c) (t.fetchToken c) := by
  have hblank : s.spot.blankOrEndAt 1 = t.spot.blankOrEndAt 1 := h.spot.skip.2.atBlankOrEnd
  unfold Scan.fetchToken
  rw [h.spot.twin.column, h.spot.twin.atDocumentIndicator, hblank, h.inFlow, h.startsPlain]
  dsimp only
  refine follows_ite (fun _ => follows_of_rel h.fetchDirective) fun _ => ?_
  refine follows_ite (fun hmark => follows_of_rel (h.fetchIndicator hmark _)) fun hmark => ?_
  refine follows_ite (fun _ => follows_of_rel (h.fetchFlowStart _)) fun _ => ?_
  refine follows_ite (fun _ => follows_of_rel (h.fetchFlowStart _)) fun _ => ?_
  refine follows_ite (fun _ => follows_of_rel (h.fetchFlowEnd _)) fun _ => ?_
  refine follows_ite (fun _ => follows_of_rel (h.fetchFlowEnd _)) fun _ => ?_
  refine follows_ite (fun _ => follows_of_rel h.fetchFlowEntry) fun _ => ?_
  refine follows_ite (fun _ => follows_of_rel h.fetchBlockEntry) fun _ => ?_
  refine follows_ite (fun _ => follows_of_rel h.fetchKey) fun _ => ?_
  refine follows_ite (fun _ => follows_of_rel h.fetchValue) fun hcolon => ?_
  refine follows_ite (fun _ => follows_of_rel (h.fetchAnchor _)) fun _ => ?_
  refine follows_ite (fun _ => follows_of_rel (h.fetchAnchor _)) fun _ => ?_
  refine follows_ite (fun _ => follows_of_rel h.fetchTag) fun _ => ?_
  refine follows_ite (fun _ => h.fetchBlockScalar he true) fun _ => ?_
  refine follows_ite (fun _ => h.fetchBlockScalar he false) fun _ => ?_
  refine follows_ite (fun _ => h.fetchQuoted he true) fun _ => ?_
  refine follows_ite (fun _ => h.fetchQuoted he false) fun _ => ?_
  refine follows_ite (fun hplain => ?_) fun _ => nofun
  exact h.fetchPlain he ht hplain hcolon (by simpa using hmark)

end

end ManifestMarkers.Yaml
