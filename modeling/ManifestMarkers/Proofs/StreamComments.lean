import ManifestMarkers.Proofs.StreamRounds

/-!
# Comment lines in a stream

A comment line in front of a token that may be a key does not change the tokens of a stream, if the
token has its line to itself and the same indentation.

* `Beside.cross`: in the last line, a round skips the comment and stops at the token.
* `Beside.run_comment` follows the rounds up to this one, and `Shifted.run` those behind it.
* `scan?_comment` is the same for whole streams. Later tokens keep their places, so that comments
  can be put in one after the other.
-/

namespace ManifestMarkers.Yaml

variable {e : Ends} {n : Nat} {s t : Scan} {a b : Spot}

/-! ### The comment before the last line -/

theorem length_skipBlanks (fuel : Nat) (s : Scan) :
    (s.skipBlanks fuel).spot.rest.length ≤ s.spot.rest.length := by
  induction fuel generalizing s with
  | zero => exact Nat.le_refl _
  | succ fuel ih =>
    have hline := length_lineRest (s.inFlow || !s.keyAllowed) s.spot
    rw [skipBlanks_succ]
    split
    · exact Nat.le_trans (ih _) (Nat.le_trans (length_readBreak _) hline)
    · exact hline

theorem length_skipBlanks_succ (fuel : Nat) (s : Scan) :
    (s.skipBlanks (fuel + 1)).spot.rest.length ≤
      (s.spot.lineRest (s.inFlow || !s.keyAllowed)).rest.length := by
  rw [skipBlanks_succ]
  split
  · exact Nat.le_trans (length_skipBlanks _ _) (length_readBreak _)
  · exact Nat.le_refl _

theorem pastBlanks_spaces {tabs : Bool} {k : Nat} {c : Char} {cs : List Char}
    (ha : a.rest = List.replicate k ' ' ++ c :: cs) (hc : isSpaceOrTab c = false) :
    a.pastBlanks tabs = a.skipMany k := by
  have hnot : (c == ' ' || (tabs && c == '\t')) = false := by
    unfold isSpaceOrTab at hc
    simp only [Bool.or_eq_false_iff] at hc
    simp [hc.1, hc.2]
  have htake : a.rest.takeWhile (fun c => c == ' ' || (tabs && c == '\t')) =
      List.replicate k ' ' := by
    rw [ha]
    exact takeWhile_append_eq (by simp) (by simpa using hnot)
  unfold Spot.pastBlanks Spot.skipWhile Spot.readWhile
  simp only [htake, List.length_replicate]

theorem rest_skipMany_spaces {k : Nat} {cs : List Char}
    (ha : a.rest = List.replicate k ' ' ++ cs) : (a.skipMany k).rest = cs := by
  simp [Spot.skipMany, ha]

theorem pastMark_of_ne {k : Nat} {c : Char} {cs : List Char}
    (ha : a.rest = List.replicate k ' ' ++ c :: cs)
    (hmark : ¬(a.column + k = 0 ∧ c.toNat = 0xfeff)) : a.pastMark = a := by
  refine if_neg ?_
  cases k with
  | zero => simpa [Spot.next, ha] using hmark
  | succ k => simp [Spot.next, ha, List.replicate_succ]

/-- A line whose first character is neither blank nor the start of a comment. -/
theorem lineRest_indented {tabs : Bool} {k : Nat} {c : Char} {cs : List Char}
    (ha : a.rest = List.replicate k ' ' ++ c :: cs) (hc : isSpaceOrTab c = false)
    (hmark : ¬(a.column + k = 0 ∧ c.toNat = 0xfeff)) (hhash : c ≠ '#') :
    a.lineRest tabs = a.skipMany k := by
  unfold Spot.lineRest
  rw [pastMark_of_ne ha hmark, pastBlanks_spaces ha hc]
  refine if_neg ?_
  simpa [Spot.next, rest_skipMany_spaces ha] using hhash

theorem rest_skipWhile (a : Spot) (p : Char → Bool) :
    (a.skipWhile p).rest = a.rest.dropWhile p := rest_readWhile a p

/-- A line with nothing but a comment. -/
theorem lineRest_comment (tabs : Bool) {k : Nat} {r cs : List Char}
    (ha : a.rest = List.replicate k ' ' ++ '#' :: (r ++ cs)) (hr : ∀ c ∈ r, isBreak c = false)
    (hcs : ∀ c ∈ cs.head?, isBreak c = true) :
    (a.lineRest tabs).rest = cs ∧ (a.lineRest tabs).line = a.line := by
  have hrest : (a.skipMany k).rest = '#' :: (r ++ cs) := rest_skipMany_spaces ha
  have htake : ('#' :: (r ++ cs)).takeWhile (!isBreak ·) = '#' :: r := by
    refine takeWhile_append_eq (a := '#' :: r) ?_ (by simpa using hcs)
    simpa using ⟨by decide, hr⟩
  unfold Spot.lineRest
  rw [pastMark_of_ne ha (by simp), pastBlanks_spaces ha (by decide)]
  unfold Spot.pastComment
  rw [if_pos (by simp [Spot.next, hrest])]
  unfold Spot.skipWhile Spot.readWhile
  simp only [hrest, htake]
  refine ⟨?_, rfl⟩
  simp [Spot.skipMany, ha]

/-- What no place in front of a token is followed by. -/
theorem ne_of_skipBlanks {fuel k : Nat} {c : Char} {cs : List Char}
    (ht : t.spot.rest = List.replicate k ' ' ++ c :: cs) (hc : isSpaceOrTab c = false)
    (hrest : (t.skipBlanks (fuel + 1)).spot.rest = c :: cs) :
    ¬(t.spot.column + k = 0 ∧ c.toNat = 0xfeff) ∧ c ≠ '#' := by
  have hlength := length_skipBlanks_succ fuel t
  rw [hrest, List.length_cons] at hlength
  have hmark : ¬(t.spot.column + k = 0 ∧ c.toNat = 0xfeff) := by
    rintro ⟨hzero, hmark⟩
    obtain rfl : k = 0 := by omega
    have hpast : (t.spot.pastMark).rest = cs := by
      unfold Spot.pastMark
      rw [if_pos (by simp [Spot.next, ht, hmark]; omega)]
      simp [Spot.skip, Spot.skipMany, ht]
    have hline : (t.spot.lineRest (t.inFlow || !t.keyAllowed)).rest.length ≤ cs.length := by
      have h := (Twin.refl t.spot.pastMark).pastBlanks (t.inFlow || !t.keyAllowed)
      rw [hpast] at h
      exact h.pastComment.bound
    omega
  refine ⟨hmark, ?_⟩
  rintro rfl
  have hrest : (t.spot.skipMany k).rest = '#' :: cs := rest_skipMany_spaces ht
  have hline : (t.spot.lineRest (t.inFlow || !t.keyAllowed)).rest.length ≤ cs.length := by
    unfold Spot.lineRest
    rw [pastMark_of_ne ht hmark, pastBlanks_spaces ht hc]
    unfold Spot.pastComment
    rw [if_pos (by simp [Spot.next, hrest]), rest_skipWhile, hrest,
      List.dropWhile_cons_of_pos (by decide)]
    exact (List.dropWhile_sublist _).length_le
  omega

/-- The blanks of a line are not part of what is left. -/
theorem length_skipBlanks_indented (fuel : Nat) {k : Nat} {c : Char} {cs : List Char}
    (ht : t.spot.rest = List.replicate k ' ' ++ c :: cs) (hc : isSpaceOrTab c = false) :
    (t.skipBlanks (fuel + 1)).spot.rest.length ≤ cs.length + 1 := by
  refine Nat.le_trans (length_skipBlanks_succ fuel t) ?_
  by_cases hmark : t.spot.column + k = 0 ∧ c.toNat = 0xfeff
  · obtain rfl : k = 0 := by omega
    simpa [ht] using length_lineRest (t.inFlow || !t.keyAllowed) t.spot
  · unfold Spot.lineRest
    rw [pastMark_of_ne ht hmark, pastBlanks_spaces ht hc]
    have h := (Twin.refl (t.spot.skipMany k)).pastComment.bound
    rwa [rest_skipMany_spaces ht] at h

/-- Both scanners are behind the indentation of the line with the given number, or of the same line
further below. -/
structure Crossed (line : Nat) (c : Char) (cs : List Char) (a b : Spot) : Prop where
  left : a.rest = c :: cs
  right : b.rest = c :: cs
  column : a.column = b.column
  line_le : line ≤ a.line
  line : b.line = line

section

variable {indent line k : Nat} {r nl body cs : List Char} {c : Char}

theorem Edge.exists_indent (h : Edge (.remark indent line body c cs) n a b) :
    ∃ k, a.rest = List.replicate k ' ' ++ '#' :: body ∧ b.rest = List.replicate k ' ' ++ c :: cs ∧
      b.column + k = indent ∧ a.line = line ∧ b.line = line := by
  obtain ⟨-, hcolumn⟩ := h
  exact ⟨_, rfl, rfl, hcolumn, rfl, rfl⟩

theorem skipBlanks_indented (fuel : Nat) (ht : t.spot.rest = List.replicate k ' ' ++ c :: cs)
    (hc : isSpaceOrTab c = false) (hbreak : isBreak c = false)
    (hmark : ¬(t.spot.column + k = 0 ∧ c.toNat = 0xfeff)) (hhash : c ≠ '#') :
    t.skipBlanks (fuel + 1) = t.goTo (t.spot.skipMany k) := by
  rw [skipBlanks_succ, lineRest_indented ht hc hmark hhash]
  refine if_neg ?_
  simp [Spot.next, rest_skipMany_spaces ht, hbreak]

/-- A line break, as a text file has it. -/
theorem readBreak_newline (hnl : nl = ['\n'] ∨ nl = ['\r', '\n']) (ha : a.rest = nl ++ cs) :
    a.readBreak.2.rest = cs ∧ a.readBreak.2.line = a.line + 1 ∧ a.readBreak.2.column = 0 ∧
      a.next isBreak = true := by
  rcases hnl with rfl | rfl
  · rw [Spot.readBreak_break ha (by decide) (by simp)]
    exact ⟨rfl, rfl, rfl, by simp [Spot.next, ha]; decide⟩
  · rw [Spot.readBreak_crlf ha]
    exact ⟨rfl, rfl, rfl, by simp [Spot.next, ha]; decide⟩

/-- The comment is skipped: both scanners stop at the same character. -/
theorem Beside.cross (hr : ∀ c ∈ r, isBreak c = false) (hnl : nl = ['\n'] ∨ nl = ['\r', '\n'])
    (he : e = .remark indent line (r ++ (nl ++ (List.replicate indent ' ' ++ c :: cs))) c cs)
    (hclear : e.IsClear) (h : Beside e (Edge e n) s t) {f g : Nat}
    (hrest : (t.skipBlanks (g + 1)).spot.rest = c :: cs)
    (hkey : ((t.skipBlanks (g + 1)).inFlow || (t.skipBlanks (g + 1)).keyAllowed) = true) :
    Beside e (Crossed line c cs) (s.skipBlanks (f + 2)) (t.skipBlanks (g + 1)) := by
  subst he
  obtain ⟨k, hs, ht, hindent, hsline, htline⟩ := h.spot.exists_indent
  obtain ⟨hc, hbreak, -⟩ := hclear
  obtain ⟨hmark, hhash⟩ := ne_of_skipBlanks ht hc hrest
  rw [skipBlanks_indented g ht hc hbreak hmark hhash] at hkey ⊢
  -- the comment and its line break on the left
  obtain ⟨hcomment, hline⟩ := lineRest_comment (s.inFlow || !s.keyAllowed) hs hr
    (by rcases hnl with rfl | rfl <;> simp <;> decide)
  obtain ⟨hnext, hline', hcolumn, hend⟩ := readBreak_newline hnl hcomment
  have hindented := skipBlanks_indented f
    (t := s.nextLine (s.spot.lineRest (s.inFlow || !s.keyAllowed))) hnext hc hbreak
    (by simp only [Scan.nextLine, hcolumn]; omega) hhash
  rw [skipBlanks_succ, if_pos hend, hindented]
  have hspot : Crossed line c cs
      ((s.nextLine (s.spot.lineRest (s.inFlow || !s.keyAllowed))).spot.skipMany indent)
      (t.spot.skipMany k) := by
    refine ⟨rest_skipMany_spaces hnext, rest_skipMany_spaces ht, ?_, ?_, htline⟩
    · simp only [Spot.skipMany, Scan.nextLine, hcolumn]
      omega
    · simp only [Spot.skipMany, Scan.nextLine, hline', hline, hsline]
      omega
  refine { h.goTo hspot with keyAllowed := ?_ }
  change (t.inFlow || t.keyAllowed) = true at hkey
  change (if s.inFlow then s.keyAllowed else true) = t.keyAllowed
  rw [h.inFlow, h.keyAllowed]
  cases hflow : t.inFlow with
  | false => simpa [hflow] using hkey
  | true => rfl

end

/-! ### The comment before a token -/

theorem KeyTwin.stale {indent line : Nat} {body cs : List Char} {c : Char} {e' : Ends}
    {k l : KeySpot} (h : KeyTwin (.remark indent line body c cs) k l) (ha : line ≤ a.line)
    (hb : line ≤ b.line) :
    Option.Rel (KeyTwin e') (Scan.freshKey? a k) (Scan.freshKey? b l) := by
  unfold Scan.freshKey?
  cases hp : l.possible with
  | false =>
    rw [h.possible, hp]
    exact .some (.impossible (h.possible.trans hp) hp)
  | true =>
    have hpasses : l.line < line := h.passes hp
    have hline := h.line hp
    simp only [Ends.lines] at hline
    have hk : k.line < a.line := by omega
    have hl : l.line < b.line := by omega
    rw [h.possible, hp, h.required hp]
    simp only [hk, hl, decide_true, Bool.true_or, Bool.and_self, if_true]
    cases l.required with
    | true => exact .none
    | false => exact .some (.impossible rfl rfl)

/-- Behind the comment, the scanners have the same in front of them. -/
theorem Beside.settle_crossed {indent line : Nat} {body cs : List Char} {c : Char}
    (h : Beside (.remark indent line body c cs) (Crossed line c cs) s t)
    (hc : isBreak c = false) : ∃ bytes lines n, Option.Rel
      (Beside (.moved bytes lines) fun a b => Twin (.moved bytes lines) n a b ∧
        b.next isBreak = false) s.settle? t.settle? := by
  obtain ⟨hs, ht, hcolumn, hline, rfl⟩ := h.spot
  refine ⟨s.spot.index - t.spot.index, s.spot.line - t.spot.line, t.spot.rest.length, ?_⟩
  refine Beside.settle { h with spot := ⟨⟨hcolumn, ?_, ?_, ?_, c :: cs, ?_, ?_, trivial⟩, ?_⟩ }
    (fun k l hkey => hkey.stale hline (Nat.le_refl _)) fun _ _ hab => hab.1.column
  · simp only [Ends.bytes]
    omega
  · simp only [Ends.lines]
    omega
  · simp [Ends.own]
  · simpa [Ends.left] using hs
  · simpa [Ends.right] using ht
  · simpa [Spot.next, ht] using hc

theorem Twin.own_lt {indent line : Nat} {body cs : List Char} {c : Char}
    (h : Twin (.remark indent line body c cs) n a b) : cs.length + 1 < b.rest.length := by
  obtain ⟨p, -, hb, -⟩ := h.rest
  simp only [hb, Ends.right, List.length_append, List.length_cons]
  omega

section

variable {indent line : Nat} {body cs : List Char} {c : Char}

/-- A token before the last line. -/
theorem Beside.proceed (he : e = .remark indent line body c cs) (hclear : e.IsClear) {f g : Nat}
    (h : Beside e (fun a b => Twin e n a b ∧ b.next isBreak = false) s t)
    (hstart : c :: cs ∈ t.startsHere (Scan.starts g))
    (hlater : ∀ u v, Beside e (Near e (n - 1)) u v → u.spot.rest.length < s.spot.rest.length →
      v.spot.rest.length < t.spot.rest.length → c :: cs ∈ v.starts g →
      u.run f = v.run g ∧ ∀ x ∈ v.starts g, x.length ≤ cs.length + 1 → x ∈ u.starts f) :
    s.proceed f = t.proceed g ∧
      ∀ x ∈ t.startsHere (Scan.starts g), x.length ≤ cs.length + 1 →
        x ∈ s.startsHere (Scan.starts f) := by
  obtain ⟨d, ds, v, ht, hv, hstart⟩ := Scan.mem_startsHere.1 hstart
  have hown : cs.length + 1 < (d :: ds).length := by
    subst he
    rw [← ht]
    exact h.spot.1.own_lt
  have hstart : c :: cs ∈ v.starts g := by
    rcases hstart with ⟨-, heq⟩ | hstart
    · rw [← heq] at hown
      simp at hown
    · exact hstart
  have hstays : e.own ≤ v.spot.rest.length := by
    subst he
    exact length_starts hstart
  obtain ⟨u, hu, huv⟩ := (h.ahead ht).fetchToken hclear ht v hv hstays
  obtain ⟨ds', hs⟩ : ∃ ds', s.spot.rest = d :: ds' := by
    rcases h.spot.1.rest_cases with ⟨-, hnil⟩ | ⟨d', ds', _, hs, ht'⟩
    · simp [ht] at hnil
    · rw [ht] at ht'
      cases ht'
      exact ⟨ds', hs⟩
  have hu' := length_fetchToken hs ((h.spot.1.next _).trans h.spot.2) hu
  have hv' := length_fetchToken ht h.spot.2 hv
  obtain ⟨hrun, hstarts⟩ := hlater u v huv (by rw [hs, List.length_cons]; omega)
    (by rw [ht, List.length_cons]; omega) hstart
  constructor
  · unfold Scan.proceed
    simp only [hs, ht, hu, hv, Option.bind_some, hrun]
  · intro x hx hlength
    obtain ⟨d', ds'', v', ht', hv'', hx⟩ := Scan.mem_startsHere.1 hx
    obtain ⟨rfl, rfl⟩ : d = d' ∧ ds = ds'' := by simpa [ht] using ht'
    obtain rfl : v = v' := by simpa [hv] using hv''
    refine Scan.mem_startsHere.2 ⟨d, ds', u, hs, hu, .inr (hstarts x ?_ hlength)⟩
    rcases hx with ⟨-, rfl⟩ | hx
    · omega
    · exact hx

/-- The token at the start of the last line. -/
theorem Beside.proceed_crossed {f g : Nat} (hc : isBreak c = false)
    (h : Beside (.remark indent line body c cs) (Crossed line c cs) s t) {t₁ : Scan}
    (ht : t.settle? = some t₁) (hf : cs.length < f) (hg : cs.length < g) :
    ∃ s₁, s.settle? = some s₁ ∧ s₁.proceed f = t₁.proceed g ∧
      s₁.startsHere (Scan.starts f) = t₁.startsHere (Scan.starts g) := by
  obtain ⟨bytes, lines, n, hrel⟩ := h.settle_crossed hc
  obtain ⟨s₁, hs, h₁⟩ := exists_of_rel hrel ht
  refine ⟨s₁, hs, Shifted.proceed h₁ fun u v huv hu hv => huv.run ?_ ?_⟩
  · rw [(Scan.settle_spec hs).1, h.spot.left, List.length_cons] at hu
    omega
  · rw [(Scan.settle_spec ht).1, h.spot.right, List.length_cons] at hv
    omega

end

section

variable {indent line : Nat} {r nl cs : List Char} {c : Char} (hr : ∀ c ∈ r, isBreak c = false)
  (hnl : nl = ['\n'] ∨ nl = ['\r', '\n'])
  (he : e = .remark indent line (r ++ (nl ++ (List.replicate indent ' ' ++ c :: cs))) c cs)
  (hclear : e.IsClear)

include hr hnl he hclear

/-- A token in the last line is the one at its start. -/
theorem Beside.front_edge (h : Beside e (Edge e n) s t) {f g k : Nat}
    (hf : s.spot.rest.length < f) (hg : t.spot.rest.length < g) {t₁ : Scan}
    (ht : (t.skipBlanks g).settle? = some t₁) (hnext : t₁.spot.next isBreak = false)
    (hstart : c :: cs ∈ t₁.startsHere (Scan.starts k)) :
    Beside e (Crossed line c cs) (s.skipBlanks f) (t.skipBlanks g) := by
  obtain ⟨j, hs, ht', -⟩ := (he ▸ h).spot.exists_indent
  obtain ⟨f, rfl⟩ : ∃ f', f = f' + 2 := by
    simp only [hs, List.length_append, List.length_cons] at hf
    rcases hnl with rfl | rfl <;> exact ⟨f - 2, by simp at hf; omega⟩
  obtain ⟨g, rfl⟩ : ∃ g', g = g' + 1 := ⟨g - 1, by omega⟩
  obtain ⟨hspot, hallowed, hflow⟩ := Scan.settle_spec ht
  have hblank : isSpaceOrTab c = false := by
    subst he
    exact hclear.1
  have hlength := length_skipBlanks_indented g ht' hblank
  obtain ⟨d, ds, u, hrest, hu, ⟨hkey, heq⟩ | hlater⟩ := Scan.mem_startsHere.1 hstart
  · rw [hspot, ← heq] at hrest
    rw [hflow, hallowed] at hkey
    exact h.cross hr hnl he hclear hrest hkey
  · -- the tokens after it start too late
    have hu := length_fetchToken hrest hnext hu
    have hlater := length_starts hlater
    rw [← hspot, hrest] at hlength
    simp only [List.length_cons] at hlength hlater
    omega

/-- A comment line before a line that a token starts does not change the tokens. -/
theorem Beside.run_comment (h : Beside e (Near e n) s t) {f g : Nat} (hf : s.spot.rest.length < f)
    (hg : t.spot.rest.length < g) (hstart : c :: cs ∈ t.starts g) :
    s.run f = t.run g ∧ ∀ x ∈ t.starts g, x.length ≤ cs.length + 1 → x ∈ s.starts f := by
  induction g generalizing f s t n with
  | zero => omega
  | succ g ih =>
    obtain ⟨f, rfl⟩ : ∃ f', f = f' + 1 := ⟨f - 1, by omega⟩
    rw [Scan.run_succ, Scan.run_succ, Scan.starts_succ, Scan.starts_succ]
    rw [Scan.starts_succ] at hstart
    cases ht : t.front? with
    | none => simp [ht] at hstart
    | some t₁ =>
      obtain ⟨ht₁, hnext⟩ := front_spec ht
      have hleft := h.spot.length_le_left hclear
      rw [ht] at hstart
      change c :: cs ∈ t₁.startsHere (Scan.starts g) at hstart
      change _ = t₁.proceed g ∧ ∀ x ∈ t₁.startsHere (Scan.starts g), _
      rcases h.front with hrel | ⟨s₀, t₀, f₀, g₀, h₀, hf₀, hg₀, hs, ht'⟩
      · obtain ⟨s₁, hs, h₁⟩ := exists_of_rel hrel ht
        have hs₁ := (front_spec hs).1
        rw [hs]
        exact h₁.proceed he hclear hstart fun u v huv hu hv hlater =>
          ih huv (by omega) (by omega) hlater
      · rw [ht'] at ht
        have hcrossed := h₀.front_edge hr hnl he hclear hf₀ hg₀ ht hnext hstart
        subst he
        have hlength := hcrossed.spot.right
        rw [← (Scan.settle_spec ht).1] at hlength
        rw [hlength, List.length_cons] at ht₁
        obtain ⟨s₁, hs', hproceed, hstarts⟩ :=
          hcrossed.proceed_crossed (f := f) (g := g) hclear.2.1 ht (by omega) (by omega)
        rw [hs, hs']
        change s₁.proceed f = _ ∧ ∀ x ∈ _, _ → x ∈ s₁.startsHere (Scan.starts f)
        rw [hproceed, hstarts]
        exact ⟨rfl, fun x hx _ => hx⟩

end

/-! ### Streams -/

/-- What follows each place of a stream where a token starts and a key is allowed. -/
def starts (cs : List Char) : List (List Char) :=
  Scan.starts (cs.length + 1) { spot := { rest := cs } }

theorem fetchToken_of_blank {c : Char} {cs : List Char} (ht : t.spot.rest = c :: cs)
    (hc : isSpaceOrTab c = true) : t.fetchToken c = none := by
  have hmark : t.spot.atDocumentIndicator = false := by
    have hne : c ≠ '-' ∧ c ≠ '.' := by
      constructor <;> rintro rfl <;> exact absurd hc (by decide)
    simp [Spot.atDocumentIndicator, ht, hne.1, hne.2]
  have hblank : t.spot.atBlankOrEnd = true := by
    simp [Spot.atBlankOrEnd, Spot.blankOrEndAt, ht, hc]
  unfold Scan.fetchToken
  rw [hmark]
  simp only [isSpaceOrTab, Bool.or_eq_true, beq_iff_eq] at hc
  rcases hc with rfl | rfl <;> simp [Scan.startsPlain, hblank]

theorem Scan.exists_of_mem_starts {fuel : Nat} {x : List Char} (h : x ∈ s.starts fuel) :
    ∃ c cs, x = c :: cs ∧ isSpaceOrTab c = false ∧ isBreak c = false := by
  induction fuel generalizing s with
  | zero => cases h
  | succ fuel ih =>
    rw [Scan.starts_succ] at h
    cases ht : s.front? with
    | none => simp [ht] at h
    | some t =>
      rw [ht] at h
      obtain ⟨-, hnext⟩ := front_spec ht
      obtain ⟨c, cs, u, hrest, hu, ⟨-, rfl⟩ | hlater⟩ := Scan.mem_startsHere.1 h
      · refine ⟨c, cs, rfl, ?_, by simpa [Spot.next, hrest] using hnext⟩
        rw [Bool.eq_false_iff]
        intro hblank
        rw [fetchToken_of_blank hrest hblank] at hu
        cases hu
      · exact ih hlater

theorem near_of_line {p : List Char} (hp : p = [] ∨ ∃ q, p = q ++ ['\n']) (indent : Nat)
    (body cs : List Char) (c : Char) : ∃ line n, Near (.remark indent line body c cs) n
      { rest := p ++ (List.replicate indent ' ' ++ '#' :: body) }
      { rest := p ++ (List.replicate indent ' ' ++ c :: cs) } := by
  rcases hp with rfl | ⟨q, rfl⟩
  · exact ⟨0, indent, .inr (.mk (Nat.le_refl _) (Nat.zero_add _))⟩
  · refine ⟨breaks (q ++ ['\n']), _, .inl ⟨rfl, rfl, rfl, Nat.le_add_right _ _, q, ?_, ?_, ?_⟩⟩
    · simp [Ends.left]
    · simp [Ends.right]
    · exact Nat.zero_add _

/-- A comment line before a line that a token starts, of the same indentation, does not change the
tokens of the stream. -/
theorem scan?_comment {p r nl cs : List Char} {indent : Nat} {c : Char}
    (hp : p = [] ∨ ∃ q, p = q ++ ['\n']) (hr : ∀ c ∈ r, isBreak c = false ∧ isAllowed c = true)
    (hnl : nl = ['\n'] ∨ nl = ['\r', '\n'])
    (hstart : c :: cs ∈ starts (p ++ (List.replicate indent ' ' ++ c :: cs))) :
    let text := p ++ (List.replicate indent ' ' ++ c :: cs)
    let text' := p ++ (List.replicate indent ' ' ++
      '#' :: (r ++ (nl ++ (List.replicate indent ' ' ++ c :: cs))))
    scan? text' = scan? text ∧ ∀ x ∈ starts text, x.length ≤ cs.length + 1 → x ∈ starts text' := by
  intro text text'
  obtain ⟨_, _, heq, hblank, hbreak⟩ := Scan.exists_of_mem_starts hstart
  cases heq
  obtain ⟨line, n, hnear⟩ := near_of_line hp indent
    (r ++ (nl ++ (List.replicate indent ' ' ++ c :: cs))) cs c
  have hclear : (Ends.remark indent line
      (r ++ (nl ++ (List.replicate indent ' ' ++ c :: cs))) c cs).IsClear := by
    refine ⟨hblank, hbreak, ?_⟩
    simp only [List.length_append, List.length_cons]
    omega
  have hbeside : Beside (Ends.remark indent line
      (r ++ (nl ++ (List.replicate indent ' ' ++ c :: cs))) c cs)
      (Near (Ends.remark indent line
        (r ++ (nl ++ (List.replicate indent ' ' ++ c :: cs))) c cs) n)
      { spot := { rest := text' } } { spot := { rest := text } } :=
    ⟨hnear, rfl, rfl, rfl, .impossible rfl rfl, .nil, rfl⟩
  obtain ⟨hrun, hstarts⟩ := hbeside.run_comment (fun c hc => (hr c hc).1) hnl rfl hclear
    (Nat.lt_succ_self text'.length) (Nat.lt_succ_self text.length) hstart
  have hall : text'.all isAllowed = text.all isAllowed := by
    have hr : r.all isAllowed = true := List.all_eq_true.2 fun c hc => (hr c hc).2
    have hnl : nl.all isAllowed = true := by rcases hnl with rfl | rfl <;> decide
    have hspaces : (List.replicate indent ' ').all isAllowed = true :=
      List.all_eq_true.2 fun c hc => by
        rw [List.eq_of_mem_replicate hc]
        decide
    have hhash : isAllowed '#' = true := by decide
    simp only [text, text', List.all_append, List.all_cons, hr, hnl, hspaces, hhash, Bool.true_and]
  refine ⟨?_, hstarts⟩
  unfold scan?
  rw [hall, hrun]

end ManifestMarkers.Yaml
