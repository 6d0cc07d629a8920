import ManifestMarkers.Proofs.StreamTokens

/-!
# Rounds of the scanner

A round of the scanner skips blanks and comments, gives up keys and closes blocks, and then fetches
a token.

* `Scan.front?` is the scanner in front of the token, and `Scan.starts` are the places where a round
  finds a token that may be a key.
* `Beside.front`: two scanners are beside each other in front of their tokens, or both have come to
  the last line.
* `Shifted.run`: what is read from the same rest of two streams is the same.
-/

namespace ManifestMarkers.Yaml

/-- The place after a byte order mark at the start of a line. -/
def Spot.pastMark (a : Spot) : Spot :=
  if a.column == 0 && a.next (·.toNat == 0xfeff) then a.skip else a

/-- The place after blanks. -/
def Spot.pastBlanks (tabs : Bool) (a : Spot) : Spot :=
  a.skipWhile fun c => c == ' ' || (tabs && c == '\t')

/-- The place after a comment. -/
def Spot.pastComment (a : Spot) : Spot :=
  if a.next (· == '#') then a.skipWhile (!isBreak ·) else a

/-- The end of the blanks and the comment on this line. -/
def Spot.lineRest (tabs : Bool) (a : Spot) : Spot := (a.pastMark.pastBlanks tabs).pastComment

namespace Scan

/-- The start of the next line. -/
def nextLine (s : Scan) (a : Spot) : Scan :=
  { s with spot := a.readBreak.2, keyAllowed := if s.inFlow then s.keyAllowed else true }

/-- The scanner at the next token, with the keys and the block collections that end before it
closed. -/
def settle? (s : Scan) : Option Scan := s.dropStaleKeys.map fun s => s.unroll s.spot.column

/-- The scanner in front of its next token. -/
def front? (s : Scan) : Option Scan := (s.skipBlanks (s.spot.rest.length + 1)).settle?

/-- Scan from the next token on. -/
def proceed (fuel : Nat) (t : Scan) : Option (Array Token) :=
  match t.spot.rest with
  | [] => t.resetBlocks.map Scan.tokens
  | c :: _ => (t.fetchToken c).bind (run fuel)

/-- What follows the next token's start if a key is allowed there, and the same of later tokens. -/
def startsHere (later : Scan → List (List Char)) (t : Scan) : List (List Char) :=
  match t.spot.rest with
  | [] => []
  | c :: cs =>
    match t.fetchToken c with
    | none => []
    | some u => if t.inFlow || t.keyAllowed then (c :: cs) :: later u else later u

/-- What follows each place where a token starts and a key is allowed. -/
def starts : Nat → Scan → List (List Char)
  | 0, _ => []
  | fuel + 1, s => (s.front?.map (startsHere (starts fuel))).getD []

theorem run_succ (fuel : Nat) (s : Scan) : s.run (fuel + 1) = s.front?.bind (proceed fuel) := by
  unfold front? settle?
  rw [run]
  cases (s.skipBlanks (s.spot.rest.length + 1)).dropStaleKeys with
  | none => rfl
  | some t =>
    simp only [Option.bind_eq_bind, Option.bind_some, Option.map_some, proceed]
    cases hrest : (t.unroll t.spot.column).spot.rest with
    | nil => cases (t.unroll t.spot.column).resetBlocks <;> rfl
    | cons => rfl

theorem starts_succ (fuel : Nat) (s : Scan) :
    s.starts (fuel + 1) = (s.front?.map (startsHere (starts fuel))).getD [] := rfl

theorem mem_startsHere {later : Scan → List (List Char)} {t : Scan} {x : List Char} :
    x ∈ t.startsHere later ↔ ∃ c cs u, t.spot.rest = c :: cs ∧ t.fetchToken c = some u ∧
      ((t.inFlow || t.keyAllowed) = true ∧ x = c :: cs ∨ x ∈ later u) := by
  unfold startsHere
  split
  · next hrest => simp [hrest]
  · next c cs hrest =>
    split
    · next hfetch => simp [hrest, hfetch]
    · next u hfetch => split <;> simp_all

end Scan

variable {e : Ends} {n m : Nat} {s t : Scan} {a b : Spot}

theorem skipBlanks_succ (fuel : Nat) (s : Scan) : s.skipBlanks (fuel + 1) =
    if (s.spot.lineRest (s.inFlow || !s.keyAllowed)).next isBreak then
      (s.nextLine (s.spot.lineRest (s.inFlow || !s.keyAllowed))).skipBlanks fuel
    else s.goTo (s.spot.lineRest (s.inFlow || !s.keyAllowed)) := rfl

theorem Twin.pastMark (h : Twin e n a b) : Twin e n a.pastMark b.pastMark := by
  unfold Spot.pastMark
  rw [h.column, h.next]
  by_cases hmark : (b.column == 0 && b.next (·.toNat == 0xfeff)) = true
  · rw [if_pos hmark, if_pos hmark]
    exact (h.skip_of_next (Bool.and_eq_true_iff.1 hmark).2 (by decide)).2.mono (Nat.sub_le _ _)
  · rwa [if_neg hmark, if_neg hmark]

theorem Twin.pastBlanks (h : Twin e n a b) (tabs : Bool) :
    Twin e n (a.pastBlanks tabs) (b.pastBlanks tabs) := by
  refine (h.readWhile ?_).2
  cases tabs <;> decide

theorem Twin.pastComment (h : Twin e n a b) : Twin e n a.pastComment b.pastComment := by
  unfold Spot.pastComment
  rw [h.next]
  by_cases hhash : b.next (· == '#') = true
  · rw [if_pos hhash, if_pos hhash]
    exact (h.readWhile (p := (!isBreak ·)) (by decide)).2
  · rwa [if_neg hhash, if_neg hhash]

theorem Twin.lineRest (h : Twin e n a b) (tabs : Bool) :
    Twin e n (a.lineRest tabs) (b.lineRest tabs) :=
  (h.pastMark.pastBlanks tabs).pastComment

theorem length_lineRest (tabs : Bool) (a : Spot) :
    (a.lineRest tabs).rest.length ≤ a.rest.length := by
  simpa [Ends.own] using ((Twin.refl a).lineRest tabs).bound

theorem length_readBreak_lt (h : a.next isBreak = true) :
    a.readBreak.2.rest.length < a.rest.length := by
  obtain ⟨hn, -, h₁⟩ := (Twin.refl a).readBreak h
  have hlength := h₁.length_le
  simp only [Ends.own] at hlength
  omega

/-- The blanks and comments before a token stop before the last line or lead into it. -/
theorem Beside.skipBlanks (h : Beside e (Near e n) s t) {f g : Nat}
    (hf : s.spot.rest.length < f) (hg : t.spot.rest.length < g) :
    Beside e (fun a b => Twin e n a b ∧ b.next isBreak = false) (s.skipBlanks f) (t.skipBlanks g) ∨
      ∃ s₁ t₁ f₁ g₁, Beside e (Edge e n) s₁ t₁ ∧ s₁.spot.rest.length < f₁ ∧
        t₁.spot.rest.length < g₁ ∧ s.skipBlanks f = s₁.skipBlanks f₁ ∧
        t.skipBlanks g = t₁.skipBlanks g₁ := by
  induction g generalizing f s t with
  | zero => omega
  | succ g ih =>
    obtain ⟨f, rfl⟩ : ∃ f', f = f' + 1 := ⟨f - 1, by omega⟩
    rcases h.spot with htwin | hedge
    · have htwin := htwin.lineRest (t.inFlow || !t.keyAllowed)
      rw [skipBlanks_succ, skipBlanks_succ, h.inFlow, h.keyAllowed, htwin.next]
      split
      · next hbreak =>
        have hlength := length_lineRest (t.inFlow || !t.keyAllowed) s.spot
        have hlength' := length_lineRest (t.inFlow || !t.keyAllowed) t.spot
        have hlt := length_readBreak_lt ((htwin.next _).trans hbreak)
        have hlt' := length_readBreak_lt hbreak
        refine ih ?_ ?_ ?_
        · exact { h with
            spot := htwin.readBreak_le.2
            keyAllowed := by simp only [Scan.nextLine, h.inFlow, h.keyAllowed] }
        · simp only [Scan.nextLine]
          omega
        · simp only [Scan.nextLine]
          omega
      · next hbreak =>
        left
        exact h.goTo ⟨htwin, by simpa using hbreak⟩
    · right
      exact ⟨s, t, f + 1, g + 1, { h with spot := hedge }, hf, hg, rfl, rfl⟩

/-! ### Possible keys -/

theorem rel_mapM {α β γ δ : Type} {R : α → β → Prop} {S : γ → δ → Prop} {f : α → Option γ}
    {g : β → Option δ} (hfg : ∀ x y, R x y → Option.Rel S (f x) (g y)) {xs : List α} {ys : List β}
    (h : List.Forall₂ R xs ys) : Option.Rel (List.Forall₂ S) (xs.mapM f) (ys.mapM g) := by
  induction h with
  | nil => exact .some .nil
  | cons hxy _ ih =>
    rw [List.mapM_cons, List.mapM_cons]
    exact rel_bind (hfg _ _ hxy) fun z w hzw => rel_bind ih fun zs ws hzws => .some (.cons hzw hzws)

theorem KeyTwin.fresh {k l : KeySpot} (h : KeyTwin e k l) (hab : Twin e n a b) :
    Option.Rel (KeyTwin e) (Scan.freshKey? a k) (Scan.freshKey? b l) := by
  unfold Scan.freshKey?
  cases hp : l.possible with
  | false =>
    rw [h.possible, hp]
    exact .some h
  | true =>
    have hline := h.line hp
    have hindex := h.index hp
    have hline' := hab.line
    have hindex' := hab.index
    have hstale : (k.line < a.line ∨ k.index + Scan.maxKeyLength < a.index) ↔
        (l.line < b.line ∨ l.index + Scan.maxKeyLength < b.index) := by omega
    rw [h.possible, hp, h.required hp]
    simp only [Bool.true_and, Bool.or_eq_true, decide_eq_true_eq, hstale]
    by_cases hb : l.line < b.line ∨ l.index + Scan.maxKeyLength < b.index
    · rw [if_pos hb, if_pos hb]
      cases l.required with
      | true => exact .none
      | false => exact .some (.impossible rfl rfl)
    · rw [if_neg hb, if_neg hb]
      exact .some h

theorem Beside.dropStaleKeys {R : Spot → Spot → Prop} {e' : Ends} (h : Beside e R s t)
    (hfresh : ∀ k l, KeyTwin e k l →
      Option.Rel (KeyTwin e') (Scan.freshKey? s.spot k) (Scan.freshKey? t.spot l)) :
    Option.Rel (Beside e' R) s.dropStaleKeys t.dropStaleKeys :=
  rel_bind (hfresh _ _ h.key) fun _ _ hkey =>
    rel_bind (rel_mapM hfresh h.outerKeys) fun _ _ hkeys =>
      .some { h with key := hkey, outerKeys := hkeys }

theorem Beside.settle {R : Spot → Spot → Prop} {e' : Ends} (h : Beside e R s t)
    (hfresh : ∀ k l, KeyTwin e k l →
      Option.Rel (KeyTwin e') (Scan.freshKey? s.spot k) (Scan.freshKey? t.spot l))
    (hcolumn : ∀ a b, R a b → a.column = b.column) :
    Option.Rel (Beside e' R) s.settle? t.settle? := by
  refine rel_map (h.dropStaleKeys hfresh) fun s' t' h' => ?_
  rw [hcolumn _ _ h'.spot]
  exact h'.unroll _

/-! ### Rounds -/

theorem KeyTwin.refl (k : KeySpot) : KeyTwin (.moved 0 0) k k :=
  ⟨rfl, fun _ => rfl, fun _ => rfl, fun _ => by simp [Ends.bytes], fun _ => by simp [Ends.lines],
    fun _ => rfl, fun _ => trivial⟩

theorem Beside.refl {R : Spot → Spot → Prop} (hR : R s.spot s.spot) : Beside (.moved 0 0) R s s :=
  ⟨hR, rfl, rfl, rfl, .refl _, List.forall₂_same.2 fun _ _ => .refl _, rfl⟩

/-- The next token is before the last line, or the scanners get there. -/
theorem Beside.front (h : Beside e (Near e n) s t) :
    Option.Rel (Beside e (fun a b => Twin e n a b ∧ b.next isBreak = false)) s.front? t.front? ∨
      ∃ s₁ t₁ f₁ g₁, Beside e (Edge e n) s₁ t₁ ∧ s₁.spot.rest.length < f₁ ∧
        t₁.spot.rest.length < g₁ ∧ s.front? = (s₁.skipBlanks f₁).settle? ∧
        t.front? = (t₁.skipBlanks g₁).settle? := by
  unfold Scan.front?
  rcases h.skipBlanks (Nat.lt_succ_self _) (Nat.lt_succ_self _) with h₁ | h₁
  · left
    exact h₁.settle (fun _ _ hkey => hkey.fresh h₁.spot.1) fun _ _ hab => hab.1.column
  · right
    obtain ⟨s₁, t₁, f₁, g₁, h₁, hf, hg, hs, ht⟩ := h₁
    exact ⟨s₁, t₁, f₁, g₁, h₁, hf, hg, congrArg _ hs, congrArg _ ht⟩

theorem isClear_moved {bytes lines : Int} : (Ends.moved bytes lines).IsClear := trivial

theorem not_edge_moved {bytes lines : Int} : ¬Edge (.moved bytes lines) n a b := nofun

/-- The round before a token reads no part of it. -/
theorem front_spec (h : s.front? = some t) :
    t.spot.rest.length ≤ s.spot.rest.length ∧ t.spot.next isBreak = false := by
  have hself : Beside (.moved 0 0) (Near (.moved 0 0) s.spot.rest.length) s s :=
    .refl (.inl (.refl _))
  rcases hself.front with hrel | ⟨_, _, _, _, hedge, -⟩
  · obtain ⟨t', ht', h'⟩ := exists_of_rel hrel h
    have hbound := h'.spot.1.bound
    exact ⟨by simpa [Ends.own] using hbound, h'.spot.2⟩
  · exact absurd hedge.spot not_edge_moved

/-- Each round reads at least one character. -/
theorem length_fetchToken {c : Char} {cs : List Char} {u : Scan} (ht : t.spot.rest = c :: cs)
    (hc : t.spot.next isBreak = false) (h : t.fetchToken c = some u) :
    u.spot.rest.length ≤ cs.length := by
  have hself : Beside (.moved 0 0) (Ahead (.moved 0 0) t.spot.rest.length) t t :=
    .refl ⟨.refl _, by simpa [Spot.next, ht] using hc⟩
  obtain ⟨_, _, h'⟩ := hself.fetchToken isClear_moved ht u h (Nat.zero_le _)
  have hbound := h'.spot.length_le
  simpa [Ends.own, ht] using hbound

/-! ### The same rest of two streams -/

/-- Two scanners that have read the same and have the same in front of them. -/
def Shifted (s t : Scan) : Prop :=
  ∃ bytes lines n, Beside (.moved bytes lines) (Near (.moved bytes lines) n) s t

theorem Twin.symm_moved {bytes lines : Int} (h : Twin (.moved bytes lines) n a b) :
    Twin (.moved (-bytes) (-lines)) n b a := by
  obtain ⟨p, ha, hb, -⟩ := h.rest
  have hindex := h.index
  have hline := h.line
  have hbound := h.bound
  simp only [Ends.bytes, Ends.lines] at hindex hline
  refine ⟨h.column.symm, ?_, ?_, ?_, p, hb, ha, trivial⟩
  · simp only [Ends.bytes]
    omega
  · simp only [Ends.lines]
    omega
  · rw [ha]
    rwa [hb] at hbound

theorem KeyTwin.symm_moved {bytes lines : Int} {k l : KeySpot}
    (h : KeyTwin (.moved bytes lines) k l) : KeyTwin (.moved (-bytes) (-lines)) l k := by
  have hl (hk : k.possible = true) : l.possible = true := h.possible ▸ hk
  refine ⟨h.possible.symm, fun hk => (h.required (hl hk)).symm, fun hk => (h.token (hl hk)).symm,
    fun hk => ?_, fun hk => ?_, fun hk => (h.column (hl hk)).symm, fun _ => trivial⟩
  · have hindex := h.index (hl hk)
    simp only [Ends.bytes] at hindex ⊢
    omega
  · have hline := h.line (hl hk)
    simp only [Ends.lines] at hline ⊢
    omega

theorem Beside.symm_moved {bytes lines : Int} {R S : Spot → Spot → Prop}
    (h : Beside (.moved bytes lines) R s t) (hRS : ∀ a b, R a b → S b a) :
    Beside (.moved (-bytes) (-lines)) S t s := by
  refine ⟨hRS _ _ h.spot, h.tokens.symm, h.indent.symm, h.outer.symm, h.key.symm_moved, ?_,
    h.keyAllowed.symm⟩
  exact List.Forall₂.flip (h.outerKeys.imp fun _ _ hkey => hkey.symm_moved)

theorem Shifted.fetchToken {bytes lines : Int} {c : Char} {cs : List Char}
    (h : Beside (.moved bytes lines) (Ahead (.moved bytes lines) n) s t)
    (ht : t.spot.rest = c :: cs) : Option.Rel Shifted (s.fetchToken c) (t.fetchToken c) := by
  cases hfetch : t.fetchToken c with
  | some u =>
    obtain ⟨v, hv, huv⟩ := h.fetchToken isClear_moved ht u hfetch (Nat.zero_le _)
    rw [hv]
    exact .some ⟨bytes, lines, _, huv⟩
  | none =>
    cases hfetch' : s.fetchToken c with
    | none => exact .none
    | some v =>
      -- the left scanner has no token either, because the right one would have it too
      have hsymm : Beside (.moved (-bytes) (-lines)) (Ahead (.moved (-bytes) (-lines)) n) t s :=
        h.symm_moved fun _ _ hab => ⟨hab.twin.symm_moved, (hab.twin.next _).trans hab.next⟩
      obtain ⟨d, hd⟩ : ∃ d, s.spot.rest = c :: d := by
        rcases h.spot.twin.rest_cases with ⟨-, hnil⟩ | ⟨c', d, _, hs, ht'⟩
        · simp [ht] at hnil
        · rw [ht] at ht'
          cases ht'
          exact ⟨d, hs⟩
      obtain ⟨_, hu, -⟩ := hsymm.fetchToken isClear_moved hd v hfetch' (Nat.zero_le _)
      rw [hfetch] at hu
      cases hu

theorem Beside.ahead {c : Char} {cs : List Char}
    (h : Beside e (fun a b => Twin e n a b ∧ b.next isBreak = false) s t)
    (ht : t.spot.rest = c :: cs) : Beside e (Ahead e n) s t := by
  refine { h with spot := ⟨h.spot.1, ?_⟩ }
  have hnext := h.spot.2
  simp_all [Spot.next]

theorem Twin.rest_moved {bytes lines : Int} (h : Twin (.moved bytes lines) n a b) :
    a.rest = b.rest := by
  obtain ⟨p, ha, hb, -⟩ := h.rest
  exact ha.trans hb.symm

/-- What is read from the same rest is the same from the next token on, if it is after it. -/
theorem Shifted.proceed {bytes lines : Int} {f g : Nat}
    (h : Beside (.moved bytes lines) (fun a b => Twin (.moved bytes lines) n a b ∧
      b.next isBreak = false) s t)
    (hlater : ∀ u v, Shifted u v → u.spot.rest.length < s.spot.rest.length →
      v.spot.rest.length < t.spot.rest.length → u.run f = v.run g ∧ u.starts f = v.starts g) :
    s.proceed f = t.proceed g ∧ s.startsHere (Scan.starts f) = t.startsHere (Scan.starts g) := by
  have hrest := h.spot.1.rest_moved
  unfold Scan.proceed Scan.startsHere
  rw [hrest]
  cases ht : t.spot.rest with
  | nil =>
    simp only [and_true]
    generalize s.resetBlocks = x, t.resetBlocks = y, h.resetBlocks = hrel
    cases hrel with
    | none => rfl
    | some hrel => exact congrArg some hrel.tokens
  | cons c cs =>
    have hrel := Shifted.fetchToken (h.ahead ht) ht
    have hnext : s.spot.next isBreak = false := (h.spot.1.next _).trans h.spot.2
    simp only [h.inFlow, h.keyAllowed]
    generalize hs' : s.fetchToken c = x at hrel
    generalize ht' : t.fetchToken c = y at hrel
    cases hrel with
    | none => exact ⟨rfl, rfl⟩
    | @some u v huv =>
      have hu := length_fetchToken (hrest.trans ht) hnext hs'
      have hv := length_fetchToken ht h.spot.2 ht'
      rw [hrest, ht, List.length_cons] at hlater
      obtain ⟨hrun, hstarts⟩ := hlater u v huv (by omega) (by omega)
      simp only [Option.bind_some, hrun, hstarts, and_self]

/-- What is read from the same rest is the same. -/
theorem Shifted.run (h : Shifted s t) {f g : Nat} (hf : s.spot.rest.length < f)
    (hg : t.spot.rest.length < g) : s.run f = t.run g ∧ s.starts f = t.starts g := by
  induction g generalizing f s t with
  | zero => omega
  | succ g ih =>
    obtain ⟨f, rfl⟩ : ∃ f', f = f' + 1 := ⟨f - 1, by omega⟩
    obtain ⟨bytes, lines, n, h⟩ := h
    have hrel := h.front.resolve_right fun ⟨_, _, _, _, hedge, _⟩ => not_edge_moved hedge.spot
    rw [Scan.run_succ, Scan.run_succ, Scan.starts_succ, Scan.starts_succ]
    generalize hs : s.front? = x at hrel
    generalize ht : t.front? = y at hrel
    cases hrel with
    | none => exact ⟨rfl, rfl⟩
    | @some s₁ t₁ h₁ =>
      have hs₁ := (front_spec hs).1
      have ht₁ := (front_spec ht).1
      exact Shifted.proceed h₁ fun u v huv hu hv => ih huv (by omega) (by omega)

theorem Scan.settle_spec (h : s.settle? = some t) :
    t.spot = s.spot ∧ t.keyAllowed = s.keyAllowed ∧ t.inFlow = s.inFlow := by
  obtain ⟨u, hu, rfl⟩ := Option.map_eq_some_iff.1 h
  obtain ⟨key, -, hu⟩ := Option.bind_eq_some_iff.1 hu
  obtain ⟨keys, hkeys, hu⟩ := Option.bind_eq_some_iff.1 hu
  cases hu
  have hflow : keys.isEmpty = s.outerKeys.isEmpty := by
    cases houter : s.outerKeys with
    | nil =>
      rw [houter] at hkeys
      cases hkeys
      rfl
    | cons k ks =>
      rw [houter, List.mapM_cons] at hkeys
      obtain ⟨l, -, hkeys⟩ := Option.bind_eq_some_iff.1 hkeys
      obtain ⟨ls, -, hkeys⟩ := Option.bind_eq_some_iff.1 hkeys
      cases hkeys
      rfl
  unfold Scan.unroll Scan.inFlow
  dsimp only
  rw [hflow]
  split
  · exact ⟨rfl, rfl, congrArg _ hflow⟩
  · exact ⟨rfl, rfl, congrArg _ hflow⟩

theorem length_starts {fuel : Nat} {x : List Char} (h : x ∈ s.starts fuel) :
    x.length ≤ s.spot.rest.length := by
  induction fuel generalizing s with
  | zero => cases h
  | succ fuel ih =>
    rw [Scan.starts_succ] at h
    cases ht : s.front? with
    | none => simp [ht] at h
    | some t =>
      rw [ht] at h
      obtain ⟨hlength, hnext⟩ := front_spec ht
      obtain ⟨c, cs, u, hrest, hu, hx⟩ := Scan.mem_startsHere.1 h
      rcases hx with ⟨-, rfl⟩ | hx
      · rwa [hrest] at hlength
      · have hu := length_fetchToken hrest hnext hu
        have hx := ih hx
        rw [hrest, List.length_cons] at hlength
        omega

end ManifestMarkers.Yaml
