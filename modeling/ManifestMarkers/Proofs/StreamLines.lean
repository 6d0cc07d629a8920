import ManifestMarkers.Proofs.StreamPlaces

/-!
# Reading on a line of two streams

Readers that stay on a line read the same in two streams, because the streams are the same as far as
the end of the line (`Twin.exists_line`). These are document indicators, directives, tags, anchors,
the pieces of plain and quoted scalars, and the headers of block scalars.
-/

namespace ManifestMarkers.Yaml

variable {e : Ends} {n : Nat} {s t : Spot}

/-- What is left of the line is the same in both streams, and so is what ends it. -/
theorem Twin.exists_line (h : Twin e n s t) :
    ∃ q a b, s.rest = q ++ a ∧ t.rest = q ++ b ∧ (∀ c ∈ q, isBreak c = false) ∧
      (∀ c ∈ a.head?, isBreak c = true) ∧ (∀ c ∈ b.head?, isBreak c = true) := by
  have hq : ∀ c ∈ t.rest.takeWhile (!isBreak ·), isBreak c = false := by
    intro c hc
    simpa using List.all_eq_true.1 List.all_takeWhile c hc
  obtain ⟨a, hs, ha, hb, -, htwin⟩ :=
    h.skipMany (List.takeWhile_append_dropWhile (p := (!isBreak ·))).symm hq
  have hends : ∀ c ∈ (t.rest.dropWhile (!isBreak ·)).head?, isBreak c = true := by
    intro c hc
    have hnot := List.head?_dropWhile_not (!isBreak ·) t.rest
    rw [Option.mem_def.1 hc] at hnot
    simpa using hnot
  refine ⟨_, a, _, hs, (List.takeWhile_append_dropWhile (p := (!isBreak ·))).symm, hq, ?_, hends⟩
  rwa [← ha, htwin.head?_eq, hb]

/-- What the line starts with is the same in both streams. -/
theorem Twin.prefix_iff (h : Twin e n s t) {q : List Char} (hq : ∀ c ∈ q, isBreak c = false) :
    q <+: s.rest ↔ q <+: t.rest := by
  obtain ⟨l, a, b, hs, ht, -, ha, hb⟩ := h.exists_line
  have hline {u : List Char} (hu : ∀ c ∈ u.head?, isBreak c = true) : q <+: l ++ u ↔ q <+: l := by
    clear hs ht
    induction l generalizing q with
    | nil =>
      cases q with
      | nil => simp
      | cons c q =>
        refine ⟨?_, nofun⟩
        rintro ⟨v, rfl⟩
        have := hu c rfl
        simp [hq c (by simp)] at this
    | cons d l ih =>
      cases q with
      | nil => simp
      | cons c q =>
        rw [List.forall_mem_cons] at hq
        simp [List.cons_prefix_cons, ih hq.2]
  rw [hs, ht, hline ha, hline hb]

theorem Twin.atDocumentIndicator (h : Twin e n s t) :
    s.atDocumentIndicator = t.atDocumentIndicator := by
  have hmark (q : List Char) (hlength : q.length = 3) (hq : ∀ c ∈ q, isBreak c = false) :
      (s.blankOrEndAt 3 && s.rest.take 3 == q) = (t.blankOrEndAt 3 && t.rest.take 3 == q) := by
    have htake (u : Spot) : (u.rest.take 3 == q) = decide (q <+: u.rest) := by
      rw [Bool.eq_iff_iff, beq_iff_eq, decide_eq_true_iff, List.prefix_iff_eq_take, hlength]
      exact eq_comm
    have hsame : decide (q <+: s.rest) = decide (q <+: t.rest) :=
      decide_eq_decide.2 (h.prefix_iff hq)
    rw [htake, htake, hsame]
    by_cases hstart : q <+: t.rest
    · obtain ⟨b, hb⟩ := hstart
      obtain ⟨-, -, -, -, -, h₁⟩ := h.skipMany hb.symm hq
      rw [hlength] at h₁
      have hblank := h₁.atBlankOrEnd
      simp only [Spot.atBlankOrEnd, Spot.blankOrEndAt, Spot.skipMany, List.drop_zero] at hblank
      simp only [Spot.blankOrEndAt, hblank]
    · simp [hstart]
  simp only [Spot.atDocumentIndicator, h.column, Bool.and_or_distrib_left, Bool.and_assoc]
  rw [hmark ['-', '-', '-'] rfl (isBreak_of_any (by decide)),
    hmark ['.', '.', '.'] rfl (isBreak_of_any (by decide))]

theorem Twin.skipIndicator (h : Twin e n s t) (hmark : t.atDocumentIndicator = true) :
    Twin e (n - 3) (s.skipMany 3) (t.skipMany 3) := by
  have hskip (q : List Char) (hlength : q.length = 3) (hq : ∀ c ∈ q, isBreak c = false)
      (htake : t.rest.take 3 = q) : Twin e (n - 3) (s.skipMany 3) (t.skipMany 3) := by
    have hline : t.rest = q ++ t.rest.drop 3 := by rw [← htake, List.take_append_drop]
    obtain ⟨-, -, -, -, -, h₁⟩ := h.skipMany hline hq
    rwa [hlength] at h₁
  simp only [Spot.atDocumentIndicator, Bool.and_eq_true, Bool.or_eq_true, beq_iff_eq] at hmark
  rcases hmark.2 with htake | htake
  · exact hskip _ rfl (isBreak_of_any (by decide)) htake
  · exact hskip _ rfl (isBreak_of_any (by decide)) htake

/-! ### Directives, tags and anchors -/

theorem hexDigit?_of_isBreak {c : Char} (h : isBreak c = true) : Text.hexDigit? c = none := by
  have hall : breakChars.all (fun c => (Text.hexDigit? c).isNone) = true := by decide
  exact Option.isNone_iff_eq_none.1 (List.all_eq_true.1 hall c (isBreak_iff.1 h))

theorem Twin.readNumber (h : Twin e n s t) :
    Option.Rel (Both (Twin e n)) (Scan.readNumber s) (Scan.readNumber t) := by
  obtain ⟨hread, hplace⟩ := h.readWhile (p := Char.isDigit) (by decide)
  unfold Scan.readNumber
  dsimp only
  rw [hread]
  split
  · exact .none
  · exact .some ⟨rfl, hplace⟩

/-- An escape is not longer than the line. -/
theorem readTagByte_eq_none {q a : List Char} (hq : q.length < 3)
    (ha : ∀ c ∈ a.head?, isBreak c = true) (hs : s.rest = q ++ a) :
    Scan.readTagByte s = none := by
  unfold Scan.readTagByte
  split
  · next hi lo rest heq =>
    rw [hs] at heq
    match q, hq with
    | [], _ =>
      obtain rfl : a = _ := heq
      exact absurd (ha '%' rfl) (by decide)
    | [_], _ =>
      obtain ⟨rfl, rfl⟩ : _ ∧ a = _ := by simpa using heq
      simp [hexDigit?_of_isBreak (ha hi rfl)]
    | [_, _], _ =>
      obtain ⟨rfl, rfl, rfl⟩ : _ ∧ _ ∧ a = _ := by simpa using heq
      simp [hexDigit?_of_isBreak (ha lo rfl)]
  · rfl

theorem Twin.readTagByte (h : Twin e n s t) :
    Option.Rel (Both (Twin e (n - 1))) (Scan.readTagByte s) (Scan.readTagByte t) := by
  obtain ⟨q, a, b, hs, ht, hq, ha, hb⟩ := h.exists_line
  match q with
  | d :: hi :: lo :: q =>
    obtain ⟨-, -, -, -, -, h₁⟩ := h.skipMany (q := [d, hi, lo]) ht (fun c hc => hq c (by grind))
    by_cases hd : d = '%'
    · subst hd
      simp only [Scan.readTagByte, hs, ht, List.cons_append]
      cases Text.hexDigit? hi with
      | none => exact .none
      | some hi =>
        cases Text.hexDigit? lo with
        | none => exact .none
        | some lo => exact .some ⟨rfl, h₁.mono (by simp; omega)⟩
    · simp [Scan.readTagByte, hs, ht, hd]
  | [] | [_] | [_, _] =>
    rw [readTagByte_eq_none (by simp) ha hs, readTagByte_eq_none (by simp) hb ht]
    exact .none

theorem Twin.readTagTail (h : Twin e n s t) (k : Nat) :
    Option.Rel (Both (Twin e n)) (Scan.readTagTail k s) (Scan.readTagTail k t) := by
  induction k generalizing s t with
  | zero => exact .some ⟨rfl, h⟩
  | succ k ih =>
    refine both_bind h.readTagByte fun byte s₁ t₁ h₁ => ?_
    dsimp only
    split
    · exact .none
    · exact both_bind (ih (h₁.mono (Nat.sub_le _ _))) fun more s₂ t₂ h₂ => .some ⟨rfl, h₂⟩

theorem Twin.readTagEscape (h : Twin e n s t) :
    Option.Rel (Both (Twin e (n - 1))) (Scan.readTagEscape s) (Scan.readTagEscape t) := by
  refine both_bind h.readTagByte fun byte s₁ t₁ h₁ => rel_bind (rel_refl _) ?_
  rintro k _ rfl
  exact both_bind (h₁.readTagTail k) fun more s₂ t₂ h₂ => .some ⟨rfl, h₂⟩

theorem Twin.readTagChars (h : Twin e n s t) {f g : Nat} (hf : n ≤ f) (hg : n ≤ g)
    (delimited : Bool) :
    Option.Rel (Both (Twin e n)) (Scan.readTagChars delimited f s)
      (Scan.readTagChars delimited g t) := by
  induction n generalizing s t f g with
  | zero =>
    obtain ⟨hs, ht⟩ := h.rest_of_zero
    cases f <;> cases g <;> simp only [Scan.readTagChars, hs, ht] <;> exact .some ⟨rfl, h⟩
  | succ n ih =>
    obtain ⟨f, rfl⟩ : ∃ k, f = k + 1 := ⟨f - 1, by omega⟩
    obtain ⟨g, rfl⟩ : ∃ k, g = k + 1 := ⟨g - 1, by omega⟩
    rcases h.rest_cases with ⟨hs, ht⟩ | ⟨c, a, b, hs, ht⟩
    · simp only [Scan.readTagChars, hs, ht]
      exact .some ⟨rfl, h⟩
    · simp only [Scan.readTagChars, hs, ht]
      split
      · exact .some ⟨rfl, h⟩
      · next htag =>
        have hc : isBreak c = false := by
          refine isBreak_of_class (p := Scan.isTagChar delimited) ?_ (by simpa using htag)
          cases delimited <;> decide
        have hmore (first : List UInt8) (s₁ t₁ : Spot) (h₁ : Twin e n s₁ t₁) :
            Option.Rel (Both (Twin e (n + 1)))
              ((Scan.readTagChars delimited f s₁).bind fun r => some (first ++ r.1, r.2))
              ((Scan.readTagChars delimited g t₁).bind fun r => some (first ++ r.1, r.2)) :=
          both_bind (ih h₁ (by omega) (by omega)) fun more s₂ t₂ h₂ =>
            .some ⟨rfl, h₂.mono (Nat.le_succ _)⟩
        split
        · exact both_bind h.readTagEscape hmore
        · obtain ⟨-, -, -, -, -, h₁⟩ := h.skip ht hc
          exact hmore _ _ _ h₁

theorem Twin.readTagText (h : Twin e n s t) (delimited : Bool) :
    Option.Rel (Both (Twin e n)) (Scan.readTagChars delimited s.rest.length s)
      (Scan.readTagChars delimited t.rest.length t) := by
  obtain ⟨m, hm, hs, ht, h⟩ := h.exact
  exact both_mono (h.readTagChars hs ht delimited) fun _ _ h => h.mono hm

theorem Twin.readHandle (h : Twin e n s t) :
    Option.Rel (Both (Twin e (n - 1))) (Scan.readHandle s) (Scan.readHandle t) := by
  rcases h.rest_cases with ⟨hs, ht⟩ | ⟨c, a, b, hs, ht⟩
  · simp only [Scan.readHandle, hs, ht]
    exact .none
  · by_cases hc : c = '!'
    · subst hc
      obtain ⟨-, -, -, -, -, h₁⟩ := h.skip ht (by decide)
      obtain ⟨hname, h₂⟩ := h₁.readWhile (p := isNameChar) (by decide)
      simp only [Scan.readHandle, hs, ht, hname, h₂.next]
      split
      · next hmark =>
        obtain ⟨-, h₃⟩ := h₂.skip_of_next hmark (by decide)
        exact .some ⟨rfl, h₃.mono (Nat.sub_le _ _)⟩
      · exact .some ⟨rfl, h₂⟩
    · simp [Scan.readHandle, hs, ht, hc]

theorem Twin.readTag (h : Twin e n s t) (inFlow : Bool) :
    Option.Rel (Both (Twin e (n - 1))) (Scan.readTag inFlow s) (Scan.readTag inFlow t) := by
  have hend (tag : Token) (s₁ t₁ : Spot) (h₁ : Twin e (n - 1) s₁ t₁) :
      Option.Rel (Both (Twin e (n - 1)))
      (if s₁.atBlankOrEnd || (inFlow && s₁.next (· == ',')) then some (tag, s₁) else none)
      (if t₁.atBlankOrEnd || (inFlow && t₁.next (· == ',')) then some (tag, t₁) else none) := by
    rw [h₁.atBlankOrEnd, h₁.next]
    split
    · exact .some ⟨rfl, h₁⟩
    · exact .none
  by_cases hstart : ['!', '<'] <+: t.rest
  · obtain ⟨b, hb⟩ := hstart
    obtain ⟨a, hs, -, -, -, h₁⟩ := h.skipMany hb.symm (isBreak_of_any (by decide))
    simp only [Scan.readTag, hs, ← hb, List.cons_append]
    refine both_bind (h₁.readTagText true) fun suffix s₂ t₂ h₂ => ?_
    dsimp only
    rw [h₂.next]
    split
    · exact .none
    · next hclose =>
      obtain ⟨-, h₃⟩ := h₂.skip_of_next (p := (· == '>')) (by simp_all) (by decide)
      exact hend _ _ _ (h₃.mono (by simp; omega))
  · have hstart' : ¬['!', '<'] <+: s.rest := fun hs =>
      hstart ((h.prefix_iff (isBreak_of_any (by decide))).1 hs)
    unfold Scan.readTag
    dsimp only
    split
    · next a hs => exact absurd ⟨a, hs.symm⟩ hstart'
    split
    · next b ht => exact absurd ⟨b, ht.symm⟩ hstart
    refine both_bind h.readHandle fun handle s₁ t₁ h₁ => ?_
    refine both_bind (h₁.readTagText false) fun suffix s₂ t₂ h₂ => ?_
    dsimp only
    split
    · split
      · exact .none
      · exact hend _ _ _ h₂
    · exact hend _ _ _ h₂

theorem Twin.readVersion (h : Twin e n s t) :
    Option.Rel (Both (Twin e n)) (Scan.readVersion s) (Scan.readVersion t) := by
  obtain ⟨-, h₁⟩ := h.readWhile (p := isSpaceOrTab) (by decide)
  refine both_bind h₁.readNumber fun major s₂ t₂ h₂ => ?_
  dsimp only
  rw [h₂.next]
  split
  · exact .none
  · next hdot =>
    obtain ⟨-, h₃⟩ := h₂.skip_of_next (by simpa using hdot) (by decide)
    exact both_bind h₃.readNumber fun minor s₄ t₄ h₄ => .some ⟨rfl, h₄.mono (Nat.sub_le _ _)⟩

theorem Twin.readTagDirective (h : Twin e n s t) :
    Option.Rel (Both (Twin e n)) (Scan.readTagDirective s) (Scan.readTagDirective t) := by
  obtain ⟨-, h₁⟩ := h.readWhile (p := isSpaceOrTab) (by decide)
  refine both_bind h₁.readHandle fun handle s₂ t₂ h₂ => ?_
  dsimp only
  rw [h₂.next]
  split
  · exact .none
  · split
    · exact .none
    · obtain ⟨-, h₃⟩ := h₂.readWhile (p := isSpaceOrTab) (by decide)
      refine both_bind (h₃.readTagText true) fun lead s₄ t₄ h₄ => ?_
      dsimp only
      rw [h₄.atBlankOrEnd]
      split
      · exact .none
      · exact .some ⟨rfl, h₄.mono (Nat.sub_le _ _)⟩

theorem Twin.readAnchorName (h : Twin e n s t) :
    Option.Rel (Both (Twin e n)) (Scan.readAnchorName s) (Scan.readAnchorName t) := by
  obtain ⟨hname, h₁⟩ := h.readWhile (p := isNameChar) (by decide)
  unfold Scan.readAnchorName
  dsimp only
  rw [hname, h₁.atBlankOrEnd, h₁.next]
  split
  · exact .none
  · split
    · exact .some ⟨rfl, h₁⟩
    · exact .none

/-! ### Pieces of scalars -/

theorem Twin.readPlainPiece (h : Twin e n s t) {f g : Nat} (hf : n < f) (hg : n < g)
    (inFlow : Bool) :
    Option.Rel (Both (Twin e n)) (Yaml.readPlainPiece inFlow f s)
      (Yaml.readPlainPiece inFlow g t) := by
  induction n generalizing s t f g with
  | zero =>
    obtain ⟨f, rfl⟩ : ∃ k, f = k + 1 := ⟨f - 1, by omega⟩
    obtain ⟨g, rfl⟩ : ∃ k, g = k + 1 := ⟨g - 1, by omega⟩
    obtain ⟨hs, ht⟩ := h.rest_of_zero
    simp only [Yaml.readPlainPiece, hs, ht]
    exact .some ⟨rfl, h⟩
  | succ n ih =>
    obtain ⟨f, rfl⟩ : ∃ k, f = k + 1 := ⟨f - 1, by omega⟩
    obtain ⟨g, rfl⟩ : ∃ k, g = k + 1 := ⟨g - 1, by omega⟩
    rcases h.rest_cases with ⟨hs, ht⟩ | ⟨c, a, b, hs, ht⟩
    · simp only [Yaml.readPlainPiece, hs, ht]
      exact .some ⟨rfl, h⟩
    · simp only [Yaml.readPlainPiece, hs, ht, h.atBlankOrEnd]
      split
      · exact .some ⟨rfl, h⟩
      · next hblank =>
        have hc : isBreak c = false := by
          simp_all [Spot.atBlankOrEnd, Spot.blankOrEndAt]
        obtain ⟨_, hs', ha, hb, -, h₁⟩ := h.skip ht hc
        cases hs.symm.trans hs'
        have hend : s.blankOrEndAt 1 = t.blankOrEndAt 1 := h₁.atBlankOrEnd
        have hrest := ih h₁ (f := f) (g := g) (by omega) (by omega)
        -- the character after a colon is the same on both sides
        have hsame (flow : Bool) : Option.Rel (Both (Twin e (n + 1)))
            (if inFlow && c == ':' && flow then none
              else if c == ':' && s.blankOrEndAt 1 then some ([], s)
              else if inFlow && isFlowIndicator c then some ([], s)
              else (Yaml.readPlainPiece inFlow f s.skip).map fun r => (c :: r.1, r.2))
            (if inFlow && c == ':' && flow then none
              else if c == ':' && t.blankOrEndAt 1 then some ([], t)
              else if inFlow && isFlowIndicator c then some ([], t)
              else (Yaml.readPlainPiece inFlow g t.skip).map fun r => (c :: r.1, r.2)) := by
          rw [hend]
          split
          · exact .none
          split
          · exact .some ⟨rfl, h⟩
          split
          · exact .some ⟨rfl, h⟩
          exact both_map hrest fun piece s₂ t₂ h₂ => ⟨rfl, h₂.mono (Nat.le_succ _)⟩
        rcases h₁.rest_cases with ⟨ha', hb'⟩ | ⟨d, a', b', ha', hb'⟩
        · cases ha.symm.trans ha'
          cases hb.symm.trans hb'
          exact hsame false
        · cases ha.symm.trans ha'
          cases hb.symm.trans hb'
          exact hsame _

theorem hexValueFrom?_of_isBreak {ds : List Char} (h : ∃ c ∈ ds, isBreak c = true) (value : Nat) :
    Lexeme.hexValueFrom? value ds = none := by
  obtain ⟨c, hc, hbreak⟩ := h
  induction ds generalizing value with
  | nil => cases hc
  | cons d ds ih =>
    unfold Lexeme.hexValueFrom?
    rcases List.mem_cons.1 hc with rfl | hc
    · rw [hexDigit?_of_isBreak hbreak]
    · split
      · exact ih _ hc
      · rfl

theorem Twin.readQuotedEscape (h : Twin e n s t) :
    Option.Rel (Both (Twin e (n - 1))) (Yaml.readQuotedEscape s) (Yaml.readQuotedEscape t) := by
  obtain ⟨q, a, b, hs, ht, hq, ha, hb⟩ := h.exists_line
  cases q with
  | nil =>
    have hnone {u : Spot} {v : List Char} (hu : u.rest = v) (hv : ∀ c ∈ v.head?, isBreak c = true) :
        Yaml.readQuotedEscape u = none := by
      cases v with
      | nil => simp [Yaml.readQuotedEscape, hu]
      | cons c v =>
        have hall : breakChars.all (fun c => (codeDigits? c).isNone && (quotedEscape? c).isNone) =
            true := by decide
        have hnone := List.all_eq_true.1 hall c (isBreak_iff.1 (hv c rfl))
        simp only [Bool.and_eq_true, Option.isNone_iff_eq_none] at hnone
        simp [Yaml.readQuotedEscape, hu, hnone.1, hnone.2]
    rw [hnone hs ha, hnone ht hb]
    exact .none
  | cons c q =>
    simp only [Yaml.readQuotedEscape, hs, ht, List.cons_append]
    cases codeDigits? c with
    | none =>
      obtain ⟨-, -, -, -, -, h₁⟩ := h.skip ht (hq c (by simp))
      cases quotedEscape? c with
      | none => exact .none
      | some e => exact .some ⟨rfl, h₁⟩
    | some k =>
      by_cases hk : k ≤ q.length
      · have hdigits : (c :: q.take k).length = k + 1 := by simp [hk]
        have hline : t.rest = c :: q.take k ++ (q.drop k ++ b) := by simp [ht, ← List.append_assoc]
        obtain ⟨-, -, -, -, -, h₁⟩ := h.skipMany hline fun d hd => hq d (by
          rcases List.mem_cons.1 hd with rfl | hd
          · simp
          · exact List.mem_cons_of_mem _ (List.mem_of_mem_take hd))
        rw [hdigits] at h₁
        simp only [List.take_append_of_le_length hk]
        split
        · cases Lexeme.hexValueFrom? 0 (q.take k) with
          | none => exact .none
          | some value =>
            cases hcode : Lexeme.charOfCode? value with
            | none => simp [hcode]
            | some e => simpa [hcode] using ⟨rfl, h₁.mono (by omega)⟩
        · exact .none
      · -- the line ends among the digits
        have hnone {v : List Char} (hv : ∀ c ∈ v.head?, isBreak c = true)
            (hlength : ((q ++ v).take k).length = k) :
            Lexeme.hexValueFrom? 0 ((q ++ v).take k) = none := by
          refine hexValueFrom?_of_isBreak ?_ 0
          cases v with
          | nil => simp at hlength; omega
          | cons d v =>
            refine ⟨d, ?_, hv d rfl⟩
            rw [List.take_append]
            obtain ⟨j, hj⟩ : ∃ j, k - q.length = j + 1 := ⟨k - q.length - 1, by omega⟩
            simp [hj]
        dsimp only
        split
        · next hs' =>
          rw [hnone ha (beq_iff_eq.1 hs')]
          split
          · next ht' =>
            rw [hnone hb (beq_iff_eq.1 ht')]
            exact .none
          · exact .none
        · split
          · next ht' =>
            rw [hnone hb (beq_iff_eq.1 ht')]
            exact .none
          · exact .none

/-- A piece of a quoted scalar. An escaped line break may lead into the last line. -/
theorem Twin.readQuotedPiece (h : Twin e n s t) {f g : Nat} (hf : n < f) (hg : n < g)
    (single : Bool) :
    Option.Rel (Alike (Near e n)) (Yaml.readQuotedPiece single f s)
      (Yaml.readQuotedPiece single g t) := by
  induction n using Nat.strongRecOn generalizing s t f g with
  | _ n ih =>
  obtain ⟨f, rfl⟩ : ∃ k, f = k + 1 := ⟨f - 1, by omega⟩
  obtain ⟨g, rfl⟩ : ∃ k, g = k + 1 := ⟨g - 1, by omega⟩
  have hmore {s₁ t₁ : Spot} {m : Nat} (hm : m < n) (h₁ : Twin e m s₁ t₁) (c : Char) :
      Option.Rel (Alike (Near e n))
        ((Yaml.readQuotedPiece single f s₁).map fun r => (c :: r.1, r.2.1, r.2.2))
        ((Yaml.readQuotedPiece single g t₁).map fun r => (c :: r.1, r.2.1, r.2.2)) := by
    refine rel_map (ih m hm h₁ (f := f) (g := g) (by omega) (by omega)) ?_
    rintro ⟨piece, s₂, escaped⟩ ⟨_, t₂, _⟩ ⟨rfl, h₂, rfl⟩
    exact ⟨rfl, h₂.mono (Nat.le_of_lt hm), rfl⟩
  unfold Yaml.readQuotedPiece
  rw [h.atBlankOrEnd]
  split
  · exact .some ⟨rfl, .inl h, rfl⟩
  rcases h.rest_cases with ⟨hs, ht⟩ | ⟨c, a, b, hs, ht⟩
  · simp only [hs, ht]
    exact .some ⟨rfl, .inl h, rfl⟩
  · next hblank =>
    have hc : isBreak c = false := by
      simp_all [Spot.atBlankOrEnd, Spot.blankOrEndAt]
    obtain ⟨_, hs', ha, hb, hn, h₁⟩ := h.skip ht hc
    cases hs.symm.trans hs'
    simp only [hs, ht]
    split
    · split
      · have hhead : a.head? = b.head? := by
          rw [← ha, ← hb]
          exact h₁.head?_eq
        rw [hhead]
        split
        · next hquote =>
          obtain ⟨b, rfl⟩ : ∃ b', b = '\'' :: b' := List.head?_eq_some_iff.1 (beq_iff_eq.1 hquote)
          obtain ⟨-, -, -, -, hn, h₂⟩ :=
            h.skipMany (q := [c, '\'']) ht (by simpa using ⟨hc, by decide⟩)
          exact hmore (by simp at hn ⊢; omega) h₂ _
        · exact .some ⟨rfl, .inl h, rfl⟩
      · exact hmore (by omega) h₁ c
    split
    · exact .some ⟨rfl, .inl h, rfl⟩
    split
    · rw [h₁.next]
      split
      · next hbreak =>
        obtain ⟨-, -, h₂⟩ := h₁.readBreak hbreak
        exact .some ⟨rfl, h₂.mono (by omega), rfl⟩
      · generalize hx : Yaml.readQuotedEscape s.skip = x
        generalize hy : Yaml.readQuotedEscape t.skip = y
        have hescape := h₁.readQuotedEscape
        rw [hx, hy] at hescape
        rcases hescape with @⟨⟨d, s₂⟩, ⟨_, t₂⟩, rfl, h₂⟩ | _
        · exact hmore (by omega) h₂ d
        · exact .none
    · exact hmore (by omega) h₁ c

theorem Twin.readChomping (h : Twin e n s t) :
    Both (Twin e n) (Yaml.readChomping s) (Yaml.readChomping t) := by
  rcases h.rest_cases with ⟨hs, ht⟩ | ⟨c, a, b, hs, ht⟩
  · simp only [Yaml.readChomping, hs, ht]
    exact ⟨rfl, h⟩
  · by_cases hplus : c = '+'
    · subst hplus
      obtain ⟨-, -, -, -, -, h₁⟩ := h.skip ht (by decide)
      simp only [Yaml.readChomping, hs, ht]
      exact ⟨rfl, h₁.mono (Nat.sub_le _ _)⟩
    · by_cases hminus : c = '-'
      · subst hminus
        obtain ⟨-, -, -, -, -, h₁⟩ := h.skip ht (by decide)
        simp only [Yaml.readChomping, hs, ht]
        exact ⟨rfl, h₁.mono (Nat.sub_le _ _)⟩
      · have hnone {u : Spot} {v : List Char} (hu : u.rest = c :: v) :
            Yaml.readChomping u = (none, u) := by
          simp [Yaml.readChomping, hu, hplus, hminus]
        rw [hnone hs, hnone ht]
        exact ⟨rfl, h⟩

theorem Twin.readIncrement (h : Twin e n s t) :
    Option.Rel (Both (Twin e n)) (Yaml.readIncrement s) (Yaml.readIncrement t) := by
  rcases h.rest_cases with ⟨hs, ht⟩ | ⟨c, a, b, hs, ht⟩
  · simp only [Yaml.readIncrement, hs, ht]
    exact .some ⟨rfl, h⟩
  · simp only [Yaml.readIncrement, hs, ht]
    split
    · exact .none
    split
    · next hdigit =>
      obtain ⟨-, -, -, -, -, h₁⟩ := h.skip ht (isBreak_of_class (by decide) hdigit)
      exact .some ⟨rfl, h₁.mono (Nat.sub_le _ _)⟩
    · exact .some ⟨rfl, h⟩

theorem Twin.readIndicators (h : Twin e n s t) :
    Option.Rel (Both (Twin e n)) (Yaml.readIndicators s) (Yaml.readIndicators t) := by
  obtain ⟨hchomping, h₁⟩ := h.readChomping
  unfold Yaml.readIndicators
  generalize Yaml.readChomping s = x at hchomping h₁ ⊢
  generalize Yaml.readChomping t = y at hchomping h₁ ⊢
  obtain ⟨chomping, s₁⟩ := x
  obtain ⟨_, t₁⟩ := y
  obtain rfl : chomping = _ := hchomping
  have h₁ : Twin e n s₁ t₁ := h₁
  have hincrement := h₁.readIncrement
  cases chomping with
  | some chomping => exact both_map hincrement fun increment s₂ t₂ h₂ => ⟨rfl, h₂⟩
  | none =>
    dsimp only
    generalize Yaml.readIncrement s₁ = x at hincrement
    generalize Yaml.readIncrement t₁ = y at hincrement
    rcases hincrement with @⟨⟨increment, s₂⟩, ⟨_, t₂⟩, rfl, h₂⟩ | _
    rotate_left
    · exact .none
    have h₂ : Twin e n s₂ t₂ := h₂
    cases increment with
    | none => exact .some ⟨rfl, h₂⟩
    | some k =>
      obtain ⟨hchomping, h₃⟩ := h₂.readChomping
      dsimp only
      rw [hchomping]
      exact .some ⟨rfl, h₃⟩

theorem Twin.skipToLineEnd (h : Twin e n s t) :
    Option.Rel (Near e n) (Yaml.skipToLineEnd s) (Yaml.skipToLineEnd t) := by
  obtain ⟨-, h₁⟩ := h.readWhile (p := isSpaceOrTab) (by decide)
  unfold Yaml.skipToLineEnd Spot.skipWhile
  generalize (s.readWhile isSpaceOrTab).2 = s₁ at h₁
  generalize (t.readWhile isSpaceOrTab).2 = t₁ at h₁
  have h₂ : Twin e n (if s₁.next (· == '#') then (s₁.readWhile (!isBreak ·)).2 else s₁)
      (if t₁.next (· == '#') then (t₁.readWhile (!isBreak ·)).2 else t₁) := by
    rw [h₁.next]
    split
    · exact (h₁.readWhile (by decide)).2
    · exact h₁
  dsimp only
  generalize (if s₁.next (· == '#') then (s₁.readWhile (!isBreak ·)).2 else s₁) = s₂ at h₂
  generalize (if t₁.next (· == '#') then (t₁.readWhile (!isBreak ·)).2 else t₁) = t₂ at h₂
  rw [h₂.isEmpty_eq, h₂.next]
  split
  · exact .some (.inl h₂)
  split
  · next hbreak =>
    obtain ⟨-, -, h₃⟩ := h₂.readBreak hbreak
    exact .some (h₃.mono (Nat.sub_le _ _))
  · exact .none

end ManifestMarkers.Yaml
