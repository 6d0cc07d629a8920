import ManifestMarkers.Lexeme.Lexer

/-!
# The lexer comes to an end

Every step of the lexer that goes on makes the weight of its state smaller
(`Reading.weight_lt_of_step`). A run with more fuel than the weight is therefore complete:
`Reading.run_eq_of_weight_lt` says that more fuel changes nothing, and `Reading.toEnd_eq` unfolds
the lexemes from a state on by one step, without fuel.
-/

namespace ManifestMarkers.Lexeme

/-! ### Runs of characters -/

theorem length_dropWhile_le (p : Char → Bool) (cs : List Char) :
    (cs.dropWhile p).length ≤ cs.length := (List.dropWhile_sublist p).length_le

theorem drop_takeWhile (p : Char → Bool) (cs : List Char) :
    cs.drop (cs.takeWhile p).length = cs.dropWhile p := by
  induction cs with
  | nil => rfl
  | cons c cs ih => cases h : p c <;> simp [h, ih]

theorem eq_false_of_head?_dropWhile {p : Char → Bool} {cs : List Char} {c : Char}
    (h : c ∈ (cs.dropWhile p).head?) : p c = false := by
  induction cs with
  | nil => simp at h
  | cons d cs ih =>
    cases hd : p d
    · simp only [List.dropWhile_cons, hd] at h
      have : d = c := by simpa using h
      rw [← this, hd]
    · simp only [List.dropWhile_cons, hd, if_true] at h
      exact ih h

namespace Reading

/-! ### One lemma per reader -/

theorem weight_readComment {r n : Reading} {sign : CommentSign} {cs : List Char} {e : List Lexeme}
    (hr : cs.length < r.rest.length) (h : r.readComment sign cs = .go e n) :
    n.weight < r.weight := by
  have hd := length_dropWhile_le isGap cs
  unfold readComment at h
  dsimp only at h
  split at h
  · next heq =>
    rw [heq] at hd
    split at h <;> cases h <;>
      simp_all [weight, skip, Mode.delay] <;> omega
  · cases h
    simp only [weight, skip]
    omega

theorem weight_emit {r n : Reading} {l : Lexeme} {m : Mode} {e : List Lexeme}
    (h : r.emit l m = .go e n) : n.weight = 3 * r.rest.length + Mode.delay m := by
  cases h; rfl

theorem weight_readText {r n : Reading} {e : List Lexeme} (h : r.readText = .go e n) :
    n.weight < r.weight := by
  unfold readText at h
  split at h
  · cases h
  · next heq => cases h; simp only [weight, skip, heq, List.length_cons]; omega
  · next heq => exact weight_readComment (by simp [heq]) h
  · next heq => exact weight_readComment (by simp only [heq, List.length_cons]; omega) h
  · next heq =>
    split at h <;> cases h <;> simp only [weight, skip, heq, Mode.delay, List.length_cons] <;> omega
  · next heq => cases h; simp only [weight, skip, heq, List.length_cons]; omega

theorem weight_readHeader {r n : Reading} {hasScope : Bool} {e : List Lexeme}
    (h : r.readHeader hasScope = .go e n) : n.weight < r.weight := by
  unfold readHeader at h
  split at h
  · cases h
  · next c cs heq =>
    have hd := length_dropWhile_le isIdentChar cs
    split at h
    · dsimp only at h
      split at h
      · next hrest =>
        cases h
        simp only [skip] at hrest
        rw [hrest] at hd
        simp only [weight, skip, heq, Mode.delay, List.length_cons] at hd ⊢
        omega
      · split at h <;> rw [weight_emit h] <;>
          simp only [weight, skip, heq, Mode.delay, List.length_cons] <;> omega
    · cases h

theorem weight_readAfterArg {r n : Reading} {e : List Lexeme} (hr : r.mode = .afterArg)
    (h : r.readAfterArg = .go e n) : n.weight < r.weight := by
  unfold readAfterArg at h
  split at h
  · next heq => cases h; simp only [weight, skip, heq, Mode.delay, List.length_cons]; omega
  · rw [weight_emit h]; simp only [weight, hr, Mode.delay]; omega

theorem weight_readBare {r n : Reading} {inSlice : Bool} {m : Mode} {e : List Lexeme} {c : Char}
    {cs : List Char} (hr : r.rest = c :: cs) (hc : isBare inSlice c = true)
    (h : r.readBare inSlice m = .go e n) : n.weight ≤ 3 * cs.length + Mode.delay m := by
  have hd := length_dropWhile_le (isBare inSlice) cs
  unfold readBare at h
  rw [weight_emit h]
  simp only [skip, hr, List.dropWhile_cons, hc, if_true]
  omega

theorem weight_readQuoted {r n : Reading} {quote : Char} {cs : List Char} {m : Mode}
    {e : List Lexeme} (h : r.readQuoted quote cs m = .go e n) :
    n.weight ≤ 3 * cs.length + Mode.delay m := by
  unfold readQuoted at h
  dsimp only at h
  split at h
  · next q hq =>
    have hs := congrArg List.length (scanQuoted_split hq)
    rw [weight_emit h]
    simp only [skip, List.length_append] at hs ⊢
    omega
  · cases h

theorem weight_readValue {r n : Reading} {e : List Lexeme} (h : r.readValue = .go e n) :
    n.weight < r.weight := by
  unfold readValue at h
  split at h
  · cases h
  · next c cs heq =>
    have hw : r.weight = 3 * cs.length + 3 + Mode.delay r.mode := by
      simp only [weight, heq, List.length_cons]; omega
    split at h
    · have := weight_readQuoted h
      simp only [Mode.delay] at this
      omega
    · split at h
      · rw [weight_emit h]; simp only [skip, Mode.delay]; omega
      · split at h
        · cases h
        · next hc =>
          have := weight_readBare heq (by simpa [isBare] using hc) h
          simp only [Mode.delay] at this
          omega

theorem weight_readAfterValue {r n : Reading} {e : List Lexeme} (hr : r.mode = .afterValue)
    (h : r.readAfterValue = .go e n) : n.weight < r.weight := by
  unfold readAfterValue at h
  split at h
  · next heq => rw [weight_emit h]; simp only [weight, heq, hr, Mode.delay]; omega
  · next c cs heq =>
    have hw : r.weight = 3 * cs.length + 4 := by
      simp only [weight, heq, hr, Mode.delay, List.length_cons]; omega
    split at h
    · rw [weight_emit h]; simp only [skip, Mode.delay, List.length_drop, List.length_cons]; omega
    · split at h
      · have hd := length_dropWhile_le isGap cs
        rw [weight_emit h]; simp only [skip, Mode.delay]; omega
      · split at h
        · dsimp only at h
          split at h
          · next d ds hds =>
            split at h
            · rw [weight_emit h]
              simp only [skip, Mode.delay, List.length_cons] at hw ⊢
              have hd := length_dropWhile_le isIdentChar ds
              omega
            · cases h
          · cases h
        · cases h

theorem weight_readSliceItem {r n : Reading} {turn : SliceTurn} {e : List Lexeme}
    (hg : ∀ c ∈ r.rest.head?, isGap c = false) (h : r.readSliceItem turn = .go e n) :
    n.weight < r.weight := by
  unfold readSliceItem at h
  split at h
  · cases h
  · next c cs heq =>
    have hw : r.weight = 3 * cs.length + 3 + Mode.delay r.mode := by
      simp only [weight, heq, List.length_cons]; omega
    split at h
    · cases h
    · next hnl =>
      split at h
      · rw [weight_emit h]; simp only [skip, Mode.delay]; omega
      · split at h
        · rw [weight_emit h]; simp only [skip, Mode.delay]; omega
        · split at h
          · have := weight_readQuoted h
            simp only [Mode.delay] at this
            omega
          · split at h
            · cases h
            · next hc =>
              split at h
              · have hb : isBare true c = true := by
                  simp only [not_or] at hc
                  have := hg c (by simp [heq])
                  simp [isBare, this, hc, hnl]
                have := weight_readBare heq hb h
                simp only [Mode.delay] at this
                omega
              · cases h

theorem weight_readSlice {r n : Reading} {turn : SliceTurn} {e : List Lexeme}
    (h : r.readSlice turn = .go e n) : n.weight < r.weight := by
  unfold readSlice at h
  dsimp only at h
  split at h
  · cases h
  · next hne =>
    have hw := weight_readSliceItem ?_ h
    · refine Nat.lt_of_lt_of_le hw ?_
      simp only [weight, skip, List.length_drop]
      omega
    · intro c hc
      simp only [skip, gap] at hc hne
      split at hc
      · next hl => simp_all
      · rw [drop_takeWhile] at hc
        exact eq_false_of_head?_dropWhile hc

/-- Every step that goes on makes the weight smaller. -/
theorem weight_lt_of_step {r n : Reading} {e : List Lexeme} (h : r.step = .go e n) :
    n.weight < r.weight := by
  unfold step at h
  split at h
  · exact weight_readText h
  · exact weight_readHeader h
  · next hm => exact weight_readAfterArg hm h
  · exact weight_readValue h
  · next hm => exact weight_readAfterValue hm h
  · exact weight_readSlice h

/-! ### Runs -/

/-- A run that has more fuel than its weight goes on until a step halts, so more fuel changes
nothing. -/
theorem run_eq_of_weight_lt {r : Reading} {m n : Nat} (hm : r.weight < m) (hn : r.weight < n) :
    r.run m = r.run n := by
  induction m generalizing r n with
  | zero => omega
  | succ m ih =>
    cases n with
    | zero => omega
    | succ n =>
      rw [run, run]
      cases hs : r.step with
      | go emitted next =>
        have := weight_lt_of_step hs
        exact congrArg (emitted ++ ·) (ih (by omega) (by omega))
      | halt emitted => rfl

/-- The lexemes from a state on. -/
def toEnd (r : Reading) : List Lexeme := r.run (r.weight + 1)

/-- The lexemes from a state on are those of its first step and those from the next state on. -/
theorem toEnd_eq (r : Reading) :
    r.toEnd = match r.step with
      | .go emitted next => emitted ++ next.toEnd
      | .halt emitted => emitted := by
  rw [toEnd, run]
  cases hs : r.step with
  | go emitted next =>
    exact congrArg (emitted ++ ·) (run_eq_of_weight_lt (weight_lt_of_step hs) (Nat.lt_succ_self _))
  | halt emitted => rfl

end Reading

theorem lexChars_eq_toEnd (cs : List Char) : lexChars cs = (Reading.start cs).toEnd := rfl

end ManifestMarkers.Lexeme
