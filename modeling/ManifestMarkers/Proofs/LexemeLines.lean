import ManifestMarkers.Proofs.LexemeSteps

/-!
# Reading on behind a line feed

A text with a line feed and more text behind it is read like the text alone, up to its end.

* `Reading.step_extend`: a step that goes on does the same, or it takes the line feed with it.
* `Reading.step_halts`: an error on a line without backticks stays an error, whatever follows.
* `Reading.toEnd_extend`: after the end of a text the lexer is as fresh as at the start of a line,
  after an error it has halted.
-/

namespace ManifestMarkers.Lexeme

/-! ### Runs of characters and strings -/

theorem takeWhile_append_cons {p : Char → Bool} {c : Char} (hc : p c = false) (cs b : List Char) :
    (cs ++ c :: b).takeWhile p = cs.takeWhile p := by
  induction cs with
  | nil => simp [hc]
  | cons d cs ih => cases hd : p d <;> simp [hd, ih]

theorem dropWhile_append_cons {p : Char → Bool} {c : Char} (hc : p c = false) (cs b : List Char) :
    (cs ++ c :: b).dropWhile p = cs.dropWhile p ++ c :: b := by
  induction cs with
  | nil => simp [hc]
  | cons d cs ih => cases hd : p d <;> simp [hd, ih]

/-- A quoted text with more text behind it. -/
def QuotedText.extend (q : QuotedText) (t : List Char) : QuotedText :=
  { q with rest := q.rest ++ t }

theorem scanSingle_append {cs : List Char} {q : QuotedText} (h : scanSingle cs = .ok q)
    (t : List Char) : scanSingle (cs ++ t) = .ok (q.extend t) := by
  induction cs generalizing q with
  | nil => cases h
  | cons c cs ih =>
    rw [List.cons_append]
    unfold scanSingle at h ⊢
    split at h
    · next hc => cases h; rw [if_pos hc]; rfl
    · next hc =>
      split at h
      · cases h
      · next hn =>
        obtain ⟨p, hp, rfl⟩ := exists_ok_of_map_ok h
        rw [if_neg hc, if_neg hn, ih hp]
        rfl

theorem scanDoubleFrom_append {escaped : Bool} {cs : List Char} {q : QuotedText}
    (h : scanDoubleFrom escaped cs = .ok q) (t : List Char) :
    scanDoubleFrom escaped (cs ++ t) = .ok (q.extend t) := by
  induction cs generalizing q escaped with
  | nil => cases h
  | cons c cs ih =>
    rw [List.cons_append]
    unfold scanDoubleFrom at h ⊢
    split at h
    · cases h
    · next hn =>
      split at h
      · next hc => cases h; rw [if_neg hn, if_pos hc]; rfl
      · next hc =>
        obtain ⟨p, hp, rfl⟩ := exists_ok_of_map_ok h
        rw [if_neg hn, if_neg hc, ih hp]
        rfl

theorem scanDouble_append {cs : List Char} {q : QuotedText} (h : scanDouble cs = .ok q)
    (t : List Char) : scanDouble (cs ++ t) = .ok (q.extend t) := by
  unfold scanDouble at h ⊢
  split at h
  · cases h
  · next p hp =>
    rw [scanDoubleFrom_append hp]
    split at h
    · next value hv => cases h; simp [QuotedText.extend, hv]
    · cases h

theorem scanToBacktick_append {cs : List Char} {q : QuotedText} (h : scanToBacktick cs = .ok q)
    (t : List Char) : scanToBacktick (cs ++ t) = .ok (q.extend t) := by
  induction cs generalizing q with
  | nil => cases h
  | cons c cs ih =>
    rw [List.cons_append]
    unfold scanToBacktick at h ⊢
    split at h
    · next hc => cases h; rw [if_pos hc]; rfl
    · next hc =>
      obtain ⟨p, hp, rfl⟩ := exists_ok_of_map_ok h
      rw [if_neg hc, ih hp]
      rfl

/-- A complete string does not depend on what follows it. -/
theorem scanQuoted_append {comment : Option CommentSign} {quote : Char} {cs : List Char}
    {q : QuotedText} (h : scanQuoted comment quote cs = .ok q) (t : List Char) :
    scanQuoted comment quote (cs ++ t) = .ok (q.extend t) := by
  unfold scanQuoted at h ⊢
  split at h
  · next hc =>
    obtain ⟨p, hp, rfl⟩ := exists_ok_of_map_ok h
    rw [if_pos hc, scanBacktick, scanToBacktick_append hp]
    cases comment <;> rfl
  · next hc =>
    rw [if_neg hc]
    split at h
    · next hd => rw [if_pos hd]; exact scanDouble_append h t
    · next hd => rw [if_neg hd]; exact scanSingle_append h t

theorem scanSingle_error {cs : List Char} {x : QuoteError} (hn : '\n' ∉ cs)
    (h : scanSingle cs = .error x) (b : List Char) :
    ∃ y, scanSingle (cs ++ '\n' :: b) = .error y := by
  induction cs generalizing x with
  | nil => exact ⟨_, rfl⟩
  | cons c cs ih =>
    have hc : c ≠ '\n' := fun e => hn (by simp [e])
    rw [List.cons_append]
    unfold scanSingle at h ⊢
    split at h
    · cases h
    · next hq =>
      rw [if_neg hq, if_neg hc]
      cases hs : scanSingle cs with
      | ok q => simp [hs, Except.map] at h
      | error z =>
        obtain ⟨y, hy⟩ := ih (fun e => hn (by simp [e])) hs
        exact ⟨y, by rw [hy]; rfl⟩

theorem scanDoubleFrom_error {escaped : Bool} {cs : List Char} {x : QuoteError} (hn : '\n' ∉ cs)
    (h : scanDoubleFrom escaped cs = .error x) (b : List Char) :
    ∃ y, scanDoubleFrom escaped (cs ++ '\n' :: b) = .error y := by
  induction cs generalizing x escaped with
  | nil => exact ⟨_, rfl⟩
  | cons c cs ih =>
    have hc : c ≠ '\n' := fun e => hn (by simp [e])
    rw [List.cons_append]
    unfold scanDoubleFrom at h ⊢
    rw [if_neg hc] at h ⊢
    split at h
    · cases h
    · next hq =>
      rw [if_neg hq]
      cases hs : scanDoubleFrom (c = '\\' && !escaped) cs with
      | ok q => simp [hs, Except.map] at h
      | error z =>
        obtain ⟨y, hy⟩ := ih (fun e => hn (by simp [e])) hs
        exact ⟨y, by rw [hy]; rfl⟩

/-- Outside of backticks a string that cannot be read stays so on the next line. -/
theorem scanQuoted_error {comment : Option CommentSign} {quote : Char} {cs : List Char}
    {x : QuoteError} (hq : quote ≠ '`') (hn : '\n' ∉ cs)
    (h : scanQuoted comment quote cs = .error x) (b : List Char) :
    ∃ y, scanQuoted comment quote (cs ++ '\n' :: b) = .error y := by
  unfold scanQuoted at h ⊢
  rw [if_neg hq] at h ⊢
  split at h
  · next hd =>
    rw [if_pos hd]
    unfold scanDouble at h ⊢
    split at h
    · next e he =>
      obtain ⟨y, hy⟩ := scanDoubleFrom_error hn he b
      exact ⟨y, by rw [hy]⟩
    · next p hp =>
      rw [scanDoubleFrom_append hp]
      split at h
      · cases h
      · next hv => exact ⟨.invalidEscape, by simp [QuotedText.extend, hv]⟩
  · next hd =>
    rw [if_neg hd]
    exact scanSingle_error hn h b

theorem atLineEnd_iff {cs : List Char} :
    atLineEnd cs = true ↔ (∃ ds, cs = '\n' :: ds) ∨ ∃ ds, cs = '\r' :: '\n' :: ds := by
  unfold atLineEnd
  split <;> simp_all

theorem atLineEnd_append_of {cs : List Char} (h : atLineEnd cs = true) (t : List Char) :
    atLineEnd (cs ++ t) = true := by
  rcases atLineEnd_iff.1 h with ⟨ds, rfl⟩ | ⟨ds, rfl⟩ <;> rfl

/-- A line feed ends the line before it, or also takes the carriage return in front of it. -/
theorem atLineEnd_append {c : Char} {cs : List Char} (h : ¬ atLineEnd (c :: cs) = true)
    (hcr : ¬(c = '\r' ∧ cs = [])) (b : List Char) :
    ¬ atLineEnd (c :: (cs ++ '\n' :: b)) = true := by
  rw [atLineEnd_iff] at h ⊢
  rintro (⟨ds, hds⟩ | ⟨ds, hds⟩)
  · exact h (.inl ⟨cs, by rw [(List.cons.inj hds).1]⟩)
  · obtain ⟨hc, hds⟩ := List.cons.inj hds
    cases cs with
    | nil => exact hcr ⟨hc, rfl⟩
    | cons d cs => exact h (.inr ⟨cs, by rw [hc, (List.cons.inj hds).1]⟩)

namespace Reading

/-! ### One lemma per reader -/

/-- The state with more text behind what is left. -/
def extend (r : Reading) (t : List Char) : Reading := { r with rest := r.rest ++ t }

/-- The state at the start of the next line, where `b` is left. -/
def newline (r : Reading) (b : List Char) : Reading := ⟨b, r.point.next '\n', .text, none, r.last⟩

@[simp] theorem extend_rest (r : Reading) (t : List Char) : (r.extend t).rest = r.rest ++ t := rfl

@[simp] theorem extend_mode (r : Reading) (t : List Char) : (r.extend t).mode = r.mode := rfl

@[simp] theorem extend_skip (r : Reading) (t read rest : List Char) :
    (r.extend t).skip read (rest ++ t) = (r.skip read rest).extend t := rfl

theorem emit_extend {r n : Reading} {l : Lexeme} {m : Mode} {e : List Lexeme}
    (h : r.emit l m = .go e n) (t : List Char) : (r.extend t).emit l m = .go e (n.extend t) := by
  cases h
  rfl

section Extend

variable {r n : Reading} {e : List Lexeme} (b : List Char)

theorem readComment_extend {sign : CommentSign} {cs : List Char}
    (h : r.readComment sign cs = .go e n) :
    (r.extend ('\n' :: b)).readComment sign (cs ++ '\n' :: b) = .go e (n.extend ('\n' :: b)) := by
  unfold readComment at h ⊢
  dsimp only at h ⊢
  rw [takeWhile_append_cons (by decide), dropWhile_append_cons (by decide)]
  generalize cs.dropWhile isGap = after at h ⊢
  split at h
  · next c ds =>
    split at h
    · next hc => cases h; simp only [List.cons_append, if_pos hc]; rfl
    · next hc => cases h; simp only [List.cons_append, if_neg hc]; rfl
  · next hno =>
    cases h
    split
    · next c ds heq =>
      -- the character after the plus sign can only be the line feed
      have hc : c = '\n' := by
        match after, heq with
        | [], heq => simp at heq
        | [_], heq => simp at heq; exact heq.2.1.symm
        | _ :: _ :: _, heq => simp at heq; exact absurd (by rw [heq.1]) (hno _ _)
      rw [hc, if_neg (by decide)]
      rfl
    · rfl

theorem readText_extend (h : r.readText = .go e n) :
    (r.extend ('\n' :: b)).readText = .go e (n.extend ('\n' :: b)) := by
  unfold readText at h ⊢
  rw [extend_rest]
  split at h
  · cases h
  · next cs hr => cases h; rw [hr]; rfl
  · next cs hr => rw [hr]; exact readComment_extend b h
  · next cs hr => rw [hr]; exact readComment_extend b h
  · next c cs hr =>
    rw [hr]
    simp only [List.cons_append]
    split at h
    · next hc => cases h; rw [if_pos hc]; rfl
    · next hc => cases h; rw [if_neg hc]; rfl
  · next c cs hnewline hhash hslashes hplus hr =>
    cases h
    rw [hr, List.cons_append]
    split
    · next heq => cases heq
    · next heq => exact (hnewline (List.cons.inj heq).1).elim
    · next heq => exact (hhash (List.cons.inj heq).1).elim
    · next heq =>
      obtain ⟨hc, heq⟩ := List.cons.inj heq
      cases cs with
      | nil => simp at heq
      | cons d ds => exact (hslashes ds hc (by rw [(List.cons.inj heq).1])).elim
    · next heq =>
      obtain ⟨hc, heq⟩ := List.cons.inj heq
      cases cs with
      | nil =>
        obtain ⟨rfl, rfl⟩ := List.cons.inj heq
        rw [hc]
        rfl
      | cons d ds => exact (hplus d ds hc rfl).elim
    · next heq =>
      obtain ⟨rfl, rfl⟩ := List.cons.inj heq
      rfl

theorem readHeader_extend {hasScope : Bool} (h : r.readHeader hasScope = .go e n) :
    (r.extend ('\n' :: b)).readHeader hasScope = .go e (n.extend ('\n' :: b)) := by
  unfold readHeader at h ⊢
  rw [extend_rest]
  split at h
  · cases h
  · next c cs hr =>
    rw [hr]
    simp only [List.cons_append]
    rw [takeWhile_append_cons (by decide), dropWhile_append_cons (by decide), extend_skip]
    split at h
    · next hc =>
      rw [if_pos hc]
      dsimp only at h
      rw [extend_rest, skip_rest]
      rw [skip_rest] at h
      generalize cs.dropWhile isIdentChar = after at h ⊢
      split at h
      · cases h; rfl
      · next hno =>
        have hmatch : ∀ rest, after ++ '\n' :: b ≠ ':' :: rest := by
          intro rest heq
          cases after with
          | nil => cases heq
          | cons d ds => cases heq; exact hno ds rfl
        split
        · next heq => exact absurd heq (hmatch _)
        · split at h
          · next hs => rw [if_pos hs]; exact emit_extend h _
          · next hs => rw [if_neg hs]; exact emit_extend h _
    · cases h

theorem readAfterArg_extend (h : r.readAfterArg = .go e n) :
    (r.extend ('\n' :: b)).readAfterArg = .go e (n.extend ('\n' :: b)) := by
  unfold readAfterArg at h ⊢
  rw [extend_rest]
  split at h
  · next cs hr => cases h; rw [hr]; rfl
  · next hno =>
    cases hr : r.rest with
    | nil => exact emit_extend h _
    | cons c cs =>
      split
      · next heq => cases heq; exact absurd hr (hno cs)
      · exact emit_extend h _

theorem readBare_extend {inSlice : Bool} {m : Mode} (h : r.readBare inSlice m = .go e n) :
    (r.extend ('\n' :: b)).readBare inSlice m = .go e (n.extend ('\n' :: b)) := by
  have hn : isBare inSlice '\n' = false := by cases inSlice <;> decide
  unfold readBare at h ⊢
  dsimp only at h ⊢
  rw [extend_rest, takeWhile_append_cons hn, dropWhile_append_cons hn, extend_skip]
  exact emit_extend h _

theorem readQuoted_extend {quote : Char} {cs : List Char} {m : Mode}
    (h : r.readQuoted quote cs m = .go e n) :
    (r.extend ('\n' :: b)).readQuoted quote (cs ++ '\n' :: b) m = .go e (n.extend ('\n' :: b)) := by
  unfold readQuoted at h ⊢
  dsimp only at h ⊢
  split at h
  · next q hq =>
    rw [show (r.extend ('\n' :: b)).comment = r.comment from rfl, scanQuoted_append hq]
    exact emit_extend h _
  · cases h

theorem readValue_extend (h : r.readValue = .go e n) :
    (r.extend ('\n' :: b)).readValue = .go e (n.extend ('\n' :: b)) := by
  unfold readValue at h ⊢
  rw [extend_rest]
  split at h
  · cases h
  · next c cs hr =>
    rw [hr]
    simp only [List.cons_append]
    split at h
    · next hq => rw [if_pos hq]; exact readQuoted_extend b h
    · next hq =>
      rw [if_neg hq]
      split at h
      · next hb => rw [if_pos hb]; exact emit_extend h _
      · next hb =>
        rw [if_neg hb]
        split at h
        · cases h
        · next hc => rw [if_neg hc]; exact readBare_extend b h

/-- After a complete value the line feed may belong to the end of the marker; then the next line
begins at once. -/
theorem readAfterValue_extend (h : r.readAfterValue = .go e n) :
    (r.extend ('\n' :: b)).readAfterValue = .go e (n.extend ('\n' :: b)) ∨
      n.mode = .text ∧ n.rest = [] ∧
        (r.extend ('\n' :: b)).readAfterValue = .go e (n.newline b) := by
  unfold readAfterValue at h ⊢
  rw [extend_rest]
  split at h
  · next hr =>
    cases h
    rw [hr]
    exact .inr ⟨rfl, rfl, rfl⟩
  · next c cs hr =>
    rw [hr]
    simp only [List.cons_append]
    split at h
    · next hl =>
      have hl' : atLineEnd (c :: (cs ++ '\n' :: b)) = true := atLineEnd_append_of hl _
      refine .inl ?_
      rw [if_pos hl']
      cases h
      rcases atLineEnd_iff.1 hl with ⟨ds, hds⟩ | ⟨ds, hds⟩ <;> cases hds <;> rfl
    · next hl =>
      split at h
      · next hg =>
        by_cases hcr : c = '\r' ∧ cs = []
        · obtain ⟨rfl, rfl⟩ := hcr
          cases h
          exact .inr ⟨rfl, rfl, rfl⟩
        · refine .inl ?_
          rw [if_neg (atLineEnd_append hl hcr b), if_pos hg, takeWhile_append_cons (by decide),
            dropWhile_append_cons (by decide), extend_skip]
          exact emit_extend h _
      · next hg =>
        refine .inl ?_
        have hcr : ¬(c = '\r' ∧ cs = []) := fun hcr => hg (by rw [hcr.1]; rfl)
        rw [if_neg (atLineEnd_append hl hcr b), if_neg hg]
        split at h
        · next hc =>
          rw [if_pos hc]
          cases cs with
          | nil => cases h
          | cons d ds =>
            dsimp only [List.cons_append] at h ⊢
            split at h
            · next hd =>
              rw [if_pos hd, takeWhile_append_cons (by decide), dropWhile_append_cons (by decide)]
              exact emit_extend h _
            · cases h
        · cases h

theorem readSliceItem_extend {turn : SliceTurn} (h : r.readSliceItem turn = .go e n) :
    (r.extend ('\n' :: b)).readSliceItem turn = .go e (n.extend ('\n' :: b)) := by
  unfold readSliceItem at h ⊢
  rw [extend_rest]
  split at h
  · cases h
  · next c cs hr =>
    rw [hr]
    simp only [List.cons_append]
    split at h
    · cases h
    · next hn =>
      rw [if_neg hn]
      split at h
      · next hb => rw [if_pos hb]; exact emit_extend h _
      · next hb =>
        rw [if_neg hb]
        split at h
        · next hc => rw [if_pos hc]; exact emit_extend h _
        · next hc =>
          rw [if_neg hc]
          split at h
          · next hq => rw [if_pos hq]; exact readQuoted_extend b h
          · next hq =>
            rw [if_neg hq]
            split at h
            · cases h
            · next hd =>
              rw [if_neg hd]
              split at h
              · next ht => rw [if_pos ht]; exact readBare_extend b h
              · cases h

/-- Inside a slice the blanks of a line that goes on are the same with more text behind it. -/
theorem drop_gap_append {xs : List Char} (hl : atLineEnd xs = false)
    (hd : xs.dropWhile isGap ≠ []) :
    gap (xs ++ '\n' :: b) = gap xs ∧
      (xs ++ '\n' :: b).drop (gap xs).length = xs.dropWhile isGap ++ '\n' :: b := by
  cases xs with
  | nil => exact absurd rfl hd
  | cons c cs =>
    have hcr : ¬(c = '\r' ∧ cs = []) := fun h => hd (by rw [h.1, h.2]; rfl)
    have hl' : ¬ atLineEnd (c :: cs ++ '\n' :: b) = true :=
      atLineEnd_append (by simp [hl]) hcr b
    have hgap : gap (c :: cs) = (c :: cs).takeWhile isGap := by simp [gap, hl]
    have hgap' : gap (c :: cs ++ '\n' :: b) = (c :: cs ++ '\n' :: b).takeWhile isGap := by
      rw [gap, if_neg hl']
    rw [hgap', hgap, takeWhile_append_cons (by decide)]
    refine ⟨rfl, ?_⟩
    have hn : isGap '\n' = false := rfl
    rw [← takeWhile_append_cons hn (c :: cs) b, drop_takeWhile, dropWhile_append_cons hn]

theorem readSlice_extend {turn : SliceTurn} (h : r.readSlice turn = .go e n) :
    (r.extend ('\n' :: b)).readSlice turn = .go e (n.extend ('\n' :: b)) := by
  unfold readSlice at h
  dsimp only at h
  split at h
  · cases h
  · next hl =>
    have hxs : atLineEnd r.rest = false := by
      cases hx : atLineEnd r.rest with
      | false => rfl
      | true => simp [gap, hx] at hl
    have hdrop : r.rest.drop (gap r.rest).length = r.rest.dropWhile isGap := by
      simp [gap, hxs, drop_takeWhile]
    rw [hdrop] at h hl
    have hne : r.rest.dropWhile isGap ≠ [] := by
      intro hnil
      rw [hnil] at h
      cases h
    obtain ⟨hgap, hrest⟩ := drop_gap_append b hxs hne
    unfold readSlice
    dsimp only
    rw [extend_rest, hgap, hrest, extend_skip, extend_rest, skip_rest]
    rw [if_neg]
    · exact readSliceItem_extend b h
    · cases hx : r.rest.dropWhile isGap with
      | nil => exact absurd hx hne
      | cons c cs =>
        have hg : isGap c = false := by
          have hhead : c ∈ (r.rest.dropWhile isGap).head? := by simp [hx]
          exact eq_false_of_head?_dropWhile hhead
        rw [skip_rest, hx] at hl
        refine atLineEnd_append hl ?_ b
        rintro ⟨rfl, -⟩
        cases hg

/-- A step that goes on does the same with more text behind a line feed, or it has read the line
feed too. -/
theorem step_extend (h : r.step = .go e n) :
    (r.extend ('\n' :: b)).step = .go e (n.extend ('\n' :: b)) ∨
      n.mode = .text ∧ n.rest = [] ∧ (r.extend ('\n' :: b)).step = .go e (n.newline b) := by
  unfold step at h ⊢
  rw [extend_mode]
  split at h
  · exact .inl (readText_extend b h)
  · exact .inl (readHeader_extend b h)
  · exact .inl (readAfterArg_extend b h)
  · exact .inl (readValue_extend b h)
  · exact readAfterValue_extend b h
  · exact .inl (readSlice_extend b h)

theorem step_extend_eof (hm : r.mode = .text) (hr : r.rest = []) :
    (r.extend ('\n' :: b)).step = .go [] (r.newline b) := by
  obtain ⟨rest, point, mode, comment, last⟩ := r
  subst hm hr
  rfl

end Extend

/-! ### Errors stay errors -/

/-- Whether an outcome is a halt. -/
def Halts : Outcome → Prop
  | .halt _ => True
  | .go _ _ => False

theorem halts_fail (r : Reading) (what detail : String) : Halts (r.fail what detail) := trivial

section Halt

variable {r : Reading} {e : List Lexeme} (b : List Char)

theorem readHeader_halts {hasScope : Bool} (h : r.readHeader hasScope = .halt e) :
    Halts ((r.extend ('\n' :: b)).readHeader hasScope) := by
  obtain ⟨-, hi⟩ := fails_readHeader h
  unfold readHeader
  rw [extend_rest]
  cases hr : r.rest with
  | nil => exact halts_fail _ _ _
  | cons c cs =>
    have hc : ¬ isIdentStart c = true := fun hc => hi ⟨c, cs, hr, hc⟩
    simp only [List.cons_append]
    rw [if_neg hc]
    exact halts_fail _ _ _

theorem readQuoted_halts {quote : Char} {cs : List Char} {m : Mode} (hq : quote ≠ '`')
    (hn : '\n' ∉ cs) (h : r.readQuoted quote cs m = .halt e) :
    Halts ((r.extend ('\n' :: b)).readQuoted quote (cs ++ '\n' :: b) m) := by
  unfold readQuoted at h ⊢
  dsimp only at h ⊢
  split at h
  · cases h
  · next x hx =>
    obtain ⟨y, hy⟩ := scanQuoted_error hq hn hx b
    rw [show (r.extend ('\n' :: b)).comment = r.comment from rfl, hy]
    exact halts_fail _ _ _

theorem readValue_halts (hn : '\n' ∉ r.rest) (hb : '`' ∉ r.rest) (h : r.readValue = .halt e) :
    Halts (r.extend ('\n' :: b)).readValue := by
  unfold readValue at h ⊢
  rw [extend_rest]
  split at h
  · next hr => rw [hr]; exact halts_fail _ _ _
  · next c cs hr =>
    rw [hr] at hn hb ⊢
    simp only [List.cons_append]
    split at h
    · next hq =>
      rw [if_pos hq]
      have hc : c ≠ '`' := fun hc => hb (by simp [hc])
      exact readQuoted_halts b hc (fun hm => hn (by simp [hm])) h
    · next hq =>
      rw [if_neg hq]
      split at h
      · cases h
      · next hc =>
        rw [if_neg hc]
        split at h
        · next hm => rw [if_pos hm]; exact halts_fail _ _ _
        · cases h

theorem readAfterValue_halts (h : r.readAfterValue = .halt e) :
    Halts (r.extend ('\n' :: b)).readAfterValue := by
  unfold readAfterValue at h ⊢
  rw [extend_rest]
  split at h
  · cases h
  · next c cs hr =>
    rw [hr]
    simp only [List.cons_append]
    split at h
    · cases h
    · next hl =>
      split at h
      · cases h
      · next hg =>
        have hcr : ¬(c = '\r' ∧ cs = []) := fun hcr => hg (by rw [hcr.1]; rfl)
        rw [if_neg (atLineEnd_append hl hcr b), if_neg hg]
        split at h
        · next hc =>
          rw [if_pos hc]
          cases cs with
          | nil => exact halts_fail _ _ _
          | cons d ds =>
            dsimp only [List.cons_append] at h ⊢
            split at h
            · cases h
            · next hd => rw [if_neg hd]; exact halts_fail _ _ _
        · next hc => rw [if_neg hc]; exact halts_fail _ _ _

theorem readSliceItem_halts {turn : SliceTurn} (hn : '\n' ∉ r.rest) (hb : '`' ∉ r.rest)
    (h : r.readSliceItem turn = .halt e) :
    Halts ((r.extend ('\n' :: b)).readSliceItem turn) := by
  unfold readSliceItem at h ⊢
  rw [extend_rest]
  split at h
  · next hr => rw [hr]; exact halts_fail _ _ _
  · next c cs hr =>
    rw [hr] at hn hb ⊢
    simp only [List.cons_append]
    split at h
    · next hc => exact absurd (by simp [hc]) hn
    · next hnl =>
      rw [if_neg hnl]
      split at h
      · cases h
      · next hclose =>
        rw [if_neg hclose]
        split at h
        · cases h
        · next hc =>
          rw [if_neg hc]
          split at h
          · next hq =>
            rw [if_pos hq]
            have hc : c ≠ '`' := fun hc => hb (by simp [hc])
            exact readQuoted_halts b hc (fun hm => hn (by simp [hm])) h
          · next hq =>
            rw [if_neg hq]
            split at h
            · next hd => rw [if_pos hd]; exact halts_fail _ _ _
            · next hd =>
              rw [if_neg hd]
              split at h
              · cases h
              · next ht => rw [if_neg ht]; exact halts_fail _ _ _

/-- Blanks up to a line feed lead to the end of the line. -/
theorem atLineEnd_drop_gap {xs : List Char} (h : xs.dropWhile isGap = []) :
    atLineEnd ((xs ++ '\n' :: b).drop (gap (xs ++ '\n' :: b)).length) = true := by
  unfold gap
  split
  · next hl => exact hl
  · rw [drop_takeWhile, dropWhile_append_cons (by decide), h]
    rfl

theorem readSlice_halts {turn : SliceTurn} (hn : '\n' ∉ r.rest) (hb : '`' ∉ r.rest)
    (h : r.readSlice turn = .halt e) : Halts ((r.extend ('\n' :: b)).readSlice turn) := by
  unfold readSlice
  dsimp only
  rw [extend_rest, skip_rest]
  by_cases hd : r.rest.dropWhile isGap = []
  · rw [if_pos (atLineEnd_drop_gap b hd)]
    exact halts_fail _ _ _
  · split
    · exact halts_fail _ _ _
    · have hl : atLineEnd r.rest = false := by
        rw [← Bool.not_eq_true, atLineEnd_iff]
        rintro (⟨ds, hds⟩ | ⟨ds, hds⟩) <;> exact hn (by simp [hds])
      have hdrop : r.rest.drop (gap r.rest).length = r.rest.dropWhile isGap := by
        simp [gap, hl, drop_takeWhile]
      have hsub : ∀ c, c ∈ r.rest.dropWhile isGap → c ∈ r.rest :=
        fun c hc => (List.dropWhile_sublist isGap).subset hc
      obtain ⟨hgap, hrest⟩ := drop_gap_append b hl hd
      rw [hgap, hrest, extend_skip]
      unfold readSlice at h
      dsimp only at h
      rw [hdrop] at h
      split at h
      · next hend =>
        exfalso
        rcases atLineEnd_iff.1 hend with ⟨ds, hds⟩ | ⟨ds, hds⟩ <;> rw [skip_rest] at hds <;>
          exact hn (hsub _ (by simp [hds]))
      · exact readSliceItem_halts b (fun hc => hn (hsub _ hc)) (fun hc => hb (hsub _ hc)) h

/-- A step that halts with an error on a line without backticks does so with any text behind the
line. -/
theorem step_halts (hm : r.mode ≠ .text) (hn : '\n' ∉ r.rest) (hb : '`' ∉ r.rest)
    (h : r.step = .halt e) : Halts (r.extend ('\n' :: b)).step := by
  unfold step at h ⊢
  rw [extend_mode]
  split at h
  · next hr => exact absurd hr hm
  · exact readHeader_halts b h
  · unfold readAfterArg at h
    split at h <;> cases h
  · exact readValue_halts b hn hb h
  · exact readAfterValue_halts b h
  · exact readSlice_halts b hn hb h

end Halt

/-! ### Runs across a line feed -/

/-- How a run goes on with `b` behind a line feed: after the end of the text it reads `b` from a
fresh line, and an error on a line without backticks is still the end. -/
theorem toEnd_extend (r : Reading) (b : List Char) :
    (∃ es last, r.toEnd = es ++ [⟨.eof, "", r.point.after r.rest⟩] ∧
      (r.extend ('\n' :: b)).toEnd =
        es ++ toEnd ⟨b, (r.point.after r.rest).next '\n', .text, none, last⟩) ∨
      ∃ es l, r.toEnd = es ++ [l] ∧ l.kind = .error ∧ ('\n' ∉ r.rest → '`' ∉ r.rest →
        ∃ l', l'.kind = .error ∧ (r.extend ('\n' :: b)).toEnd = es ++ [l']) := by
  induction r using stepInduction with
  | halt r e h =>
    rcases eof_or_error_of_halt h with ⟨hm, hr, rfl⟩ | ⟨⟨l, rfl, hl, -⟩, hm⟩
    · refine .inl ⟨[], r.last, by rw [toEnd_of_halt h, hr]; rfl, ?_⟩
      rw [toEnd_of_go (step_extend_eof b hm hr), hr]
      rfl
    · refine .inr ⟨[], l, by rw [toEnd_of_halt h]; rfl, hl, fun hn hb => ?_⟩
      have hmode : r.mode ≠ .text := by
        rintro hr
        simp [hr, Mode.isRecognised] at hm
      have hhalts := step_halts b hmode hn hb h
      cases hs : (r.extend ('\n' :: b)).step with
      | go e' n' => rw [hs] at hhalts; exact hhalts.elim
      | halt e' =>
        rcases eof_or_error_of_halt hs with ⟨hm', -, -⟩ | ⟨⟨l', rfl, hl', -⟩, -⟩
        · exact absurd hm' hmode
        · exact ⟨l', hl', by rw [toEnd_of_halt hs]; rfl⟩
  | go r e n h ih =>
    obtain ⟨read, hread, hpoint⟩ := (steps_of_step h).read
    have hafter : n.point.after n.rest = r.point.after r.rest := by
      rw [hread, hpoint, Point.after_append]
    rw [toEnd_of_go h, ← hafter]
    rcases step_extend b h with hs | ⟨hm, hr, hs⟩
    · rw [toEnd_of_go hs]
      rcases ih with ⟨es, last, hn, hx⟩ | ⟨es, l, hn, hl, hx⟩
      · exact .inl ⟨e ++ es, last, by rw [hn, List.append_assoc], by rw [hx, List.append_assoc]⟩
      · refine .inr ⟨e ++ es, l, by rw [hn, List.append_assoc], hl, fun h1 h2 => ?_⟩
        rw [hread] at h1 h2
        obtain ⟨l', hl', hx⟩ := hx (fun hc => h1 (List.mem_append_right _ hc))
          (fun hc => h2 (List.mem_append_right _ hc))
        exact ⟨l', hl', by rw [hx, List.append_assoc]⟩
    · -- the line feed has been read with the end of a marker
      have hn : n.toEnd = [⟨.eof, "", n.point⟩] := by
        obtain ⟨rest, point, mode, comment, last⟩ := n
        subst hm hr
        exact toEnd_of_halt rfl
      exact .inl ⟨e, n.last, by rw [hn, hr]; rfl, by rw [toEnd_of_go hs, hr]; rfl⟩

end Reading

end ManifestMarkers.Lexeme
