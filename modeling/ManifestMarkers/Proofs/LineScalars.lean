import ManifestMarkers.Proofs.StreamScalars

/-!
# Scalars on one line

What the scanner makes of a scalar on one line, whatever stands behind it.

* `isPlainLine` and `QuotedLine` are scalars on one line, character by character; `LineScalar` has
  the token of each.
* `reads_plain` and `reads_quoted` read a scalar piece by piece: the blanks between two pieces stand
  for themselves.
* `Scan.exists_fetch`: the scanner gives the token.
-/

namespace ManifestMarkers.Yaml

/-! ### Places on one line -/

namespace Spot

theorem rest_skipMany {s : Spot} {a b : List Char} (hs : s.rest = a ++ b) :
    (s.skipMany a.length).rest = b := by
  simp [skipMany, hs]

theorem skipMany_skipMany (s : Spot) (m n : Nat) :
    (s.skipMany m).skipMany n = s.skipMany (m + n) := by
  simp [skipMany, List.take_add, Nat.add_assoc]

@[simp] theorem skipMany_zero (s : Spot) : s.skipMany 0 = s := by simp [skipMany]

theorem skip_skipMany (s : Spot) (n : Nat) : s.skip.skipMany n = s.skipMany (n + 1) := by
  rw [skip, skipMany_skipMany, Nat.add_comm]

theorem next_of_rest {s : Spot} {c : Char} {cs : List Char} (hs : s.rest = c :: cs)
    (p : Char → Bool) : s.next p = p c := by
  simp [next, hs]

theorem next_eq_false {s : Spot} {p : Char → Bool} (h : ∀ c ∈ s.rest.head?, p c = false) :
    s.next p = false := by
  unfold next
  split
  · next hs => exact h _ (by rw [hs]; rfl)
  · rfl

theorem next_of_nil {s : Spot} (hs : s.rest = []) (p : Char → Bool) : s.next p = false := by
  simp [next, hs]

end Spot

/-! ### Characters -/

/-- The characters of scalars and comments on one line. -/
def isLineChar (c : Char) : Bool := isAllowed c && !isBreak c && c != '\t' && c.toNat != 0xfeff

/-- A space, a line feed or the end comes next. -/
def AtGap (cs : List Char) : Prop := ∀ c ∈ cs.head?, c = ' ' ∨ c = '\n'

section

variable {c : Char}

theorem isBreak_of_isLineChar (h : isLineChar c = true) : isBreak c = false := by
  simp only [isLineChar, Bool.and_eq_true, Bool.not_eq_true'] at h
  exact h.1.1.2

theorem isSpaceOrTab_of_isLineChar (h : isLineChar c = true) (hc : c ≠ ' ') :
    isSpaceOrTab c = false := by
  simp only [isLineChar, Bool.and_eq_true, bne_iff_ne] at h
  simp [isSpaceOrTab, hc, h.1.2]

theorem isAllowed_of_isLineChar (h : isLineChar c = true) : isAllowed c = true := by
  simp only [isLineChar, Bool.and_eq_true] at h
  exact h.1.1.1

end

/-! ### Plain scalars -/

/-- Whether the rest of a plain scalar stays on its line and holds no `: ` and no ` #`. -/
def isPlainFrom (before : Option Char) : List Char → Bool
  | [] => before.any (· != ' ')
  | c :: cs =>
    isLineChar c && !(c == ':' && !cs.head?.any (· != ' ')) && !(c == '#' && before == some ' ') &&
      isPlainFrom (some c) cs

/-- Whether a plain scalar may start like this text. -/
def isPlainStart : List Char → Bool
  | [] => false
  | c :: cs =>
    !" -?:,[]\x7b\x7d#&*!|>'\"%@`".toList.contains c ||
      ("-?:".toList.contains c && cs.head?.any (· != ' '))

/-- Whether a text is a plain scalar on one line. -/
def isPlainLine (cs : List Char) : Bool := isPlainStart cs && isPlainFrom none cs

/-- What follows a plain scalar on its line: blanks, the end, or the colon that makes it a key. -/
def EndsPiece (cs : List Char) : Prop := AtGap cs ∨ ∃ rest, cs = ':' :: rest ∧ AtGap rest

/-- Behind the last piece of a plain scalar at `t` the scanner reads on to `t'`, where the scalar
ends; `broken` says that there were line breaks. -/
structure PlainEnds (indent : Nat) (t t' : Spot) (broken : Bool) : Prop where
  ends : EndsPiece t.rest
  gap : ∃ g, readGap (some indent) (t.rest.length + 1) {} t = some (g, t') ∧ g.broken = broken
  stops : t'.column < indent ∨ t'.rest = [] ∨ t'.next (· == '#') = true ∨
    ∃ rest, t'.rest = ':' :: rest ∧ AtGap rest

/-- Read on behind a piece of a plain scalar. -/
def pastPiece (indent fuel : Nat) (text : List Char) (gap : Gap) (s : Spot) :
    Option (List Char × Spot × Bool) :=
  if !(s.next isSpaceOrTab || s.next isBreak) then some (text, s, gap.broken)
  else match readGap (some indent) (s.rest.length + 1) gap s with
    | none => none
    | some (gap, s) =>
      if s.column < indent then some (text, s, gap.broken)
      else readPlain false indent fuel text gap s

section

variable {s t t' : Spot} {indent fuel : Nat} {broken : Bool} {c : Char} {cs rest : List Char}

theorem readPlain_piece {text piece : List Char} {gap : Gap}
    (hmark : s.atDocumentIndicator = false) (hhash : s.next (· == '#') = false)
    (h : readPlainPiece false (s.rest.length + 1) s = some (piece, t)) :
    readPlain false indent (fuel + 1) text gap s =
      pastPiece indent fuel (addPiece text gap piece).1 (addPiece text gap piece).2 t := by
  rw [readPlain, hmark, hhash, h]
  simp only [Bool.or_self, Bool.false_eq_true, if_false, Bool.not_false, Bool.true_and,
    decide_eq_true_eq]
  rfl

theorem atGap_iff : AtGap rest ↔ rest = [] ∨ (∃ more, rest = ' ' :: more) ∨
    ∃ more, rest = '\n' :: more := by
  cases rest with
  | nil => simp [AtGap]
  | cons c more => simp [AtGap]

theorem blankOrEndAt_of_atGap (hs : s.rest = c :: rest) (h : AtGap rest) :
    s.blankOrEndAt 1 = true := by
  rcases atGap_iff.1 h with rfl | ⟨more, rfl⟩ | ⟨more, rfl⟩ <;>
    simp [Spot.blankOrEndAt, hs, isSpaceOrTab, isBreak]

theorem atBlankOrEnd_eq (hs : s.rest = c :: cs) :
    s.atBlankOrEnd = (isSpaceOrTab c || isBreak c) := by
  simp [Spot.atBlankOrEnd, Spot.blankOrEndAt, hs]

/-- No piece starts where a plain scalar ends. -/
theorem readPlainPiece_end (h : EndsPiece s.rest) :
    readPlainPiece false (fuel + 1) s = some ([], s) := by
  rw [readPlainPiece]
  split
  · rfl
  · next c cs hs =>
    rw [hs] at h
    rcases h with h | ⟨rest, heq, hrest⟩
    · rw [if_pos]
      rw [atBlankOrEnd_eq hs]
      rcases h c rfl with rfl | rfl <;> decide
    · cases heq
      rw [atBlankOrEnd_eq hs, blankOrEndAt_of_atGap hs hrest]
      rfl

/-- Behind the last piece, the scalar has ended. -/
theorem PlainEnds.pastPiece_eq (h : PlainEnds indent t t' broken) (hfuel : t.rest.length ≤ fuel)
    (text : List Char) : pastPiece indent fuel text {} t = some (text, t', broken) := by
  obtain ⟨g, hg, rfl⟩ := h.gap
  unfold pastPiece
  by_cases hnext : (t.next isSpaceOrTab || t.next isBreak) = true
  · obtain ⟨fuel, rfl⟩ : ∃ f, fuel = f + 1 := by
      cases hrest : t.rest with
      | nil => simp [Spot.next_of_nil hrest] at hnext
      | cons c cs =>
        rw [hrest, List.length_cons] at hfuel
        exact ⟨fuel - 1, by omega⟩
    rw [hnext, hg]
    simp only [Bool.not_true, Bool.false_eq_true, if_false]
    split
    · rfl
    · next hcolumn =>
      -- the scanner looks for one more piece and finds none
      rw [readPlain]
      split
      · rfl
      · next hhash =>
        rw [readPlainPiece_end (by
          rcases h.stops with h | h | h | h
          · exact absurd h hcolumn
          · exact .inl (by simp [h, AtGap])
          · simp [h] at hhash
          · exact .inr h)]
        rcases h.stops with h | h | h | ⟨rest, h, -⟩
        · exact absurd h hcolumn
        · simp [Spot.next_of_nil h]
        · simp [h] at hhash
        · simp [Spot.next_of_rest h, isSpaceOrTab, isBreak]
  · have hnext : (t.next isSpaceOrTab || t.next isBreak) = false := by simpa using hnext
    rw [hnext]
    rw [Bool.or_eq_false_iff] at hnext
    rw [readGap, hnext.1, hnext.2] at hg
    cases hg
    rfl

end

theorem isPlainFrom_cons {before : Option Char} {c : Char} {cs : List Char} :
    isPlainFrom before (c :: cs) = true ↔ isLineChar c = true ∧
      (c = ':' → ∃ d ds, cs = d :: ds ∧ d ≠ ' ') ∧ (c = '#' → before ≠ some ' ') ∧
      isPlainFrom (some c) cs = true := by
  cases cs <;> simp [isPlainFrom, and_assoc, Decidable.imp_iff_not_or]

/-! ### Reading a plain scalar -/

/-- From `s` on a piece is read, and behind it all the rest `cs` of the scalar, up to `t'`. -/
def ReadsPiece (indent : Nat) (t' : Spot) (broken : Bool) (cs : List Char) (s : Spot) : Prop :=
  ∀ f, s.rest.length < f → ∃ piece t, readPlainPiece false f s = some (piece, t) ∧
    (∀ c ∈ cs.head?, c ≠ ' ' → piece ≠ []) ∧
    ∀ (text : List Char) (fuel : Nat), s.rest.length ≤ fuel →
      pastPiece indent fuel (text ++ piece) {} t = some (text ++ cs, t', broken)

/-- From `s` on blanks are read, and behind them all the rest `cs` of the scalar, up to `t'`. -/
def ReadsBlanks (indent : Nat) (t' : Spot) (broken : Bool) (cs : List Char) (s : Spot) : Prop :=
  ∀ g : Gap, g.broken = false →
    ∃ g' t, readGap (some indent) (s.rest.length + 1) g s = some (g', t) ∧ indent ≤ t.column ∧
      ∀ (text : List Char) (fuel : Nat), s.rest.length < fuel →
        readPlain false indent fuel text g' t = some (text ++ g.blanks ++ cs, t', broken)

section

variable {indent : Nat} {s t' : Spot} {broken : Bool} {c : Char} {cs after : List Char}

theorem readsPiece_nil (h : PlainEnds indent s t' broken) : ReadsPiece indent t' broken [] s := by
  intro f hf
  obtain ⟨f, rfl⟩ : ∃ f', f = f' + 1 := ⟨f - 1, by omega⟩
  refine ⟨[], s, readPlainPiece_end h.ends, by simp, fun text fuel hfuel => ?_⟩
  rw [List.append_nil]
  exact h.pastPiece_eq hfuel text

theorem length_skip (hs : s.rest = c :: after) : s.rest.length = s.skip.rest.length + 1 := by
  simp [Spot.skip, Spot.skipMany, hs]

/-- A blank ends the piece. -/
theorem readsPiece_space (hs : s.rest = ' ' :: after)
    (h : ReadsBlanks indent t' broken cs s.skip) :
    ReadsPiece indent t' broken (' ' :: cs) s := by
  intro f hf
  have hlength := length_skip hs
  obtain ⟨f, rfl⟩ : ∃ f', f = f' + 1 := ⟨f - 1, by omega⟩
  obtain ⟨g, t, hgap, hindent, hread⟩ := h { blanks := [' '] } rfl
  refine ⟨[], s, ?_, by simp, fun text fuel hfuel => ?_⟩
  · rw [readPlainPiece, hs]
    simp [atBlankOrEnd_eq hs, isSpaceOrTab]
  · have hstep : readGap (some indent) (s.rest.length + 1) {} s = some (g, t) := by
      rw [hlength, readGap, Spot.next_of_rest hs, hs]
      simpa [isSpaceOrTab] using hgap
    rw [List.append_nil, pastPiece, Spot.next_of_rest hs, hstep]
    simp only [isSpaceOrTab, beq_self_eq_true, Bool.true_or, Bool.not_true, Bool.false_eq_true,
      if_false]
    rw [if_neg (by omega), hread text fuel (by omega), List.append_assoc, List.singleton_append]

/-- Another character goes on with the piece. -/
theorem readsPiece_cons {before : Option Char} (hplain : isPlainFrom before (c :: cs) = true)
    (hc : c ≠ ' ') (hs : s.rest = c :: (cs ++ after)) (h : ReadsPiece indent t' broken cs s.skip) :
    ReadsPiece indent t' broken (c :: cs) s := by
  intro f hf
  obtain ⟨hline, hcolon, -, hmore⟩ := isPlainFrom_cons.1 hplain
  have hlength := length_skip hs
  obtain ⟨f, rfl⟩ : ∃ f', f = f' + 1 := ⟨f - 1, by omega⟩
  obtain ⟨piece, t, hread, -, hpast⟩ := h f (by omega)
  refine ⟨c :: piece, t, ?_, by simp, fun text fuel hfuel => ?_⟩
  · have hkey : (c == ':' && s.blankOrEndAt 1) = false := by
      rw [Bool.and_eq_false_iff, beq_eq_false_iff_ne]
      by_cases hc : c = ':'
      · obtain ⟨d, ds, rfl, hd⟩ := hcolon hc
        have hdline := (isPlainFrom_cons.1 hmore).1
        right
        simp [Spot.blankOrEndAt, hs, isSpaceOrTab_of_isLineChar hdline hd,
          isBreak_of_isLineChar hdline]
      · exact .inl hc
    rw [readPlainPiece, hs]
    simp only [atBlankOrEnd_eq hs, isSpaceOrTab_of_isLineChar hline hc,
      isBreak_of_isLineChar hline, hkey, Bool.or_self, Bool.false_and, Bool.false_eq_true,
      if_false]
    rw [hread]
    rfl
  · have hpast := hpast (text ++ [c]) fuel (by omega)
    rwa [List.append_assoc, List.append_assoc] at hpast

theorem readsBlanks_space (hs : s.rest = ' ' :: after)
    (h : ReadsBlanks indent t' broken cs s.skip) :
    ReadsBlanks indent t' broken (' ' :: cs) s := by
  intro g hg
  have hlength := length_skip hs
  obtain ⟨g', t, hgap, hindent, hread⟩ := h { g with blanks := g.blanks ++ [' '] } hg
  refine ⟨g', t, ?_, hindent, fun text fuel hfuel => ?_⟩
  · rw [hlength, readGap, Spot.next_of_rest hs, hg, hs]
    simpa [isSpaceOrTab, hg] using hgap
  · rw [hread text fuel (by omega)]
    simp

/-- Behind the blanks starts the next piece. -/
theorem readsBlanks_cons (hplain : isPlainFrom (some ' ') (c :: cs) = true) (hc : c ≠ ' ')
    (hs : s.rest = c :: (cs ++ after)) (hindent : indent ≤ s.column) (hcolumn : 0 < s.column)
    (h : ReadsPiece indent t' broken (c :: cs) s) :
    ReadsBlanks indent t' broken (c :: cs) s := by
  intro g hg
  obtain ⟨hline, -, hhash, -⟩ := isPlainFrom_cons.1 hplain
  refine ⟨g, s, ?_, hindent, fun text fuel hfuel => ?_⟩
  · rw [readGap, Spot.next_of_rest hs isSpaceOrTab, Spot.next_of_rest hs isBreak,
      isBreak_of_isLineChar hline, isSpaceOrTab_of_isLineChar hline hc]
    rfl
  · obtain ⟨fuel, rfl⟩ : ∃ f, fuel = f + 1 := ⟨fuel - 1, by omega⟩
    obtain ⟨piece, t, hread, hne, hpast⟩ := h _ (Nat.lt_succ_self _)
    have hpiece : piece.isEmpty = false := by simpa using hne c rfl hc
    have hmark : s.atDocumentIndicator = false := by
      simp only [Spot.atDocumentIndicator, Bool.and_eq_false_iff, beq_eq_false_iff_ne]
      exact .inl (.inl (by omega))
    have hstart : s.next (· == '#') = false := by
      rw [Spot.next_of_rest hs, beq_eq_false_iff_ne]
      exact fun hc => hhash hc rfl
    rw [readPlain_piece hmark hstart hread]
    simp only [addPiece, hpiece, Bool.false_eq_true, if_false, Gap.folded, hg]
    exact hpast _ fuel (by omega)

/-- From every place in a plain scalar the scanner reads all that is left of it. -/
theorem reads_plain {before : Option Char} (hplain : isPlainFrom before cs = true)
    (hs : s.rest = cs ++ after) (hends : PlainEnds indent (s.skipMany cs.length) t' broken)
    (hindent : indent ≤ s.column + 1) : ReadsPiece indent t' broken cs s ∧
      (before = some ' ' → indent ≤ s.column → 0 < s.column →
        ReadsBlanks indent t' broken cs s) := by
  induction cs generalizing before s with
  | nil =>
    rw [List.length_nil, Spot.skipMany_zero] at hends
    refine ⟨readsPiece_nil hends, ?_⟩
    rintro rfl
    simp [isPlainFrom] at hplain
  | cons c cs ih =>
    have hmore := (isPlainFrom_cons.1 hplain).2.2.2
    have hskip : s.skip.rest = cs ++ after := Spot.rest_skipMany (a := [c]) hs
    have hcolumn : s.skip.column = s.column + 1 := rfl
    rw [List.length_cons, ← Spot.skip_skipMany] at hends
    obtain ⟨hpiece, hblanks⟩ := ih hmore hskip hends (by omega)
    by_cases hc : c = ' '
    · subst hc
      have hblanks := hblanks rfl (by omega) (by omega)
      exact ⟨readsPiece_space hs hblanks, fun _ _ _ => readsBlanks_space hs hblanks⟩
    · have hpiece := readsPiece_cons hplain hc hs hpiece
      refine ⟨hpiece, ?_⟩
      rintro rfl hindent hcolumn
      exact readsBlanks_cons hplain hc hs hindent hcolumn hpiece

end

/-! ### Quoted scalars -/

/-- One character of a quoted scalar, as it is written and as it is read. -/
inductive QuotedUnit : Bool → List Char → Char → Prop
  | plain {single : Bool} {c : Char} (hline : isLineChar c = true)
      (hquote : c ≠ closingQuote single) (hslash : single = true ∨ c ≠ '\\') :
      QuotedUnit single [c] c
  | doubled : QuotedUnit true ['\'', '\''] '\''
  | escape {e c : Char} (hline : isLineChar e = true) (hcode : codeDigits? e = none)
      (h : quotedEscape? e = some c) : QuotedUnit false ['\\', e] c
  | code {d c : Char} {digits : List Char} {n : Nat} (hline : digits.all isLineChar = true)
      (hcode : codeDigits? d = some digits.length)
      (hvalue : Lexeme.hexValueFrom? 0 digits = some n) (h : Lexeme.charOfCode? n = some c) :
      QuotedUnit false ('\\' :: d :: digits) c

/-- What stands between the quotes of a scalar on one line, with its text. -/
inductive QuotedLine (single : Bool) : List Char → List Char → Prop
  | nil : QuotedLine single [] []
  | cons {unit inner text : List Char} {c : Char} (hunit : QuotedUnit single unit c)
      (h : QuotedLine single inner text) : QuotedLine single (unit ++ inner) (c :: text)

/-- Read on behind a piece of a quoted scalar. -/
def pastQuoted (single : Bool) (fuel : Nat) (text : List Char) (s : Spot) :
    Option (List Char × Spot) :=
  if s.next (· == closingQuote single) then some (text, s.skip)
  else match readGap none (s.rest.length + 1) {} s with
    | none => none
    | some (gap, s) => readQuoted single fuel (text ++ gap.folded) s

/-- From `s` on a piece is read, and behind it all the rest of the scalar, up to `t'`. -/
def ReadsQuoted (single : Bool) (t' : Spot) (text : List Char) (s : Spot) : Prop :=
  ∀ f, s.rest.length < f → ∃ piece t, readQuotedPiece single f s = some (piece, t, false) ∧
    ∀ (lead : List Char) (fuel : Nat), s.rest.length ≤ fuel →
      pastQuoted single fuel (lead ++ piece) t = some (lead ++ text, t')

/-- From `s` on blanks are read, and behind them all the rest of the scalar, up to `t'`. -/
def ReadsQuotedBlanks (single : Bool) (t' : Spot) (text : List Char) (s : Spot) : Prop :=
  ∀ g : Gap, g.broken = false →
    ∃ g' t, readGap none (s.rest.length + 1) g s = some (g', t) ∧
      ∀ (lead : List Char) (fuel : Nat), s.rest.length < fuel →
        readQuoted single fuel (lead ++ g'.folded) t = some (lead ++ g.blanks ++ text, t')

section

variable {single : Bool} {s t' : Spot} {c : Char} {unit inner text after : List Char}

theorem readQuoted_piece {fuel : Nat} {piece : List Char} {t : Spot}
    (hmark : s.atDocumentIndicator = false) (hne : s.rest ≠ [])
    (h : readQuotedPiece single (s.rest.length + 1) s = some (piece, t, false)) :
    readQuoted single (fuel + 1) text s = pastQuoted single fuel (text ++ piece) t := by
  rw [readQuoted, hmark, h]
  simp only [List.isEmpty_iff, hne, Bool.false_or, if_false]
  cases single <;> rfl

theorem atDocumentIndicator_of_column (h : 0 < s.column) : s.atDocumentIndicator = false := by
  simp only [Spot.atDocumentIndicator, Bool.and_eq_false_iff, beq_eq_false_iff_ne]
  exact .inl (.inl (by omega))

theorem closingQuote_spec (single : Bool) :
    isSpaceOrTab (closingQuote single) = false ∧ isBreak (closingQuote single) = false ∧
      closingQuote single ≠ ' ' := by
  cases single <;> decide

theorem readsQuoted_nil (hs : s.rest = closingQuote single :: after)
    (hafter : single = true → after.head? ≠ some '\'') : ReadsQuoted single s.skip [] s := by
  intro f hf
  obtain ⟨f, rfl⟩ : ∃ f', f = f' + 1 := ⟨f - 1, by omega⟩
  refine ⟨[], s, ?_, fun lead fuel _ => ?_⟩
  · rw [readQuotedPiece, atBlankOrEnd_eq hs, hs]
    cases single with
    | true => simp [closingQuote, isSpaceOrTab, isBreak, hafter rfl]
    | false => simp [closingQuote, isSpaceOrTab, isBreak]
  · rw [pastQuoted, Spot.next_of_rest hs, beq_self_eq_true, if_pos rfl, List.append_nil]

/-- A blank ends the piece. -/
theorem readsQuoted_space (hs : s.rest = ' ' :: after)
    (h : ReadsQuotedBlanks single t' text s.skip) : ReadsQuoted single t' (' ' :: text) s := by
  intro f hf
  have hlength := length_skip hs
  obtain ⟨f, rfl⟩ : ∃ f', f = f' + 1 := ⟨f - 1, by omega⟩
  obtain ⟨g, t, hgap, hread⟩ := h { blanks := [' '] } rfl
  refine ⟨[], s, ?_, fun lead fuel hfuel => ?_⟩
  · rw [readQuotedPiece, atBlankOrEnd_eq hs]
    rfl
  · have hquote : s.next (· == closingQuote single) = false := by
      rw [Spot.next_of_rest hs, beq_eq_false_iff_ne]
      exact (closingQuote_spec single).2.2.symm
    have hstep : readGap none (s.rest.length + 1) {} s = some (g, t) := by
      rw [hlength, readGap, Spot.next_of_rest hs, hs]
      simpa [isSpaceOrTab] using hgap
    rw [List.append_nil, pastQuoted, hquote, hstep]
    simp only [Bool.false_eq_true, if_false]
    rw [hread lead fuel (by omega), List.append_assoc, List.singleton_append]

theorem readQuotedEscape_letter {e : Char} (hcode : codeDigits? e = none)
    (h : quotedEscape? e = some c) (hs : s.rest = e :: after) :
    readQuotedEscape s = some (c, s.skip) := by
  rw [readQuotedEscape, hs]
  simp [hcode, h]

theorem readQuotedEscape_code {d : Char} {digits : List Char} {n : Nat}
    (hcode : codeDigits? d = some digits.length) (hvalue : Lexeme.hexValueFrom? 0 digits = some n)
    (h : Lexeme.charOfCode? n = some c) (hs : s.rest = d :: (digits ++ after)) :
    readQuotedEscape s = some (c, s.skipMany (digits.length + 1)) := by
  rw [readQuotedEscape, hs]
  simp [hcode, hvalue, h]

/-- A character that is no blank is read with its piece. -/
theorem readQuotedPiece_unit (hunit : QuotedUnit single unit c) (hc : unit ≠ [' '])
    (hs : s.rest = unit ++ after) (f : Nat) :
    readQuotedPiece single (f + 1) s =
      (readQuotedPiece single f (s.skipMany unit.length)).map fun (piece, t, escaped) =>
        (c :: piece, t, escaped) := by
  cases hunit with
  | @plain _ c hline hquote hslash =>
    have hspace : c ≠ ' ' := fun h => hc (by rw [h])
    rw [readQuotedPiece, atBlankOrEnd_eq hs, isSpaceOrTab_of_isLineChar hline hspace,
      isBreak_of_isLineChar hline, hs]
    cases single with
    | true =>
      have hquote : (c == '\'') = false := beq_eq_false_iff_ne.2 hquote
      simp [hquote, Spot.skip]
    | false =>
      have hquote : (c == '"') = false := beq_eq_false_iff_ne.2 hquote
      have hslash : (c == '\\') = false := beq_eq_false_iff_ne.2 (by simpa using hslash)
      simp [hquote, hslash, Spot.skip]
  | doubled =>
    rw [readQuotedPiece, atBlankOrEnd_eq hs, hs]
    simp [isSpaceOrTab, isBreak]
  | @escape e _ hline hcode h =>
    have hskip : s.skip.rest = e :: after := Spot.rest_skipMany (a := ['\\']) hs
    rw [readQuotedPiece, atBlankOrEnd_eq hs, hs, Spot.next_of_rest hskip,
      isBreak_of_isLineChar hline, readQuotedEscape_letter hcode h hskip]
    simp [isSpaceOrTab, isBreak, Spot.skip, Spot.skipMany_skipMany]
  | @code d _ digits n _ hcode hvalue h =>
    have hskip : s.skip.rest = d :: (digits ++ after) := Spot.rest_skipMany (a := ['\\']) hs
    have hbreak : isBreak d = false := by
      unfold codeDigits? at hcode
      split at hcode
      · rfl
      · rfl
      · rfl
      · cases hcode
    rw [readQuotedPiece, atBlankOrEnd_eq hs, hs, Spot.next_of_rest hskip, hbreak,
      readQuotedEscape_code hcode hvalue h hskip]
    simp [isSpaceOrTab, isBreak, Spot.skip_skipMany]

theorem readsQuoted_unit (hunit : QuotedUnit single unit c) (hc : unit ≠ [' '])
    (hs : s.rest = unit ++ after) (h : ReadsQuoted single t' text (s.skipMany unit.length)) :
    ReadsQuoted single t' (c :: text) s := by
  intro f hf
  have hlength : (s.skipMany unit.length).rest.length < s.rest.length := by
    rw [Spot.rest_skipMany hs, hs, List.length_append]
    have hpos : 0 < unit.length := by cases hunit <;> simp
    omega
  obtain ⟨f, rfl⟩ : ∃ f', f = f' + 1 := ⟨f - 1, by omega⟩
  obtain ⟨piece, t, hread, hpast⟩ := h f (by omega)
  refine ⟨c :: piece, t, ?_, fun lead fuel hfuel => ?_⟩
  · rw [readQuotedPiece_unit hunit hc hs, hread]
    rfl
  · have hpast := hpast (lead ++ [c]) fuel (by omega)
    rwa [List.append_assoc, List.append_assoc] at hpast

theorem readsQuotedBlanks_space (hs : s.rest = ' ' :: after)
    (h : ReadsQuotedBlanks single t' text s.skip) :
    ReadsQuotedBlanks single t' (' ' :: text) s := by
  intro g hg
  have hlength := length_skip hs
  obtain ⟨g', t, hgap, hread⟩ := h { g with blanks := g.blanks ++ [' '] } hg
  refine ⟨g', t, ?_, fun lead fuel hfuel => ?_⟩
  · rw [hlength, readGap, Spot.next_of_rest hs, hg, hs]
    simpa [isSpaceOrTab, hg] using hgap
  · rw [hread lead fuel (by omega)]
    simp

/-- Behind the blanks starts the next piece. -/
theorem readsQuotedBlanks_of_readsQuoted (hs : s.rest = c :: after)
    (hblank : isSpaceOrTab c = false) (hbreak : isBreak c = false) (hcolumn : 0 < s.column)
    (h : ReadsQuoted single t' text s) : ReadsQuotedBlanks single t' text s := by
  intro g hg
  refine ⟨g, s, ?_, fun lead fuel hfuel => ?_⟩
  · rw [readGap, Spot.next_of_rest hs isSpaceOrTab, Spot.next_of_rest hs isBreak, hblank, hbreak]
    rfl
  · obtain ⟨fuel, rfl⟩ : ∃ f, fuel = f + 1 := ⟨fuel - 1, by omega⟩
    obtain ⟨piece, t, hread, hpast⟩ := h _ (Nat.lt_succ_self _)
    rw [readQuoted_piece (atDocumentIndicator_of_column hcolumn) (by simp [hs]) hread, Gap.folded,
      hg]
    exact hpast _ fuel (by omega)

theorem exists_cons_of_unit (hunit : QuotedUnit single unit c) (hc : unit ≠ [' ']) :
    ∃ d ds, unit = d :: ds ∧ isSpaceOrTab d = false ∧ isBreak d = false := by
  cases hunit with
  | plain hline _ _ =>
    have hspace : c ≠ ' ' := fun h => hc (by rw [h])
    exact ⟨c, [], rfl, isSpaceOrTab_of_isLineChar hline hspace, isBreak_of_isLineChar hline⟩
  | doubled => exact ⟨'\'', ['\''], rfl, by decide, by decide⟩
  | @escape e _ _ _ _ => exact ⟨'\\', [e], rfl, by decide, by decide⟩
  | @code d _ digits _ _ _ _ _ => exact ⟨'\\', d :: digits, rfl, by decide, by decide⟩

theorem eq_of_unit_space (hunit : QuotedUnit single [' '] c) : c = ' ' := by
  cases hunit
  rfl

/-- From every place between the quotes the scanner reads all that is left of the scalar. -/
theorem reads_quoted (h : QuotedLine single inner text)
    (hs : s.rest = inner ++ closingQuote single :: after)
    (hafter : single = true → after.head? ≠ some '\'') (hcolumn : 0 < s.column) :
    ReadsQuoted single (s.skipMany (inner.length + 1)) text s ∧
      ReadsQuotedBlanks single (s.skipMany (inner.length + 1)) text s := by
  induction h generalizing s with
  | nil =>
    have hread := readsQuoted_nil hs hafter
    obtain ⟨hblank, hbreak, -⟩ := closingQuote_spec single
    exact ⟨hread, readsQuotedBlanks_of_readsQuoted hs hblank hbreak hcolumn hread⟩
  | @cons unit inner text c hunit _ ih =>
    rw [List.append_assoc] at hs
    have hskip := Spot.rest_skipMany hs
    have hend : (s.skipMany unit.length).skipMany (inner.length + 1) =
        s.skipMany ((unit ++ inner).length + 1) := by
      rw [Spot.skipMany_skipMany, List.length_append, Nat.add_assoc]
    obtain ⟨hpiece, hblanks⟩ := ih hskip (by simp [Spot.skipMany]; omega)
    rw [hend] at hpiece hblanks
    by_cases hc : unit = [' ']
    · subst hc
      rw [eq_of_unit_space hunit]
      exact ⟨readsQuoted_space hs hblanks, readsQuotedBlanks_space hs hblanks⟩
    · have hread := readsQuoted_unit hunit hc hs hpiece
      obtain ⟨d, ds, rfl, hblank, hbreak⟩ := exists_cons_of_unit hunit hc
      exact ⟨hread, readsQuotedBlanks_of_readsQuoted hs hblank hbreak hcolumn hread⟩

end

/-! ### Tokens -/

/-- A scalar on one line and its token. -/
inductive LineScalar : List Char → Token → Prop
  | plain {cs : List Char} (h : isPlainLine cs = true) : LineScalar cs (.scalar cs .plain)
  | quoted {single : Bool} {inner text : List Char} (h : QuotedLine single inner text) :
      LineScalar (closingQuote single :: (inner ++ [closingQuote single]))
        (.scalar text (if single then .singleQuoted else .doubleQuoted))

theorem start_of_isPlainLine {c : Char} {cs : List Char} (h : isPlainLine (c :: cs) = true) :
    isLineChar c = true ∧ c ≠ ' ' ∧ c ≠ '#' := by
  rw [isPlainLine, Bool.and_eq_true] at h
  refine ⟨(isPlainFrom_cons.1 h.2).1, ?_, ?_⟩
  · rintro rfl
    simp [isPlainStart] at h
  · rintro rfl
    simp [isPlainStart] at h

theorem LineScalar.exists_cons {raw : List Char} {token : Token} (h : LineScalar raw token) :
    ∃ c cs, raw = c :: cs ∧ isLineChar c = true ∧ c ≠ ' ' ∧ c ≠ '#' := by
  cases h with
  | plain h =>
    cases raw with
    | nil => cases h
    | cons c cs => exact ⟨c, cs, rfl, start_of_isPlainLine h⟩
  | @quoted single =>
    refine ⟨_, _, rfl, ?_⟩
    cases single <;> decide

/-! ### The characters of scalars -/

theorem isLineChar_of_unit {single : Bool} {unit : List Char} {c : Char}
    (h : QuotedUnit single unit c) : ∀ d ∈ unit, isLineChar d = true := by
  cases h with
  | plain hline => simpa using hline
  | doubled =>
    intro d hd
    obtain rfl : d = '\'' := by simpa using hd
    decide
  | escape hline => simpa using ⟨by decide, hline⟩
  | @code d _ digits _ hline hcode _ _ =>
    have hletter : isLineChar d = true := by
      unfold codeDigits? at hcode
      split at hcode
      · rfl
      · rfl
      · rfl
      · cases hcode
    intro e he
    rcases List.mem_cons.1 he with rfl | he
    · decide
    · rcases List.mem_cons.1 he with rfl | he
      · exact hletter
      · exact List.all_eq_true.1 hline e he

theorem isLineChar_of_quotedLine {single : Bool} {inner text : List Char}
    (h : QuotedLine single inner text) : ∀ d ∈ inner, isLineChar d = true := by
  induction h with
  | nil => simp
  | cons hunit _ ih =>
    intro d hd
    rcases List.mem_append.1 hd with hd | hd
    · exact isLineChar_of_unit hunit d hd
    · exact ih d hd

theorem isLineChar_of_isPlainFrom {before : Option Char} {cs : List Char}
    (h : isPlainFrom before cs = true) : ∀ d ∈ cs, isLineChar d = true := by
  induction cs generalizing before with
  | nil => simp
  | cons c cs ih =>
    obtain ⟨hline, -, -, hmore⟩ := isPlainFrom_cons.1 h
    intro d hd
    rcases List.mem_cons.1 hd with rfl | hd
    · exact hline
    · exact ih hmore d hd

theorem LineScalar.isLineChar {raw : List Char} {token : Token} (h : LineScalar raw token) :
    ∀ d ∈ raw, isLineChar d = true := by
  cases h with
  | plain h =>
    rw [isPlainLine, Bool.and_eq_true] at h
    exact isLineChar_of_isPlainFrom h.2
  | @quoted single inner text h =>
    have hquote : Yaml.isLineChar (closingQuote single) = true := by cases single <;> decide
    intro d hd
    rcases List.mem_cons.1 hd with rfl | hd
    · exact hquote
    · rcases List.mem_append.1 hd with hd | hd
      · exact isLineChar_of_quotedLine h d hd
      · rw [List.mem_singleton.1 hd]
        exact hquote

/-! ### The scanner -/

namespace Scan

/-- Fetch the token at this place. -/
def fetch? (s : Scan) : Option Scan := s.spot.rest.head?.bind s.fetchToken

variable {s : Scan} {raw after : List Char} {token : Token} {k : KeySpot}

/-- No other token starts like a plain scalar. -/
theorem fetchToken_plain {c : Char} {cs : List Char} (hflow : s.inFlow = false)
    (hs : s.spot.rest = c :: cs) (hmark : s.spot.atDocumentIndicator = false)
    (hline : isLineChar c = true) (hspace : c ≠ ' ')
    (hstart : "-?:,[]\x7b\x7d#&*!|>'\"%@`".toList.contains c = false ∨
      (c = '-' ∨ c = '?' ∨ c = ':') ∧ s.spot.blankOrEndAt 1 = false) :
    s.fetchToken c = s.fetchPlain := by
  have hblank : s.spot.atBlankOrEnd = false := by
    rw [atBlankOrEnd_eq hs, isSpaceOrTab_of_isLineChar hline hspace, isBreak_of_isLineChar hline]
    rfl
  rcases hstart with hstart | ⟨hc, hnext⟩
  · have hplain : s.startsPlain c = true := by
      rw [startsPlain, hblank, hstart]
      rfl
    rw [List.contains_eq_mem, decide_eq_false_iff_not] at hstart
    have hne : ∀ d ∈ "-?:,[]\x7b\x7d#&*!|>'\"%@`".toList, (c == d) = false := fun d hd =>
      beq_eq_false_iff_ne.2 fun hc => hstart (hc ▸ hd)
    unfold fetchToken
    simp only [hmark, hflow, hplain, hne '%' (by decide), hne '[' (by decide),
      hne '\x7b' (by decide), hne ']' (by decide), hne '\x7d' (by decide), hne ',' (by decide),
      hne '-' (by decide), hne '?' (by decide), hne ':' (by decide), hne '*' (by decide),
      hne '&' (by decide), hne '!' (by decide), hne '|' (by decide), hne '>' (by decide),
      hne '\'' (by decide), hne '"' (by decide), Bool.and_false, Bool.false_and,
      Bool.false_eq_true, if_false, if_true]
  · have hplain : s.startsPlain c = true := by
      have hskip : s.spot.skip.next isSpaceOrTab = false := by
        have hskip : s.spot.skip.rest = cs := Spot.rest_skipMany (a := [c]) hs
        cases cs with
        | nil => exact Spot.next_of_nil hskip _
        | cons d ds =>
          rw [Spot.next_of_rest hskip]
          simp only [Spot.blankOrEndAt, hs, List.drop_succ_cons, List.drop_zero,
            Bool.or_eq_false_iff] at hnext
          exact hnext.1
      rcases hc with rfl | rfl | rfl <;> simp [startsPlain, hskip, hnext, hflow]
    rcases hc with rfl | rfl | rfl <;> simp [fetchToken, hmark, hnext, hflow, hplain]

theorem fetchToken_quote (single : Bool) (hmark : s.spot.atDocumentIndicator = false) :
    s.fetchToken (closingQuote single) = s.fetchQuoted single := by
  rw [fetchToken, hmark]
  cases single <;> simp [closingQuote]

/-- The scanner gives the token of a scalar on one line. It stops behind the scalar, or where a
plain scalar ends. -/
theorem exists_fetch {t' : Spot} {broken : Bool} (h : LineScalar raw token)
    (hflow : s.inFlow = false) (hsave : s.saveKey = some { s with key := k })
    (hs : s.spot.rest = raw ++ after) (hmark : s.spot.atDocumentIndicator = false)
    (hends : PlainEnds (s.indent + 1).toNat (s.spot.skipMany raw.length) t' broken)
    (hindent : (s.indent + 1).toNat ≤ s.spot.column + 1) :
    ∃ t b, (t = s.spot.skipMany raw.length ∧ b = false ∨ t = t' ∧ b = broken) ∧
      s.fetch? = some ({ s with key := k, keyAllowed := b, spot := t }.push token) := by
  cases h with
  | plain hplain =>
    cases raw with
    | nil => cases hplain
    | cons c cs =>
      obtain ⟨hline, hspace, hhash⟩ := start_of_isPlainLine hplain
      rw [isPlainLine, Bool.and_eq_true] at hplain
      obtain ⟨hstart, hplain⟩ := hplain
      have hmore := (isPlainFrom_cons.1 hplain).2.2.2
      have hfetch : s.fetchToken c = s.fetchPlain := by
        refine fetchToken_plain hflow hs hmark hline hspace ?_
        rw [isPlainStart, Bool.or_eq_true, Bool.and_eq_true] at hstart
        rcases hstart with hstart | ⟨hc, hnext⟩
        · left
          rw [Bool.not_eq_true'] at hstart
          rw [List.contains_eq_mem, decide_eq_false_iff_not] at hstart ⊢
          exact fun hmem => hstart (List.mem_cons_of_mem _ hmem)
        · right
          cases cs with
          | nil => cases hnext
          | cons d ds =>
            have hd : d ≠ ' ' := by simpa using hnext
            have hdline := (isPlainFrom_cons.1 hmore).1
            refine ⟨by simpa using hc, ?_⟩
            simp [Spot.blankOrEndAt, hs, isSpaceOrTab_of_isLineChar hdline hd,
              isBreak_of_isLineChar hdline]
      replace hhash : s.spot.next (· == '#') = false := by
        rwa [Spot.next_of_rest hs, beq_eq_false_iff_ne]
      obtain ⟨piece, t, hread, hne, hpast⟩ := (reads_plain hplain hs hends hindent).1 _
        (Nat.lt_succ_self _)
      have hpiece : piece.isEmpty = false := by simpa using hne c rfl hspace
      have hpast := hpast [] _ (Nat.le_refl _)
      refine ⟨t', broken, .inr ⟨rfl, rfl⟩, ?_⟩
      rw [fetch?, hs, List.cons_append, List.head?_cons, Option.bind_some, hfetch, fetchPlain,
        hsave]
      simp only [Option.bind_eq_bind, Option.bind_some]
      rw [show ({ s with key := k } : Scan).inFlow = s.inFlow from rfl, hflow,
        readPlain_piece hmark hhash hread]
      simp only [addPiece, hpiece, Bool.false_eq_true, if_false, Gap.folded]
      simp only [List.nil_append] at hpast ⊢
      rw [hpast]
      rfl
  | @quoted single inner text hquoted =>
    rw [List.cons_append, List.append_assoc, List.singleton_append] at hs
    have hskip : s.spot.skip.rest = inner ++ closingQuote single :: after :=
      Spot.rest_skipMany (a := [closingQuote single]) hs
    have hcolumn : 0 < s.spot.skip.column := by simp [Spot.skip, Spot.skipMany]
    have hafter : single = true → after.head? ≠ some '\'' := by
      have hrest := Spot.rest_skipMany (b := after)
        (a := closingQuote single :: (inner ++ [closingQuote single])) (by simpa using hs)
      rintro - hhead
      have hends := hends.ends
      rw [hrest] at hends
      rcases hends with hgap | ⟨rest, rfl, -⟩
      · rcases hgap _ hhead with h | h <;> cases h
      · cases hhead
    obtain ⟨piece, t, hread, hpast⟩ := (reads_quoted hquoted hskip hafter hcolumn).1 _
      (Nat.lt_succ_self _)
    have hpast := hpast [] _ (Nat.le_refl _)
    refine ⟨_, false, .inl ⟨rfl, rfl⟩, ?_⟩
    rw [fetch?, hs, List.head?_cons, Option.bind_some, fetchToken_quote single hmark, fetchQuoted,
      hsave]
    simp only [Option.bind_eq_bind, Option.bind_some]
    rw [readQuoted_piece (atDocumentIndicator_of_column hcolumn) (by simp [hskip]) hread, hpast]
    simp [Spot.skip_skipMany]

end Scan

end ManifestMarkers.Yaml
