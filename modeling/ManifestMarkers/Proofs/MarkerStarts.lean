import ManifestMarkers.Proofs.MarkerWriting

/-!
# Where markers start

Outside of markers the lexer passes over text until a plus sign stands directly before the start of
an identifier. Nothing else starts a marker, and no text in front of it hides one.

* `Startless` texts have no such plus sign; `exists_first_start` finds the first one.
* `units` cuts a text into its units, and `EndsInSign` says that the last one of them is a comment
  sign, blanks apart.
* `dueComment` follows the lexer over a text and has the comment lexeme that is due at its end;
  `dueComment_eq_some_iff` compares it with the units.
* `lex_starts`: the lexemes of a text up to its first marker.
-/

namespace ManifestMarkers.Lexeme

/-! ### Texts without markers -/

/-- No plus sign of the text has the start of an identifier directly behind it. -/
def Startless (cs : List Char) : Prop :=
  ∀ before c after, cs = before ++ '+' :: c :: after → isIdentStart c = false

theorem startless_nil : Startless [] := by
  intro before c after h
  simp at h

theorem startless_cons {c : Char} {cs : List Char} :
    Startless (c :: cs) ↔ (c = '+' → ∀ d ∈ cs.head?, isIdentStart d = false) ∧ Startless cs := by
  constructor
  · intro h
    refine ⟨?_, fun before d after he => h (c :: before) d after (by rw [he]; rfl)⟩
    rintro rfl d hd
    obtain ⟨rest, rfl⟩ := List.head?_eq_some_iff.1 hd
    exact h [] d rest rfl
  · rintro ⟨hhead, htail⟩ before d after he
    cases before with
    | nil =>
      obtain ⟨rfl, rfl⟩ := List.cons.inj he
      exact hhead rfl d rfl
    | cons e before => exact htail before d after (List.cons.inj he).2

theorem Startless.of_append {a b : List Char} (h : Startless (a ++ b)) : Startless b := by
  intro before c after he
  exact h (a ++ before) c after (by rw [he, List.append_assoc])

/-- A text with a marker has a first one. -/
theorem exists_first_start {cs : List Char} (h : ¬ Startless cs) :
    ∃ u c t, cs = u ++ '+' :: c :: t ∧ isIdentStart c = true ∧ Startless u := by
  induction cs with
  | nil => exact absurd startless_nil h
  | cons x cs ih =>
    by_cases hx : x = '+' → ∀ d ∈ cs.head?, isIdentStart d = false
    · obtain ⟨u, c, t, rfl, hc, hu⟩ := ih fun hcs => h (startless_cons.2 ⟨hx, hcs⟩)
      refine ⟨x :: u, c, t, rfl, hc, startless_cons.2 ⟨fun hplus d hd => ?_, hu⟩⟩
      refine hx hplus d ?_
      rw [List.head?_append, Option.mem_def.1 hd]
      rfl
    · -- the first character is the plus sign
      simp only [Classical.not_imp, not_forall, Bool.not_eq_false] at hx
      obtain ⟨rfl, d, hd, hstart⟩ := hx
      obtain ⟨rest, rfl⟩ := List.head?_eq_some_iff.1 hd
      exact ⟨[], d, rest, rfl, hstart, startless_nil⟩

/-! ### Units of a text -/

theorem length_unit_pos (c : Char) (cs : List Char) : 0 < (unit (c :: cs)).length := by
  unfold unit
  split
  · next h => cases h
  · simp
  · simp
  · split
    · simp
    · split
      · simp
      · split <;> simp

/-- The units of a text, one after the other. -/
def units (cs : List Char) : List (List Char) :=
  match cs with
  | [] => []
  | c :: rest => unit (c :: rest) :: units ((c :: rest).drop (unit (c :: rest)).length)
termination_by cs.length
decreasing_by
  have hpos := length_unit_pos c rest
  simp only [List.length_drop, List.length_cons]
  omega

/-- A run of blanks. -/
def IsGapUnit (unit : List Char) : Prop := ∀ c ∈ unit, isGap c = true

/-- The last unit of the text that is no run of blanks is the comment sign, and `lead` is the text
in front of it. -/
def EndsInSign (cs : List Char) (sign : CommentSign) (lead : List Char) : Prop :=
  ∃ before gaps, units cs = before ++ sign.chars :: gaps ∧ before.flatten = lead ∧
    ∀ gap ∈ gaps, IsGapUnit gap

/-! ### The comment sign that is due -/

/-- The comment lexeme that is due behind a text: that of the last comment sign, if only blanks
stand behind it. The text stands at `p`, where `due?` is due. -/
def dueComment (p : Point) (due? : Option Lexeme) : List Char → Option Lexeme
  | [] => due?
  | '#' :: cs => dueComment (p.next '#') (some ⟨.comment, "#", p⟩) cs
  | '/' :: '/' :: cs => dueComment (p.after ['/', '/']) (some ⟨.comment, "//", p⟩) cs
  | c :: cs => dueComment (p.next c) (if isGap c then due? else none) cs

section

variable {p : Point} {due? : Option Lexeme} {c : Char} {cs rest : List Char}

theorem dueComment_sign (sign : CommentSign) (cs : List Char) :
    dueComment p due? (sign.chars ++ cs) =
      dueComment (p.after sign.chars) (some ⟨.comment, sign.text, p⟩) cs := by
  cases sign <;> rfl

theorem dueComment_cons (hhash : c ≠ '#') (hslashes : c = '/' → cs.head? ≠ some '/') :
    dueComment p due? (c :: cs) = dueComment (p.next c) (if isGap c then due? else none) cs := by
  rw [dueComment]
  · exact hhash
  · rintro ds rfl rfl
    exact hslashes rfl rfl

theorem dueComment_gap {gap : List Char} (hgap : IsGapUnit gap) :
    dueComment p due? (gap ++ rest) = dueComment (p.after gap) due? rest := by
  induction gap generalizing p with
  | nil => rfl
  | cons c gap ih =>
    have hc : isGap c = true := hgap c (by simp)
    have hhash : c ≠ '#' := by rintro rfl; cases hc
    have hslash : c ≠ '/' := by rintro rfl; cases hc
    rw [List.cons_append, dueComment_cons hhash fun h => absurd h hslash, if_pos hc,
      ih fun d hd => hgap d (by simp [hd])]
    rfl

/-- Nothing is due behind characters that are neither blanks nor comment signs. -/
theorem dueComment_word {word : List Char} (hne : word ≠ [])
    (hword : ∀ c ∈ word, c ≠ '#' ∧ c ≠ '/' ∧ isGap c = false) :
    dueComment p due? (word ++ rest) = dueComment (p.after word) none rest := by
  induction word generalizing p due? with
  | nil => exact absurd rfl hne
  | cons c word ih =>
    obtain ⟨hhash, hslash, hgap⟩ := hword c (by simp)
    rw [List.cons_append, dueComment_cons hhash fun h => absurd h hslash, hgap,
      if_neg (by decide)]
    by_cases hempty : word = []
    · rw [hempty]
      rfl
    · rw [ih hempty fun d hd => hword d (by simp [hd])]
      rfl

/-- What is due in front of a character that is no blank does not matter. -/
theorem dueComment_of_not_gap (hc : isGap c = false) :
    dueComment p due? (c :: cs) = dueComment p none (c :: cs) := by
  by_cases hhash : c = '#'
  · subst hhash
    rfl
  · by_cases hslashes : c = '/' ∧ cs.head? = some '/'
    · obtain ⟨rfl, hhead⟩ := hslashes
      obtain ⟨rest, rfl⟩ := List.head?_eq_some_iff.1 hhead
      rfl
    · have hslashes : c = '/' → cs.head? ≠ some '/' := fun h h' => hslashes ⟨h, h'⟩
      rw [dueComment_cons hhash hslashes, dueComment_cons hhash hslashes, hc,
        if_neg (by decide), if_neg (by decide)]

/-- What is due behind the unit `u` at `p`. -/
def dueBehind (p : Point) (due? : Option Lexeme) (u : List Char) : Option Lexeme :=
  if u = CommentSign.hash.chars then some ⟨.comment, "#", p⟩
  else if u = CommentSign.slashes.chars then some ⟨.comment, "//", p⟩
  else if u.all isGap then due?
  else none

theorem dueBehind_sign (sign : CommentSign) :
    dueBehind p due? sign.chars = some ⟨.comment, sign.text, p⟩ := by
  cases sign <;> rfl

theorem dueBehind_gap {gap : List Char} (hne : gap ≠ []) (hgap : IsGapUnit gap) :
    dueBehind p due? gap = due? := by
  obtain ⟨c, gap, rfl⟩ := List.exists_cons_of_ne_nil hne
  have hc : isGap c = true := hgap c (by simp)
  have hhash : c ≠ '#' := by rintro rfl; cases hc
  have hslash : c ≠ '/' := by rintro rfl; cases hc
  have hall : (c :: gap).all isGap = true := List.all_eq_true.2 hgap
  simp [dueBehind, CommentSign.chars, hhash, hslash, hall]

theorem dueBehind_word {word : List Char} (hhash : word ≠ ['#']) (hslashes : word ≠ ['/', '/'])
    (hc : c ∈ word) (hgap : isGap c = false) : dueBehind p due? word = none := by
  have hall : word.all isGap = false := List.all_eq_false.2 ⟨c, hc, by simp [hgap]⟩
  simp [dueBehind, CommentSign.chars, hhash, hslashes, hall]

end

theorem isWord_of_isIdentChar {c : Char} (hc : isIdentChar c = true) :
    c ≠ '#' ∧ c ≠ '/' ∧ isGap c = false := by
  refine ⟨?_, ?_, Bool.eq_false_iff.2 fun hgap => ?_⟩
  · rintro rfl; cases hc
  · rintro rfl; cases hc
  · simp only [isGap, Bool.or_eq_true, beq_iff_eq] at hgap
    rcases hgap with (rfl | rfl) | rfl <;> cases hc

theorem isIdentChar_of_isIdentStart {c : Char} (hc : isIdentStart c = true) :
    isIdentChar c = true := by
  simp only [isIdentStart, Bool.or_eq_true] at hc
  rcases hc with hc | hc
  · simp [isIdentChar, Char.isAlphanum, hc]
  · simp [isIdentChar, hc]

theorem isIdentChar_of_isDigit {c : Char} (hc : c.isDigit = true) : isIdentChar c = true := by
  simp [isIdentChar, Char.isAlphanum, hc]

/-- A unit at a time. -/
theorem dueComment_unit (p : Point) (due? : Option Lexeme) {cs : List Char} (hne : cs ≠ []) :
    dueComment p due? cs = dueComment (p.after (unit cs)) (dueBehind p due? (unit cs))
      (cs.drop (unit cs).length) := by
  have hword {c : Char} {word rest : List Char} (hc : isIdentChar c = true)
      (hword : ∀ d ∈ word, isIdentChar d = true) :
      dueComment p due? (c :: word ++ rest) =
        dueComment (p.after (c :: word)) (dueBehind p due? (c :: word)) rest := by
    have hall : ∀ d ∈ c :: word, d ≠ '#' ∧ d ≠ '/' ∧ isGap d = false := by
      intro d hd
      rcases List.mem_cons.1 hd with rfl | hd
      · exact isWord_of_isIdentChar hc
      · exact isWord_of_isIdentChar (hword d hd)
    obtain ⟨hhash, hslash, hgap⟩ := hall c (by simp)
    rw [dueComment_word (by simp) hall,
      dueBehind_word (by simp [hhash]) (by simp [hslash]) List.mem_cons_self hgap]
  have hspan {q : Char → Bool} (c : Char) (cs : List Char) :
      c :: cs = c :: cs.takeWhile q ++ (c :: cs).drop (c :: cs.takeWhile q).length := by
    rw [List.length_cons, List.drop_succ_cons, drop_takeWhile, List.cons_append,
      List.takeWhile_append_dropWhile]
  unfold unit
  split
  · exact absurd rfl hne
  · next rest =>
    rw [dueBehind_word (c := '\n') (by simp) (by simp) (by simp) (by decide)]
    rfl
  · rfl
  · next c cs hcr hslashes =>
    split
    · next hc =>
      conv_lhs => rw [hspan (q := isIdentChar) c cs]
      exact hword (isIdentChar_of_isIdentStart hc) (List.all_eq_true.1 List.all_takeWhile)
    · next hstart =>
      split
      · next hc =>
        conv_lhs => rw [hspan (q := Char.isDigit) c cs]
        exact hword (isIdentChar_of_isDigit hc) fun d hd =>
          isIdentChar_of_isDigit (List.all_eq_true.1 List.all_takeWhile d hd)
      · split
        · next hc =>
          have hgap : IsGapUnit (c :: cs.takeWhile isGap) := by
            intro d hd
            rcases List.mem_cons.1 hd with rfl | hd
            · exact hc
            · exact List.all_eq_true.1 List.all_takeWhile d hd
          conv_lhs => rw [hspan (q := isGap) c cs]
          rw [dueComment_gap hgap, dueBehind_gap (by simp) hgap]
        · next hgap =>
          -- a single character, perhaps the hash or one slash
          by_cases hhash : c = '#'
          · subst hhash
            rfl
          · have hlone : c = '/' → cs.head? ≠ some '/' := by
              rintro rfl hhead
              obtain ⟨rest, rfl⟩ := List.head?_eq_some_iff.1 hhead
              exact hslashes rest rfl rfl
            rw [dueComment_cons hhash hlone, if_neg hgap,
              dueBehind_word (by simp [hhash]) (by simp) List.mem_cons_self
                (Bool.eq_false_iff.2 hgap)]
            rfl

/-- The last unit that is no run of blanks is the first one, or it is among the others. -/
theorem endsInSign_cons {c : Char} {cs lead : List Char} {sign : CommentSign} :
    EndsInSign (c :: cs) sign lead ↔
      (∃ behind, EndsInSign ((c :: cs).drop (unit (c :: cs)).length) sign behind ∧
        lead = unit (c :: cs) ++ behind) ∨
      unit (c :: cs) = sign.chars ∧ lead = [] ∧
        ∀ u ∈ units ((c :: cs).drop (unit (c :: cs)).length), IsGapUnit u := by
  unfold EndsInSign
  rw [units]
  constructor
  · rintro ⟨before, gaps, hunits, rfl, hgaps⟩
    cases before with
    | nil =>
      obtain ⟨hsign, rfl⟩ := List.cons.inj hunits
      exact .inr ⟨hsign, rfl, hgaps⟩
    | cons first before =>
      obtain ⟨rfl, hmore⟩ := List.cons.inj hunits
      exact .inl ⟨before.flatten, ⟨before, gaps, hmore, rfl, hgaps⟩, rfl⟩
  · rintro (⟨behind, ⟨before, gaps, hunits, rfl, hgaps⟩, rfl⟩ | ⟨hsign, rfl, hgaps⟩)
    · exact ⟨unit (c :: cs) :: before, gaps, by rw [hunits]; rfl, rfl, hgaps⟩
    · exact ⟨[], _, by rw [hsign]; rfl, rfl, hgaps⟩

theorem not_isGapUnit_sign (sign : CommentSign) : ¬ IsGapUnit sign.chars := by
  intro h
  cases sign with
  | hash => exact absurd (h '#' (by simp [CommentSign.chars])) (by decide)
  | slashes => exact absurd (h '/' (by simp [CommentSign.chars])) (by decide)

/-- What is due behind a unit: a comment sign, or what was due in front of blanks. -/
theorem dueBehind_eq_some_iff {p : Point} {due? : Option Lexeme} {u : List Char} (hne : u ≠ [])
    {l : Lexeme} : dueBehind p due? u = some l ↔
      (∃ sign, u = CommentSign.chars sign ∧ l = ⟨.comment, sign.text, p⟩) ∨
        IsGapUnit u ∧ due? = some l := by
  by_cases hsign : ∃ sign, u = CommentSign.chars sign
  · obtain ⟨sign, rfl⟩ := hsign
    rw [dueBehind_sign]
    constructor
    · intro h
      cases h
      exact .inl ⟨sign, rfl, rfl⟩
    · rintro (⟨sign', hsame, rfl⟩ | ⟨hgap, -⟩)
      · cases sign <;> cases sign' <;> first | rfl | cases hsame
      · exact absurd hgap (not_isGapUnit_sign sign)
  · by_cases hgap : IsGapUnit u
    · rw [dueBehind_gap hne hgap]
      refine ⟨fun h => .inr ⟨hgap, h⟩, ?_⟩
      rintro (⟨sign, hsame, -⟩ | ⟨-, h⟩)
      · exact absurd ⟨sign, hsame⟩ hsign
      · exact h
    · have hblank : ∃ c ∈ u, isGap c = false := by simpa [IsGapUnit] using hgap
      obtain ⟨c, hc, hblank⟩ := hblank
      rw [dueBehind_word (fun h => hsign ⟨.hash, h⟩) (fun h => hsign ⟨.slashes, h⟩) hc hblank]
      refine ⟨nofun, ?_⟩
      rintro (⟨sign, hsame, -⟩ | ⟨hall, -⟩)
      · exact absurd ⟨sign, hsame⟩ hsign
      · exact absurd hall hgap

/-- What is due behind a text is its last comment sign, if only blanks stand behind that, or what
was due in front of blanks. -/
theorem dueComment_eq_some_iff {p : Point} {due? : Option Lexeme} {cs : List Char} {l : Lexeme} :
    dueComment p due? cs = some l ↔
      (∃ sign lead, EndsInSign cs sign lead ∧ l = ⟨.comment, sign.text, p.after lead⟩) ∨
        (∀ u ∈ units cs, IsGapUnit u) ∧ due? = some l := by
  fun_induction units cs generalizing p due? with
  | case1 => simp [dueComment, EndsInSign, units]
  | case2 c cs ih =>
    have hne : unit (c :: cs) ≠ [] := List.ne_nil_of_length_pos (length_unit_pos c cs)
    rw [dueComment_unit p due? (by simp), ih, dueBehind_eq_some_iff hne, List.forall_mem_cons]
    constructor
    · rintro (⟨sign, behind, hends, rfl⟩ | ⟨hgaps, ⟨sign, hsign, rfl⟩ | ⟨hgap, hdue⟩⟩)
      · refine .inl ⟨sign, _, endsInSign_cons.2 (.inl ⟨behind, hends, rfl⟩), ?_⟩
        rw [Point.after_append]
      · exact .inl ⟨sign, [], endsInSign_cons.2 (.inr ⟨hsign, rfl, hgaps⟩), rfl⟩
      · exact .inr ⟨⟨hgap, hgaps⟩, hdue⟩
    · rintro (⟨sign, lead, hends, rfl⟩ | ⟨⟨hgap, hgaps⟩, hdue⟩)
      · rcases endsInSign_cons.1 hends with ⟨behind, hbehind, rfl⟩ | ⟨hsign, rfl, hgaps⟩
        · exact .inl ⟨sign, behind, hbehind, by rw [Point.after_append]⟩
        · exact .inr ⟨hgaps, .inl ⟨sign, hsign, rfl⟩⟩
      · exact .inr ⟨hgaps, .inr ⟨hgap, hdue⟩⟩

/-! ### The run in front of a marker -/

namespace Reading

variable {r : Reading} {u t : List Char}

/-- A step has passed over some of the text `u`, and what is due at the end of it is the same. -/
structure Passes (r : Reading) (u t : List Char) (n : Reading) : Prop where
  mode : n.mode = .text
  read : ∃ read rest, u = read ++ rest ∧ read ≠ [] ∧ n.rest = rest ++ t ∧
    n.point = r.point.after read ∧
    (t ≠ [] → dueComment r.point none u = dueComment n.point none rest)

/-- The start of a marker behind a text, if anything is there. -/
def StartsMarker (t : List Char) : Prop := ∃ c cs, t = '+' :: c :: cs ∧ isIdentStart c = true

/-- A plus sign of a text that starts no marker is followed by no identifier. -/
theorem isIdentStart_of_startless {rest more : List Char} {c : Char}
    (hu : Startless ('+' :: rest)) (ht : t = [] ∨ StartsMarker t)
    (h : rest ++ t = c :: more) : isIdentStart c = false := by
  cases rest with
  | nil =>
    rcases ht with rfl | ⟨d, ds, rfl, -⟩
    · cases h
    · obtain ⟨rfl, -⟩ := List.cons.inj h
      rfl
  | cons d rest =>
    obtain ⟨rfl, -⟩ := List.cons.inj h
    exact hu [] d rest rfl

/-- A comment sign is read with the blanks behind it. -/
theorem readComment_startless (hm : r.mode = .text) (sign : CommentSign) {rest : List Char}
    (hu : u = sign.chars ++ rest) (hstartless : Startless rest) (ht : t = [] ∨ StartsMarker t) :
    (∃ n, r.readComment sign (rest ++ t) = .go [] n ∧ r.Passes u t n) ∨
      t ≠ [] ∧ ∃ l n, dueComment r.point none u = some l ∧
        r.readComment sign (rest ++ t) = .go [l, ⟨.markerStart, "+", r.point.after u⟩] n := by
  have hgap : IsGapUnit (rest.takeWhile isGap) := List.all_eq_true.1 List.all_takeWhile
  have hsplit : rest = rest.takeWhile isGap ++ rest.dropWhile isGap :=
    List.takeWhile_append_dropWhile.symm
  have hplus : ∀ c ∈ t.head?, isGap c = false := by
    rcases ht with rfl | ⟨c, cs, rfl, -⟩
    · simp
    · simp; decide
  have hdue : dueComment r.point none u = dueComment (r.point.after (sign.chars ++
      rest.takeWhile isGap)) (some ⟨.comment, sign.text, r.point⟩) (rest.dropWhile isGap) := by
    rw [hu, dueComment_sign, Point.after_append]
    conv_lhs => rw [hsplit, dueComment_gap hgap]
  cases hbehind : rest.dropWhile isGap with
  | nil =>
    rw [hbehind, List.append_nil] at hsplit
    rw [← hsplit] at hgap
    obtain ⟨htake, hdrop⟩ := span_append hgap hplus
    rcases ht with rfl | ⟨c, cs, rfl, hc⟩
    · left
      refine ⟨{ r.skip (sign.chars ++ rest) [] with comment := some sign }, ?_, hm,
        sign.chars ++ rest, [], by simp [hu], ?_, rfl, rfl, nofun⟩
      · rw [readComment, htake, hdrop]
      · cases sign <;> simp [CommentSign.chars]
    · have hread : r.readComment sign (rest ++ '+' :: c :: cs) =
          beginMarker { r.skip u ('+' :: c :: cs) with comment := some sign }
            [⟨.comment, sign.text, r.point⟩] (c :: cs) := by
        rw [readComment, htake, hdrop, hu]
        simp [hc]
      exact .inr ⟨by simp, _, _, by rw [hdue, hbehind]; rfl, hread⟩
  | cons d behind =>
    have hd : isGap d = false := eq_false_of_head?_dropWhile (by rw [hbehind]; rfl)
    obtain ⟨htake, hdrop⟩ := span_append (t := d :: behind ++ t) hgap (by simpa using hd)
    left
    refine ⟨{ r.skip (sign.chars ++ rest.takeWhile isGap) (d :: behind ++ t) with
      comment := some sign }, ?_, hm, sign.chars ++ rest.takeWhile isGap, d :: behind, ?_, ?_,
      rfl, rfl, fun _ => ?_⟩
    · have htext : rest ++ t = rest.takeWhile isGap ++ (d :: behind ++ t) := by
        conv_lhs => rw [hsplit, hbehind, List.append_assoc]
      rw [readComment, htext, htake, hdrop]
      dsimp only
      split
      · next c cs hcs =>
        obtain ⟨rfl, hmore⟩ := List.cons.inj hcs
        have hstart : Startless ('+' :: behind) := by
          rw [hsplit, hbehind] at hstartless
          exact hstartless.of_append
        rw [isIdentStart_of_startless hstart ht hmore, if_neg (by decide)]
      · rfl
    · rw [hu, List.append_assoc, ← hbehind, ← hsplit]
    · cases sign <;> simp [CommentSign.chars]
    · rw [hdue, hbehind, dueComment_of_not_gap hd]
      rfl

/-- A step over text in which no marker starts. It leads into a marker only where the text behind it
starts one and a comment sign is due. -/
theorem step_startless (hm : r.mode = .text) (hr : r.rest = u ++ t) (hne : u ≠ [])
    (hu : Startless u) (ht : t = [] ∨ StartsMarker t) :
    (∃ n, r.step = .go [] n ∧ r.Passes u t n) ∨
      t ≠ [] ∧ ∃ l n, dueComment r.point none u = some l ∧
        r.step = .go [l, ⟨.markerStart, "+", r.point.after u⟩] n := by
  obtain ⟨c, rest, rfl⟩ := List.exists_cons_of_ne_nil hne
  have hrest : Startless rest := (startless_cons.1 hu).2
  have hstep : r.step = r.readText := by rw [step, hm]
  have hskip {m : Reading} (hrest : m.rest = rest ++ t) (hmode : m.mode = .text)
      (hpoint : m.point = r.point.after [c])
      (hdue : dueComment r.point none (c :: rest) = dueComment (r.point.next c) none rest) :
      r.Passes (c :: rest) t m :=
    ⟨hmode, [c], rest, rfl, by simp, hrest, hpoint, fun _ => by rw [hdue, hpoint]; rfl⟩
  have hcons (hhash : c ≠ '#') (hslashes : c = '/' → rest.head? ≠ some '/') :
      dueComment r.point none (c :: rest) = dueComment (r.point.next c) none rest := by
    rw [dueComment_cons hhash hslashes, ite_self]
  rw [hstep]
  unfold readText
  rw [hr]
  split
  · next hnil => simp at hnil
  · next cs hcs =>
    obtain ⟨rfl, rfl⟩ := List.cons.inj hcs
    exact .inl ⟨_, rfl, hskip rfl hm rfl rfl⟩
  · next cs hcs =>
    obtain ⟨rfl, rfl⟩ := List.cons.inj hcs
    exact readComment_startless hm .hash rfl hrest ht
  · next cs hcs =>
    obtain ⟨rfl, hslash⟩ := List.cons.inj hcs
    -- the second slash belongs to the text, as no marker starts with one
    cases rest with
    | nil =>
      rcases ht with rfl | ⟨d, ds, rfl, -⟩
      · cases hslash
      · cases hslash
    | cons d rest =>
      obtain ⟨rfl, rfl⟩ := List.cons.inj hslash
      exact readComment_startless hm .slashes rfl (startless_cons.1 hrest).2 ht
  · next d cs hcs =>
    obtain ⟨rfl, hmore⟩ := List.cons.inj hcs
    rw [isIdentStart_of_startless hu ht hmore, if_neg (by decide), ← hmore]
    have hplus : ('+' : Char) = '/' → rest.head? ≠ some '/' := fun h => absurd h (by decide)
    exact .inl ⟨_, rfl, hskip rfl hm rfl (hcons (by decide) hplus)⟩
  · next d cs hnewline hhash hslashes hplus hcs =>
    obtain ⟨rfl, rfl⟩ := List.cons.inj hcs
    refine .inl ⟨_, rfl, hskip rfl hm rfl (hcons hhash ?_)⟩
    rintro rfl hhead
    obtain ⟨more, rfl⟩ := List.head?_eq_some_iff.1 hhead
    exact hslashes (more ++ t) rfl rfl

/-- Text in which no marker starts is passed over to its end. -/
theorem toEnd_startless (hm : r.mode = .text) (hr : r.rest = u) (hu : Startless u) :
    r.toEnd = [⟨.eof, "", r.point.after u⟩] := by
  induction r using stepInduction generalizing u with
  | halt r e hhalt =>
    rw [toEnd_of_halt hhalt]
    rcases eof_or_error_of_halt hhalt with ⟨-, hnil, rfl⟩ | ⟨-, hin | ⟨hin, -⟩⟩
    · rw [← hr, hnil]
      rfl
    · rw [hm] at hin
      exact hin.elim
    · rw [hm] at hin
      cases hin
  | go r e n hstep ih =>
    by_cases hne : u = []
    · simp [step, hm, readText, hr, hne] at hstep
    · have hstart := step_startless hm (t := []) (by simpa using hr) hne hu (.inl rfl)
      rcases hstart with ⟨n', hgo, hmode, read, rest, rfl, -, hn, hpoint, -⟩ | ⟨hnil, -⟩
      · rw [hstep] at hgo
        cases hgo
        rw [toEnd_of_go hstep, ih hmode (by simpa using hn) hu.of_append, hpoint,
          Point.after_append]
        rfl
      · exact absurd rfl hnil

/-- In front of a marker the lexer emits the comment sign that is due there, and nothing else. -/
theorem toEnd_first_start (hm : r.mode = .text) (hr : r.rest = u ++ t) (hu : Startless u)
    (ht : StartsMarker t) : ∃ n : Reading, r.toEnd =
      (dueComment r.point none u).toList ++ ⟨.markerStart, "+", r.point.after u⟩ :: n.toEnd := by
  induction r using stepInduction generalizing u with
  | halt r e hhalt =>
    exfalso
    obtain ⟨c, cs, rfl, hc⟩ := ht
    rcases eof_or_error_of_halt hhalt with ⟨-, hnil, -⟩ | ⟨-, hin | ⟨hin, -⟩⟩
    · simp [hr] at hnil
    · rw [hm] at hin
      exact hin.elim
    · rw [hm] at hin
      cases hin
  | go r e n hstep ih =>
    by_cases hne : u = []
    · subst hne
      obtain ⟨c, cs, rfl, hc⟩ := ht
      have hbegin : r.step = r.beginMarker [] (c :: cs) := by
        simp [step, hm, readText, hr, hc]
      exact ⟨_, toEnd_of_go hbegin⟩
    · rcases step_startless hm hr hne hu (.inr ht) with
        ⟨n', hgo, hmode, read, rest, rfl, -, hn, hpoint, hdue⟩ | ⟨-, l, n', hdue, hgo⟩
      · rw [hstep] at hgo
        cases hgo
        have hne : t ≠ [] := by
          obtain ⟨c, cs, rfl, -⟩ := ht
          simp
        obtain ⟨m, hend⟩ := ih hmode hn hu.of_append
        exact ⟨m, by rw [toEnd_of_go hstep, hend, hdue hne, hpoint, Point.after_append]; rfl⟩
      · exact ⟨n', by rw [toEnd_of_go hgo, hdue]; rfl⟩

end Reading

/-! ### The first marker of a text -/

/-- A text is lexed to its end without a lexeme exactly if no plus sign of it has the start of an
identifier directly behind it. Otherwise a marker starts at the first such plus sign. The only
lexeme in front of that one is the comment sign, which is there exactly if only blanks stand between
it and the plus sign. -/
theorem lex_starts (text : String) :
    ((lex text).map Lexeme.kind = [.eof] ↔ Startless text.toList) ∧
      (Startless text.toList ∧ lex text = [⟨.eof, "", Point.origin.after text.toList⟩] ∨
        ∃ u c t, text.toList = u ++ '+' :: c :: t ∧ isIdentStart c = true ∧ Startless u ∧
          ∃ before after, lex text = before ++ ⟨.markerStart, "+", Point.origin.after u⟩ :: after ∧
            (∀ l ∈ before, l.kind ≠ .markerStart) ∧
            ((∃ l ∈ before.getLast?, l.kind = .comment) ↔ ∃ sign lead, EndsInSign u sign lead) ∧
            ∀ sign lead, EndsInSign u sign lead →
              before = [⟨.comment, sign.text, Point.origin.after lead⟩]) := by
  by_cases hstartless : Startless text.toList
  · have hlex : lex text = [⟨.eof, "", Point.origin.after text.toList⟩] :=
      Reading.toEnd_startless (r := Reading.start text.toList) rfl rfl hstartless
    exact ⟨⟨fun _ => hstartless, fun _ => by rw [hlex]; rfl⟩, .inl ⟨hstartless, hlex⟩⟩
  · obtain ⟨u, c, t, htext, hc, hu⟩ := exists_first_start hstartless
    obtain ⟨n, hlex⟩ : ∃ n : Reading, lex text = (dueComment Point.origin none u).toList ++
        ⟨.markerStart, "+", Point.origin.after u⟩ :: n.toEnd :=
      Reading.toEnd_first_start (r := Reading.start text.toList) rfl htext hu ⟨c, t, rfl, hc⟩
    have hdue (l : Lexeme) : dueComment Point.origin none u = some l ↔
        ∃ sign lead, EndsInSign u sign lead ∧
          l = ⟨.comment, sign.text, Point.origin.after lead⟩ := by
      simp [dueComment_eq_some_iff]
    refine ⟨⟨fun hkinds => ?_, fun h => absurd h hstartless⟩, .inr ⟨u, c, t, htext, hc, hu,
      _, _, hlex, ?_, ?_, ?_⟩⟩
    · have hmem : Kind.markerStart ∈ (lex text).map Lexeme.kind := by simp [hlex]
      rw [hkinds] at hmem
      simp at hmem
    · intro l hl
      obtain ⟨sign, lead, -, rfl⟩ := (hdue l).1 (Option.mem_toList.1 hl)
      simp
    · constructor
      · rintro ⟨l, hl, -⟩
        have hsome := List.mem_of_getLast? hl
        obtain ⟨sign, lead, hends, -⟩ := (hdue l).1 (Option.mem_toList.1 hsome)
        exact ⟨sign, lead, hends⟩
      · rintro ⟨sign, lead, hends⟩
        rw [(hdue _).2 ⟨sign, lead, hends, rfl⟩]
        exact ⟨_, rfl, rfl⟩
    · intro sign lead hends
      rw [(hdue _).2 ⟨sign, lead, hends, rfl⟩]
      rfl

/-- Three slashes are a comment sign and a slash, so that no sign ends the text in front of this
marker. -/
example : lex "2+2 ///+a" = [⟨.markerStart, "+", ⟨1, 8, 7⟩⟩,
    ⟨.warning, "marker without scope found at position: \x7bline:1 column:10\x7d, following \"+a\"",
      ⟨1, 10, 9⟩⟩, ⟨.eof, "", ⟨1, 10, 9⟩⟩] := by
  decide

end ManifestMarkers.Lexeme
