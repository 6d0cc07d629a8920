import Mathlib.Data.List.Infix
import ManifestMarkers.Proofs.MarkerWriting

/-!
# Strings that go on over comment lines

A marker in a comment may have a value in backticks that goes on over the next lines, each of which
is a comment again. The sign that these lines lose is the last one that was read before the marker,
wherever on its line it stood.

* `signBehind` is the sign in force behind some prose, and `Reading.exists_beginMarker` is the run
  of the lexer over the prose.
* `stripCommentSign_continued`: a continued line loses exactly its decoration if the sign is `#`,
  and nothing otherwise.
* `strings_lex_continued`: the only string of such a text, and when it is the undecorated one.
-/

namespace ManifestMarkers.Lexeme

/-! ### The sign in force -/

/-- The comment sign in force behind a text, where `sign` is the one in front of it. -/
def signBehind (sign : Option CommentSign) : List Char → Option CommentSign
  | [] => sign
  | '#' :: cs => signBehind (some .hash) cs
  | '/' :: '/' :: cs => signBehind (some .slashes) cs
  | _ :: cs => signBehind sign cs

theorem isSome_signBehind {sign : Option CommentSign} (h : sign.isSome = true) (cs : List Char) :
    (signBehind sign cs).isSome = true := by
  fun_induction signBehind sign cs with
  | case1 => exact h
  | case2 _ cs ih => exact ih rfl
  | case3 _ cs ih => exact ih rfl
  | case4 sign c cs _ _ ih => exact ih h

/-- Two slashes are in force exactly if no hash stands behind the last ones. -/
theorem signBehind_eq_slashes_iff {sign : Option CommentSign} {cs : List Char} :
    signBehind sign cs = some .slashes ↔ sign = some .slashes ∧ '#' ∉ cs ∨
      ∃ before after, cs = before ++ '/' :: '/' :: after ∧ '#' ∉ after := by
  fun_induction signBehind sign cs with
  | case1 => simp
  | case2 _ cs ih =>
    rw [ih]
    constructor
    · rintro (⟨h, -⟩ | ⟨before, after, rfl, hafter⟩)
      · cases h
      · exact .inr ⟨'#' :: before, after, rfl, hafter⟩
    · rintro (⟨-, h⟩ | ⟨before, after, h, hafter⟩)
      · exact absurd List.mem_cons_self h
      · cases before with
        | nil => cases h
        | cons c before => exact .inr ⟨before, after, (List.cons.inj h).2, hafter⟩
  | case3 sign cs ih =>
    rw [ih]
    constructor
    · rintro (⟨-, h⟩ | ⟨before, after, rfl, hafter⟩)
      · exact .inr ⟨[], cs, rfl, h⟩
      · exact .inr ⟨'/' :: '/' :: before, after, rfl, hafter⟩
    · rintro (⟨-, h⟩ | ⟨before, after, h, hafter⟩)
      · exact .inl ⟨rfl, fun hmem => h (by simp [hmem])⟩
      · -- the slashes may be the ones that were read, or overlap with them
        match before, h with
        | [], h => exact .inl ⟨rfl, (List.cons.inj (List.cons.inj h).2).2 ▸ hafter⟩
        | [_], h =>
          have hcs : cs = '/' :: after := (List.cons.inj (List.cons.inj h).2).2
          exact .inl ⟨rfl, by simpa [hcs] using hafter⟩
        | _ :: _ :: before, h =>
          exact .inr ⟨before, after, (List.cons.inj (List.cons.inj h).2).2, hafter⟩
  | case4 sign c cs hhash hslashes ih =>
    rw [ih]
    have hmem : '#' ∈ c :: cs ↔ '#' ∈ cs := by simp [Ne.symm hhash]
    rw [hmem]
    refine or_congr_right ⟨?_, ?_⟩
    · rintro ⟨before, after, rfl, hafter⟩
      exact ⟨c :: before, after, rfl, hafter⟩
    · rintro ⟨before, after, h, hafter⟩
      cases before with
      | nil =>
        obtain ⟨rfl, rfl⟩ := List.cons.inj h
        exact absurd rfl (hslashes after rfl)
      | cons d before => exact ⟨before, after, (List.cons.inj h).2, hafter⟩

/-- Blanks bring no sign. -/
theorem signBehind_append_gap (sign : Option CommentSign) {gap : List Char}
    (h : ∀ c ∈ gap, isGap c = true) (cs : List Char) :
    signBehind sign (gap ++ cs) = signBehind sign cs := by
  induction gap with
  | nil => rfl
  | cons c gap ih =>
    have hc : isGap c = true := h c (by simp)
    have hhash : c ≠ '#' := by rintro rfl; cases hc
    have hslash : c ≠ '/' := by rintro rfl; cases hc
    rw [List.cons_append, signBehind, ih fun d hd => h d (by simp [hd])]
    · exact hhash
    · exact fun _ h => absurd h hslash

theorem signBehind_append_space (sign : Option CommentSign) (cs : List Char) :
    signBehind sign (cs ++ [' ']) = signBehind sign cs := by
  fun_induction signBehind sign cs with
  | case1 => rfl
  | case2 _ cs ih => exact ih
  | case3 _ cs ih => exact ih
  | case4 sign c cs hhash hslashes ih =>
    rw [List.cons_append, signBehind, ih]
    · exact hhash
    · rintro ds rfl hds
      cases cs with
      | nil => cases hds
      | cons d cs => exact hslashes cs rfl (congrArg (· :: cs) (List.cons.inj hds).1)

/-! ### The run over prose -/

/-- Text of one line in which no marker starts. -/
structure IsProse (cs : List Char) : Prop where
  notMem_newline : '\n' ∉ cs
  not_start : ∀ before c after, cs = before ++ '+' :: c :: after → isIdentStart c = false

/-- The same by looking at every plus sign. -/
theorem isProse_iff {cs : List Char} : IsProse cs ↔ '\n' ∉ cs ∧
    ∀ t ∈ cs.tails, t.head? = some '+' → t.tail.head?.any isIdentStart = false := by
  refine ⟨fun h => ⟨h.notMem_newline, fun t ht hplus => ?_⟩, fun h => ⟨h.1, ?_⟩⟩
  · obtain ⟨before, rfl⟩ := (List.mem_tails _ _).1 ht
    obtain ⟨t, rfl⟩ := List.head?_eq_some_iff.1 hplus
    rw [Option.any_eq_false]
    intro c hc
    obtain ⟨after, rfl⟩ := List.head?_eq_some_iff.1 hc
    exact h.not_start before c after rfl
  · rintro before c after rfl
    exact h.2 ('+' :: c :: after) ((List.mem_tails _ _).2 (List.suffix_append _ _)) rfl

instance : DecidablePred IsProse := fun _ => decidable_of_iff _ isProse_iff.symm

theorem IsProse.of_suffix {cs t : List Char} (h : IsProse cs) (ht : t <:+ cs) : IsProse t := by
  obtain ⟨lead, rfl⟩ := ht
  refine ⟨fun hmem => h.notMem_newline (by simp [hmem]), fun before c after he => ?_⟩
  exact h.not_start (lead ++ before) c after (by simp [he])

theorem isProse_append_space {cs : List Char} (h : IsProse cs) : IsProse (cs ++ [' ']) := by
  refine ⟨by simpa using h.notMem_newline, fun before c after he => ?_⟩
  rcases List.eq_nil_or_concat after with rfl | ⟨after, d, rfl⟩
  · have hlast := congrArg List.getLast? he
    obtain rfl : ' ' = c := by simpa using hlast
    rfl
  · have hfront : cs ++ [' '] = (before ++ '+' :: c :: after) ++ [d] := by simp [he]
    exact h.not_start before c after (List.append_inj_left' hfront rfl)

namespace Reading

variable {r : Reading} {prose t : List Char} {c : Char}

@[simp] theorem skip_comment (r : Reading) (read rest : List Char) :
    (r.skip read rest).comment = r.comment := rfl

@[simp] theorem skip_last (r : Reading) (read rest : List Char) :
    (r.skip read rest).last = r.last := rfl

/-- Prose is left in front of a marker. -/
def Nears (r : Reading) (prose t : List Char) : Prop :=
  r.mode = .text ∧ r.rest = prose ++ '+' :: t

/-- A marker has begun, and its text is left. -/
def Begins (r : Reading) (t : List Char) : Prop := r.mode = .header false ∧ r.rest = t

/-- No lexeme is a string. -/
def NoStrings (es : List Lexeme) : Prop := ∀ l ∈ es, l.kind ≠ .stringLiteral

theorem filter_eq_nil {es : List Lexeme} (h : NoStrings es) :
    es.filter (·.kind == .stringLiteral) = [] :=
  List.filter_eq_nil_iff.2 fun l hl => by simpa using h l hl

/-- The lexer comes from one state to another without a string. -/
def Quietly (r n : Reading) : Prop :=
  ∃ es : List Lexeme, r.toEnd = es ++ n.toEnd ∧ NoStrings es

theorem quietly_of_step {r n : Reading} {es : List Lexeme} (h : r.step = .go es n)
    (hes : NoStrings es) : r.Quietly n := ⟨es, toEnd_of_go h, hes⟩

theorem Quietly.trans {r n m : Reading} (h : r.Quietly n) (h' : n.Quietly m) : r.Quietly m := by
  obtain ⟨es, hr, hes⟩ := h
  obtain ⟨es', hn, hes'⟩ := h'
  refine ⟨es ++ es', by rw [hr, hn, List.append_assoc], fun l hl => ?_⟩
  exact (List.mem_append.1 hl).elim (hes l) (hes' l)

/-- A plus sign of the prose starts no marker. -/
theorem isIdentStart_behind_plus {rest : List Char} {e : Char} {ds : List Char}
    (hprose : IsProse prose) (hrest : '+' :: rest <:+ prose)
    (he : rest ++ '+' :: t = e :: ds) : isIdentStart e = false := by
  cases rest with
  | nil => rw [← (List.cons.inj he).1]; rfl
  | cons b rest =>
    obtain ⟨lead, hlead⟩ := hrest
    exact (List.cons.inj he).1 ▸ hprose.not_start lead b rest hlead.symm

/-- A comment sign is read with the blanks behind it. The marker begins if nothing else stands in
front of it. -/
theorem readComment_prose (hm : r.mode = .text) (hprose : IsProse prose) (hc : isIdentStart c = true)
    (sign : CommentSign) :
    ∃ (es : List Lexeme) (n : Reading) (gap rest : List Char),
      r.readComment sign (prose ++ '+' :: c :: t) = .go es n ∧ NoStrings es ∧
      prose = gap ++ rest ∧ (∀ d ∈ gap, isGap d = true) ∧ n.comment = some sign ∧
      (n.Nears rest (c :: t) ∨ rest = [] ∧ n.Begins (c :: t)) := by
  have hgap : ∀ d ∈ prose.takeWhile isGap, isGap d = true := List.all_eq_true.1 List.all_takeWhile
  have hsplit : prose = prose.takeWhile isGap ++ prose.dropWhile isGap :=
    List.takeWhile_append_dropWhile.symm
  cases hrest : prose.dropWhile isGap with
  | nil =>
    rw [hrest, List.append_nil] at hsplit
    rw [← hsplit] at hgap
    have hspan := span_append (t := '+' :: c :: t) hgap (by simp; decide)
    have hread : r.readComment sign (prose ++ '+' :: c :: t) =
        beginMarker { r.skip (sign.chars ++ prose) ('+' :: c :: t) with comment := some sign }
          [⟨.comment, sign.text, r.point⟩] (c :: t) := by
      rw [readComment, hspan.1, hspan.2]
      simp [hc]
    refine ⟨_, _, prose, [], hread, ?_, by simp, hgap, rfl, .inr ⟨rfl, rfl, rfl⟩⟩
    simp [NoStrings]
  | cons d rest =>
    have hd : isGap d = false := by
      have hhead := List.head?_dropWhile_not isGap prose
      rw [hrest] at hhead
      simpa using hhead
    have htext : prose ++ '+' :: c :: t =
        prose.takeWhile isGap ++ d :: (rest ++ '+' :: c :: t) := by
      conv_lhs => rw [hsplit, hrest]
      simp
    have hspan := span_append (t := d :: (rest ++ '+' :: c :: t)) hgap (by simpa using hd)
    refine ⟨[], { r.skip (sign.chars ++ prose.takeWhile isGap) (d :: rest ++ '+' :: c :: t) with
      comment := some sign }, _, _, ?_, by simp [NoStrings], hrest ▸ hsplit, hgap, rfl,
      .inl ⟨hm, rfl⟩⟩
    rw [readComment, htext, hspan.1, hspan.2]
    dsimp only
    split
    · next e ds he =>
      obtain ⟨rfl, hds⟩ := List.cons.inj he
      have hsuffix : '+' :: rest <:+ prose := hrest ▸ List.dropWhile_suffix _
      simp [isIdentStart_behind_plus hprose hsuffix hds]
    · rfl

/-- The outcome of a step over prose: no strings, less prose, and the same sign at its end. -/
def Advances (r : Reading) (prose t : List Char) (o : Outcome) : Prop :=
  ∃ (es : List Lexeme) (n : Reading) (rest : List Char),
    o = .go es n ∧ NoStrings es ∧ rest <:+ prose ∧
    signBehind n.comment rest = signBehind r.comment prose ∧
    (n.Nears rest t ∨ rest = [] ∧ n.Begins t)

theorem advances_readComment (hm : r.mode = .text) (hprose : IsProse prose)
    (hc : isIdentStart c = true) (sign : CommentSign) {tail : List Char} (htail : tail <:+ prose)
    (hsign : signBehind r.comment prose = signBehind (some sign) tail) :
    Advances r prose (c :: t) (r.readComment sign (tail ++ '+' :: c :: t)) := by
  obtain ⟨es, n, gap, rest, hgo, hes, hgaps, hgap, hn, hnear⟩ :=
    readComment_prose (t := t) hm (hprose.of_suffix htail) hc sign
  refine ⟨es, n, rest, hgo, hes, .trans ⟨gap, hgaps.symm⟩ htail, ?_, hnear⟩
  rw [hn, hsign, hgaps, signBehind_append_gap _ hgap]

/-- One step over prose. -/
theorem advances_step (h : r.Nears prose (c :: t)) (hprose : IsProse prose)
    (hc : isIdentStart c = true) : Advances r prose (c :: t) r.step := by
  obtain ⟨hm, hr⟩ := h
  have hskip {d : Char} {tail : List Char} (htail : d :: tail = prose)
      (hsign : signBehind r.comment prose = signBehind r.comment tail) :
      Advances r prose (c :: t) (.go [] (r.skip [d] (tail ++ '+' :: c :: t))) :=
    ⟨[], _, tail, rfl, by simp [NoStrings], htail ▸ List.suffix_cons _ _, hsign.symm,
      .inl ⟨hm, rfl⟩⟩
  have hstep : r.step = r.readText := by rw [step, hm]
  rw [hstep]
  unfold readText
  split
  · next hnil => simp [hr] at hnil
  · next cs hline =>
    cases prose with
    | nil => simp [hr] at hline
    | cons d tail =>
      obtain rfl : d = '\n' := (List.cons.inj (hr.symm.trans hline)).1
      exact absurd List.mem_cons_self hprose.notMem_newline
  · next cs hhash =>
    cases prose with
    | nil => simp [hr] at hhash
    | cons d tail =>
      obtain ⟨rfl, rfl⟩ := List.cons.inj (hr.symm.trans hhash)
      exact advances_readComment hm hprose hc .hash (List.suffix_cons _ _) rfl
  · next cs hslashes =>
    cases prose with
    | nil => simp [hr] at hslashes
    | cons d tail =>
      obtain ⟨rfl, htail⟩ := List.cons.inj (hr.symm.trans hslashes)
      cases tail with
      | nil => cases htail
      | cons e tail =>
        obtain ⟨rfl, rfl⟩ := List.cons.inj htail
        exact advances_readComment hm hprose hc .slashes
          ((List.suffix_cons _ _).trans (List.suffix_cons _ _)) rfl
  · next e cs hplus =>
    cases prose with
    | nil =>
      obtain ⟨rfl, rfl⟩ : c = e ∧ t = cs := by simpa [hr] using hplus
      rw [if_pos hc]
      exact ⟨_, _, [], rfl, by simp [NoStrings], List.suffix_rfl, rfl, .inr ⟨rfl, rfl, rfl⟩⟩
    | cons d tail =>
      obtain ⟨rfl, htail⟩ := List.cons.inj (hr.symm.trans hplus)
      have he : isIdentStart e = false := isIdentStart_behind_plus hprose List.suffix_rfl htail
      rw [he, if_neg (by decide), ← htail]
      exact hskip rfl (by rw [signBehind] <;> simp)
  · next d cs hnewline hhash hslashes hplus hother =>
    cases prose with
    | nil =>
      obtain ⟨rfl, rfl⟩ := List.cons.inj (hr.symm.trans hother)
      exact (hplus c t rfl rfl).elim
    | cons e tail =>
      obtain ⟨rfl, rfl⟩ := List.cons.inj (hr.symm.trans hother)
      refine hskip rfl ?_
      rw [signBehind]
      · exact hhash
      · rintro ds rfl rfl
        exact hslashes (ds ++ '+' :: c :: t) rfl rfl

/-- The lexer reads prose up to the marker behind it. It emits no string on the way, and the sign in
force at the marker is the last one of the prose. -/
theorem exists_begins (h : r.Nears prose (c :: t)) (hprose : IsProse prose)
    (hc : isIdentStart c = true) :
    ∃ n : Reading, r.Quietly n ∧ n.Begins (c :: t) ∧ n.comment = signBehind r.comment prose := by
  induction r using stepInduction generalizing prose with
  | halt r e hhalt =>
    obtain ⟨es, n, rest, hgo, -⟩ := advances_step h hprose hc
    rw [hhalt] at hgo
    cases hgo
  | go r e n hstep ih =>
    obtain ⟨es, n', rest, hgo, hes, hrest, hsign, hnear⟩ := advances_step h hprose hc
    rw [hstep] at hgo
    cases hgo
    have hquiet : r.Quietly n := quietly_of_step hstep hes
    rcases hnear with hnear | ⟨rfl, hbegins⟩
    · obtain ⟨n', hquiet', hbegins, hn⟩ := ih hnear (hprose.of_suffix hrest)
      exact ⟨n', hquiet.trans hquiet', hbegins, hn.trans hsign⟩
    · exact ⟨n, hquiet, hbegins, hsign⟩

/-! ### The string -/

theorem scanToBacktick_of_notMem {cs : List Char} (h : '`' ∉ cs) (t : List Char) :
    scanToBacktick (cs ++ '`' :: t) = .ok ⟨cs, cs ++ ['`'], t⟩ := by
  induction cs with
  | nil => simp [scanToBacktick]
  | cons c cs ih =>
    have hc : c ≠ '`' := fun hc => h (by simp [hc])
    have hcs : '`' ∉ cs := fun hmem => h (by simp [hmem])
    simp [scanToBacktick, hc, ih hcs, Except.map]

/-- The path and the name of the argument of `+a:b=` hold no string and change no sign. -/
theorem exists_value {n : Reading} (hn : n.Begins ("a:b=".toList ++ t)) :
    ∃ m : Reading, n.Quietly m ∧ m.mode = .value ∧ m.rest = t ∧ m.comment = n.comment := by
  obtain ⟨hm, hr⟩ := hn
  let scope := (n.skip ['a'] (":b=".toList ++ t)).skip [':'] ("b=".toList ++ t)
  have hscope : n.step = .go [⟨.scope, "a", n.point⟩, ⟨.separator, ":", n.point.after ['a']⟩]
      { scope with mode := .header true, last := ":" } := by
    simp [step, hm, readHeader, hr, scope, show isIdentStart 'a' = true from rfl,
      show isIdentChar ':' = false from rfl]
  let name := scope.skip ['b'] ('=' :: t)
  have hname : step { scope with mode := .header true, last := ":" } =
      .go [⟨.arg, "b", scope.point⟩] { name with mode := .afterArg, last := "b" } := by
    simp [step, readHeader, scope, name, show isIdentStart 'b' = true from rfl,
      show isIdentChar '=' = false from rfl, emit]
  have hassign : step { name with mode := .afterArg, last := "b" } =
      .go [] { name.skip ['='] t with mode := .value, last := "b" } := by
    simp [step, readAfterArg, name]
  refine ⟨_, ((quietly_of_step hscope ?_).trans (quietly_of_step hname ?_)).trans
    (quietly_of_step hassign ?_), rfl, rfl, rfl⟩ <;> simp [NoStrings]

/-- A value in backticks, which ends the text, is the only string that is left. -/
theorem exists_toEnd_backtick {text : List Char} {sign : CommentSign} (hm : r.mode = .value)
    (hr : r.rest = '`' :: (text ++ ['`'])) (hsign : r.comment = some sign) (htext : '`' ∉ text) :
    ∃ es : List Lexeme, NoStrings es ∧
      r.toEnd = ⟨.stringLiteral, String.ofList (stripComment sign text), r.point⟩ :: es := by
  have hscan : scanQuoted r.comment '`' (text ++ ['`']) =
      .ok ⟨stripComment sign text, text ++ ['`'], []⟩ := by
    simp [scanQuoted, scanBacktick, scanToBacktick_of_notMem htext, hsign, Except.map]
  have hstep : r.step = ((r.skip ['`'] (text ++ ['`'])).skip (text ++ ['`']) []).emit
      ⟨.stringLiteral, String.ofList (stripComment sign text), r.point⟩ .afterValue := by
    simp [step, hm, readValue, hr, show isQuote '`' = true from rfl, readQuoted, hscan]
  refine ⟨_, ?_, by rw [toEnd_of_go hstep, toEnd_finish rfl rfl]; rfl⟩
  simp [NoStrings]

end Reading

/-! ### Continued lines -/

/-- A line that continues a comment: its indentation and its content, with the decoration between
them. -/
def continuedLine (line : String × String) : String := line.1 ++ "# " ++ line.2

/-- A comment with a marker behind some prose. The value of the marker has further lines. -/
def continuedMarker (prose first : String) (more : List (String × String)) : String :=
  "# " ++ prose ++ " +a:b=`" ++ Text.joinStrings "\n" (first :: more.map continuedLine) ++ "`"

/-- Text of one line without backticks. -/
def IsPlainLine (s : String) : Prop := ∀ c ∈ s.toList, c ≠ '\n' ∧ c ≠ '`'

instance : DecidablePred IsPlainLine := fun s =>
  List.decidableBAll (fun c => c ≠ '\n' ∧ c ≠ '`') s.toList

/-- The parts of a line of a comment: blanks as its indentation, and its content. -/
structure IsContinuation (line : String × String) : Prop where
  blank : ∀ c ∈ line.1.toList, Text.isBlank c = true ∧ c ≠ '\n'
  content : IsPlainLine line.2

instance : DecidablePred IsContinuation := fun line =>
  have := List.decidableBAll (fun c => Text.isBlank c = true ∧ c ≠ '\n') line.1.toList
  decidable_of_iff ((∀ c ∈ line.1.toList, Text.isBlank c = true ∧ c ≠ '\n') ∧ IsPlainLine line.2)
    ⟨fun h => ⟨h.1, h.2⟩, fun h => ⟨h.blank, h.content⟩⟩

theorem newline_notMem_of_isPlainLine {s : String} (h : IsPlainLine s) : '\n' ∉ s.toList :=
  fun hmem => (h _ hmem).1 rfl

theorem notMem_continuedLine {line : String × String} (h : IsContinuation line) :
    '\n' ∉ (continuedLine line).toList ∧ '`' ∉ (continuedLine line).toList := by
  have hblank {c : Char} (hc : Text.isBlank c = false ∨ c = '\n') : c ∉ line.1.toList := by
    intro hmem
    rcases hc with hc | rfl
    · rw [(h.blank c hmem).1] at hc; cases hc
    · exact (h.blank _ hmem).2 rfl
  have hfeed : '\n' ∉ line.2.toList := newline_notMem_of_isPlainLine h.content
  have htick : '`' ∉ line.2.toList := fun hmem => (h.content _ hmem).2 rfl
  simp [continuedLine, hblank (.inr rfl), hblank (c := '`') (.inl (by decide)), hfeed, htick]

/-- What is left of a continued line where `sign` is in force. -/
def keptLine (sign : Option CommentSign) (line : String × String) : String :=
  if sign = some .hash then line.2 else continuedLine line

theorem stripCommentSign_continued {line : String × String} (h : IsContinuation line)
    (sign : CommentSign) :
    stripCommentSign sign (continuedLine line).toList = (keptLine (some sign) line).toList := by
  have htrim : Text.trimStart (continuedLine line).toList = '#' :: ' ' :: line.2.toList := by
    have hspan := span_append (t := '#' :: ' ' :: line.2.toList)
      (fun c hc => (h.blank c hc).1) (by simp; decide)
    simpa [Text.trimStart, continuedLine] using hspan.2
  cases sign with
  | hash => simp [stripCommentSign, htrim, CommentSign.chars, Text.after?, keptLine]
  | slashes => simp [stripCommentSign, htrim, CommentSign.chars, Text.after?, keptLine]

/-- Lines without line feeds are told apart in their joined text. -/
theorem joinStrings_newline_inj {first : String} {lines lines' : List String}
    (hfirst : '\n' ∉ first.toList) (h : ∀ l ∈ lines, '\n' ∉ l.toList)
    (h' : ∀ l ∈ lines', '\n' ∉ l.toList) :
    Text.joinStrings "\n" (first :: lines) = Text.joinStrings "\n" (first :: lines') ↔
      lines = lines' := by
  refine ⟨fun heq => ?_, fun heq => by rw [heq]⟩
  have hsplit {ls : List String} (hls : ∀ l ∈ ls, '\n' ∉ l.toList) :
      Text.lines (Text.joinStrings "\n" (first :: ls)).toList =
        (first :: ls).map String.toList := by
    rw [Text.joinStrings, String.toList_ofList]
    refine Text.lines_joinWith (by simp) fun part hpart => ?_
    obtain ⟨l, hl, rfl⟩ := List.mem_map.1 hpart
    rcases List.mem_cons.1 hl with rfl | hl
    · exact hfirst
    · exact hls l hl
  have hlists := (hsplit h).symm.trans ((congrArg (fun s => Text.lines s.toList) heq).trans
    (hsplit h'))
  have hinj : Function.Injective String.toList := fun a b hab => String.toList_inj.1 hab
  exact (List.cons.inj (hinj.list_map hlists)).2

theorem continuedLine_ne (line : String × String) : continuedLine line ≠ line.2 := by
  intro h
  have hlength := congrArg String.length h
  simp [continuedLine] at hlength

/-- The lines are left undecorated exactly if there are none, or the hash is in force. -/
theorem map_keptLine_eq_iff {sign : Option CommentSign} {more : List (String × String)} :
    more.map (keptLine sign) = more.map Prod.snd ↔ more = [] ∨ sign = some .hash := by
  cases more with
  | nil => simp
  | cons line more =>
    by_cases hsign : sign = some .hash
    · simp [keptLine, hsign]
    · simp [keptLine, hsign, continuedLine_ne]

/-! ### All strings of a text -/

/-- The strings of a text. -/
def strings (text : String) : List String :=
  ((lex text).filter (·.kind == .stringLiteral)).map Lexeme.value

variable {prose first : String} {more : List (String × String)}

/-- The text in backticks loses what its lines lose. -/
theorem stripComment_continued (hfirst : IsPlainLine first)
    (hmore : ∀ line ∈ more, IsContinuation line) (sign : CommentSign) :
    String.ofList (stripComment sign
      (Text.joinStrings "\n" (first :: more.map continuedLine)).toList) =
      Text.joinStrings "\n" (first :: more.map (keptLine (some sign))) := by
  have hlines : Text.lines (Text.joinStrings "\n" (first :: more.map continuedLine)).toList =
      first.toList :: more.map fun line => (continuedLine line).toList := by
    rw [Text.joinStrings, String.toList_ofList]
    simp only [List.map_cons, List.map_map]
    refine Text.lines_joinWith (by simp) fun part hpart => ?_
    rcases List.mem_cons.1 hpart with rfl | hpart
    · exact newline_notMem_of_isPlainLine hfirst
    · obtain ⟨line, hline, rfl⟩ := List.mem_map.1 hpart
      exact (notMem_continuedLine (hmore line hline)).1
  have hstrip : more.map (fun line => stripCommentSign sign (continuedLine line).toList) =
      more.map fun line => (keptLine (some sign) line).toList :=
    List.map_congr_left fun line hline => stripCommentSign_continued (hmore line hline) sign
  rw [stripComment, hlines]
  simp [Text.joinStrings, Function.comp_def, hstrip]

theorem backtick_notMem_joinStrings (hfirst : IsPlainLine first)
    (hmore : ∀ line ∈ more, IsContinuation line) :
    '`' ∉ (Text.joinStrings "\n" (first :: more.map continuedLine)).toList := by
  rw [Text.joinStrings, String.toList_ofList, Text.mem_joinWith (by decide)]
  rintro ⟨part, hpart, hmem⟩
  obtain ⟨l, hl, rfl⟩ := List.mem_map.1 hpart
  rcases List.mem_cons.1 hl with rfl | hl
  · exact (hfirst _ hmem).2 rfl
  · obtain ⟨line, hline, rfl⟩ := List.mem_map.1 hl
    exact (notMem_continuedLine (hmore line hline)).2 hmem

/-- Every pair of slashes has a hash behind it exactly if the hash is in force. -/
theorem signBehind_hash_eq_hash_iff {cs : List Char} : signBehind (some .hash) cs = some .hash ↔
    ∀ before after, cs = before ++ '/' :: '/' :: after → '#' ∈ after := by
  have hslashes := @signBehind_eq_slashes_iff (some .hash) cs
  have hsome := @isSome_signBehind (some .hash) rfl cs
  constructor
  · intro h before after hcs
    by_contra hafter
    rw [h] at hslashes
    cases hslashes.2 (.inr ⟨before, after, hcs, hafter⟩)
  · intro h
    cases hsign : signBehind (some .hash) cs with
    | none => rw [hsign] at hsome; cases hsome
    | some sign =>
      cases sign with
      | hash => rfl
      | slashes =>
        rcases hslashes.1 hsign with ⟨hfalse, -⟩ | ⟨before, after, hcs, hafter⟩
        · cases hfalse
        · exact absurd (h before after hcs) hafter

theorem strings_continuedMarker (hprose : IsProse prose.toList) (hfirst : IsPlainLine first)
    (hmore : ∀ line ∈ more, IsContinuation line) :
    strings (continuedMarker prose first more) = [Text.joinStrings "\n"
      (first :: more.map (keptLine (signBehind (some .hash) prose.toList)))] := by
  let text := (Text.joinStrings "\n" (first :: more.map continuedLine)).toList
  have hlead : IsProse ('#' :: ' ' :: prose.toList ++ [' ']) := by
    refine isProse_append_space ⟨by simpa using hprose.notMem_newline, fun before c after he => ?_⟩
    match before, he with
    | [], he => cases he
    | [_], he => cases he
    | _ :: _ :: before, he =>
      exact hprose.not_start before c after (List.cons.inj (List.cons.inj he).2).2
  have hnear : (Reading.start (continuedMarker prose first more).toList).Nears
      ('#' :: ' ' :: prose.toList ++ [' ']) ('a' :: (":b=".toList ++ '`' :: (text ++ ['`']))) := by
    refine ⟨rfl, ?_⟩
    simp [Reading.start, continuedMarker, text]
  obtain ⟨n, hn, hbegins, hsign⟩ := Reading.exists_begins hnear hlead (by decide)
  obtain ⟨m, hm, hmode, hrest, hcomment⟩ := Reading.exists_value hbegins
  have hbehind : m.comment = signBehind (some .hash) prose.toList := by
    rw [hcomment, hsign, ← signBehind_append_space (some .hash) prose.toList]
    rfl
  obtain ⟨sign, hsome⟩ := Option.isSome_iff_exists.1
    (@isSome_signBehind (some .hash) rfl prose.toList)
  obtain ⟨es', hes', hstring⟩ := Reading.exists_toEnd_backtick hmode hrest (hbehind.trans hsome)
    (backtick_notMem_joinStrings hfirst hmore)
  obtain ⟨es, htoEnd, hes⟩ := hn.trans hm
  have hlex : lex (continuedMarker prose first more) =
      es ++ ⟨.stringLiteral, String.ofList (stripComment sign text), m.point⟩ :: es' := by
    rw [lex, lexChars_eq_toEnd, htoEnd, hstring]
  rw [strings, hlex, hsome, List.filter_append, List.filter_cons, Reading.filter_eq_nil hes,
    Reading.filter_eq_nil hes', ← stripComment_continued hfirst hmore]
  rfl

/-- A marker behind prose in a comment has one string, over all its lines. Its further lines lose
exactly their decoration if every pair of slashes in the prose has a hash behind it; otherwise they
keep all of it. -/
theorem strings_lex_continued (hprose : IsProse prose.toList) (hfirst : IsPlainLine first)
    (hmore : ∀ line ∈ more, IsContinuation line) :
    strings (continuedMarker prose first more) = [Text.joinStrings "\n"
        (first :: more.map (keptLine (signBehind (some .hash) prose.toList)))] ∧
      (strings (continuedMarker prose first more) =
          [Text.joinStrings "\n" (first :: more.map Prod.snd)] ↔
        more = [] ∨ ∀ before after, prose.toList = before ++ '/' :: '/' :: after → '#' ∈ after) := by
  have hstrings := strings_continuedMarker hprose hfirst hmore
  refine ⟨hstrings, ?_⟩
  have hkept : ∀ l ∈ more.map (keptLine (signBehind (some .hash) prose.toList)),
      '\n' ∉ l.toList := by
    intro l hl
    obtain ⟨line, hline, rfl⟩ := List.mem_map.1 hl
    unfold keptLine
    split
    · exact newline_notMem_of_isPlainLine (hmore line hline).content
    · exact (notMem_continuedLine (hmore line hline)).1
  have hcontent : ∀ l ∈ more.map Prod.snd, '\n' ∉ l.toList := by
    intro l hl
    obtain ⟨line, hline, rfl⟩ := List.mem_map.1 hl
    exact newline_notMem_of_isPlainLine (hmore line hline).content
  rw [hstrings, List.singleton_inj,
    joinStrings_newline_inj (newline_notMem_of_isPlainLine hfirst) hkept hcontent,
    map_keptLine_eq_iff, signBehind_hash_eq_hash_iff]

/-- A link in front of a ticket number does no harm, and a content may itself begin with a hash. -/
theorem strings_lex_continued_ticket :
    IsProse "see http://x.org, ticket #7".toList ∧ IsPlainLine "l1" ∧
    (∀ line ∈ [("\t", "l2"), ("", " # l3")], IsContinuation line) ∧
    strings "# see http://x.org, ticket #7 +a:b=`l1\n\t# l2\n#  # l3`" = ["l1\nl2\n # l3"] := by
  have hprose : IsProse "see http://x.org, ticket #7".toList := by decide
  have hfirst : IsPlainLine "l1" := by decide
  have hmore : ∀ line ∈ [("\t", "l2"), ("", " # l3")], IsContinuation line := by
    decide
  refine ⟨hprose, hfirst, hmore, ?_⟩
  exact (strings_lex_continued hprose hfirst hmore).2.2
    (.inr (signBehind_hash_eq_hash_iff.1 (by decide)))

/-- Behind a link the further lines keep their decoration. -/
theorem strings_lex_continued_link :
    ¬ ∀ (prose first : String) (more : List (String × String)), IsProse prose.toList →
      IsPlainLine first → (∀ line ∈ more, IsContinuation line) →
      strings (continuedMarker prose first more) =
        [Text.joinStrings "\n" (first :: more.map Prod.snd)] := by
  intro h
  have hread := h "see http://x" "l1" [("", "l2")] (by decide) (by decide)
    (by decide)
  have hlink : strings "# see http://x +a:b=`l1\n# l2`" = ["l1\n# l2"] := by decide
  exact absurd (hlink.symm.trans hread) (by decide)

end ManifestMarkers.Lexeme
