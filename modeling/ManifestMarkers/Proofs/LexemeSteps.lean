import ManifestMarkers.Lexeme.Progress

/-!
# What a step of the lexer does

Everything that later modules need to know about one step of the lexer, once for all modes:

* `Move` lists the changes of mode with the kinds of the lexemes that are emitted on the way;
* `Reading.Steps` adds where the lexemes stand: the characters read are the first ones that were
  left, and every lexeme is spelled by the text at its place (`Spelled`);
* `Reading.steps_of_step` and `Reading.eof_or_error_of_halt` say that the lexer does nothing else.

`Reading.stepInduction` is induction along a run, and `Reading.toEnd_moves` the shape of every run.
-/

namespace ManifestMarkers.Lexeme

/-! ### Moves -/

/-- The changes of mode, with the kinds of the lexemes emitted on the way. -/
inductive Move : Mode → List Kind → Mode → Prop
  | skip : Move .text [] .text
  | start : Move .text [.markerStart] (.header false)
  | startInComment : Move .text [.comment, .markerStart] (.header false)
  | scope (hasScope : Bool) : Move (.header hasScope) [.scope, .separator] (.header true)
  | warning : Move (.header false) [.warning] .text
  | firstArg : Move (.header true) [.arg] .afterArg
  | assign : Move .afterArg [] .value
  | flag : Move .afterArg [.boolLiteral] .afterValue
  | scalar {k : Kind} (hk : k.isScalar) : Move .value [k] .afterValue
  | openSlice : Move .value [.sliceBegin] (.slice .first)
  | item {k : Kind} {turn : SliceTurn} (hk : k.isScalar) (ht : turn ≠ .delimiter) :
      Move (.slice turn) [k] (.slice .delimiter)
  | delimiter : Move (.slice .delimiter) [.sliceDelimiter] (.slice .element)
  | closeSlice {turn : SliceTurn} (ht : turn ≠ .element) :
      Move (.slice turn) [.sliceEnd] .afterValue
  | nextArg : Move .afterValue [.arg] .afterArg
  | finish : Move .afterValue [.markerEnd] .text

/-- Moves one after the other. -/
inductive Moves : Mode → List Kind → Mode → Prop
  | nil (m : Mode) : Moves m [] m
  | cons {m m' m'' : Mode} {e ks : List Kind} (h : Move m e m') (hs : Moves m' ks m'') :
      Moves m (e ++ ks) m''

/-- Whether a marker has been recognised: one segment of its path has been read. -/
def Mode.isRecognised : Mode → Prop
  | .text | .header false => False
  | _ => True

theorem not_isTerminal_of_move {m m' : Mode} {e : List Kind} (h : Move m e m') :
    ∀ k ∈ e, k.isTerminal = false := by
  cases h with
  | scalar hk | item hk =>
    intro k hmem
    obtain rfl := List.mem_singleton.1 hmem
    revert hk
    cases k <;> decide
  | _ => decide

theorem not_isTerminal_of_moves {m m' : Mode} {ks : List Kind} (h : Moves m ks m') :
    ∀ k ∈ ks, k.isTerminal = false := by
  induction h with
  | nil m => simp
  | cons h hs ih =>
    intro k hk
    rcases List.mem_append.1 hk with hk | hk
    · exact not_isTerminal_of_move h k hk
    · exact ih k hk

/-! ### Spelling -/

/-- Characters with escapes that hold neither a line feed nor a double quote of their own. -/
inductive EscapedText : List Char → Prop
  | nil : EscapedText []
  | char {c : Char} {cs : List Char} (h : c ≠ '\\' ∧ c ≠ '"' ∧ c ≠ '\n') (hcs : EscapedText cs) :
      EscapedText (c :: cs)
  | escape {c : Char} {cs : List Char} (h : c ≠ '\n') (hcs : EscapedText cs) :
      EscapedText ('\\' :: c :: cs)

/-- A complete string with its opening and its closing quote. -/
inductive ClosedString : List Char → Prop
  | single {cs : List Char} (h : '\'' ∉ cs ∧ '\n' ∉ cs) : ClosedString ('\'' :: (cs ++ ['\'']))
  | double {cs : List Char} (h : EscapedText cs) : ClosedString ('"' :: (cs ++ ['"']))
  | backtick {cs : List Char} (h : '`' ∉ cs) : ClosedString ('`' :: (cs ++ ['`']))

/-- Whether the text `cs` starts with the lexeme as it is written. -/
def Spelled (l : Lexeme) (cs : List Char) : Prop :=
  match l.kind with
  | .stringLiteral =>
    (∃ source, ClosedString source ∧ source <+: cs) ∨
      (l.value.toList <+: cs ∧ ∀ c ∈ cs.head?, isQuote c = false)
  | .boolLiteral => l.value = "true" ∨ l.value.toList <+: cs
  | .markerEnd | .warning | .error | .eof => True
  | _ => l.value.toList <+: cs

namespace Reading

/-- The lexeme stands in what is left to read, at the place it names. -/
def Holds (r : Reading) (l : Lexeme) : Prop :=
  ∃ before rest, r.rest = before ++ rest ∧ l.position = r.point.after before ∧ Spelled l rest

/-- A step from `r` to `n` that emits `e`. -/
structure Steps (r : Reading) (e : List Lexeme) (n : Reading) : Prop where
  move : Move r.mode (e.map Lexeme.kind) n.mode
  read : ∃ read, r.rest = read ++ n.rest ∧ n.point = r.point.after read
  holds : ∀ l ∈ e, r.Holds l
  /-- A marker begins only where an identifier follows. -/
  ident : n.mode = .header false → ∃ c cs, n.rest = c :: cs ∧ isIdentStart c = true

end Reading

/-! ### Quoted strings are closed -/

theorem exists_ok_of_map_ok {ε α β : Type} {x : Except ε α} {f : α → β} {b : β}
    (h : x.map f = .ok b) : ∃ a, x = .ok a ∧ f a = b := by
  cases x with
  | error e => cases h
  | ok a => exact ⟨a, rfl, by simpa [Except.map] using h⟩

theorem scanSingle_closed {cs : List Char} {q : QuotedText} (h : scanSingle cs = .ok q) :
    ∃ inner, q.source = inner ++ ['\''] ∧ '\'' ∉ inner ∧ '\n' ∉ inner := by
  induction cs generalizing q with
  | nil => cases h
  | cons c cs ih =>
    unfold scanSingle at h
    split at h
    · next hc =>
      cases h
      exact ⟨[], by simp [hc], by simp, by simp⟩
    · next hc =>
      split at h
      · cases h
      · next hn =>
        obtain ⟨p, hp, rfl⟩ := exists_ok_of_map_ok h
        obtain ⟨inner, hi, h1, h2⟩ := ih hp
        exact ⟨c :: inner, by simp [hi], by simp [h1, Ne.symm hc], by simp [h2, Ne.symm hn]⟩

/-- After a backslash one more character is taken, whatever it is. -/
theorem scanDoubleFrom_closed {escaped : Bool} {cs : List Char} {q : QuotedText}
    (h : scanDoubleFrom escaped cs = .ok q) :
    ∃ inner, q.source = inner ++ ['"'] ∧
      if escaped then ∃ c rest, inner = c :: rest ∧ c ≠ '\n' ∧ EscapedText rest
      else EscapedText inner := by
  induction cs generalizing q escaped with
  | nil => cases h
  | cons c cs ih =>
    unfold scanDoubleFrom at h
    split at h
    · cases h
    · next hn =>
      split at h
      · next hc =>
        cases h
        obtain ⟨hc, he⟩ := hc
        simp only [Bool.not_eq_true'] at he
        subst he
        exact ⟨[], by simp [hc], EscapedText.nil⟩
      · next hc =>
        obtain ⟨p, hp, rfl⟩ := exists_ok_of_map_ok h
        obtain ⟨inner, hi, hin⟩ := ih hp
        refine ⟨c :: inner, by simp [hi], ?_⟩
        -- an escaped character is taken whatever it is
        cases escaped with
        | true => exact ⟨c, inner, rfl, hn, by simpa using hin⟩
        | false =>
          by_cases hb : c = '\\'
          · subst hb
            simp only [decide_true, Bool.not_false, Bool.and_self, if_true] at hin
            obtain ⟨d, rest, rfl, hd, hrest⟩ := hin
            exact .escape hd hrest
          · have hq : c ≠ '"' := fun hq => hc ⟨hq, rfl⟩
            exact .char ⟨hb, hq, hn⟩ (by simpa [hb] using hin)

theorem scanToBacktick_closed {cs : List Char} {q : QuotedText} (h : scanToBacktick cs = .ok q) :
    ∃ inner, q.source = inner ++ ['`'] ∧ '`' ∉ inner := by
  induction cs generalizing q with
  | nil => cases h
  | cons c cs ih =>
    unfold scanToBacktick at h
    split at h
    · next hc =>
      cases h
      exact ⟨[], by simp [hc], by simp⟩
    · next hc =>
      obtain ⟨p, hp, rfl⟩ := exists_ok_of_map_ok h
      obtain ⟨inner, hi, h1⟩ := ih hp
      exact ⟨c :: inner, by simp [hi], by simp [h1, Ne.symm hc]⟩

/-- Every string that is read has its closing quote. -/
theorem closedString_of_scanQuoted {comment : Option CommentSign} {quote : Char} {cs : List Char}
    {q : QuotedText} (hquote : isQuote quote = true) (h : scanQuoted comment quote cs = .ok q) :
    ClosedString (quote :: q.source) := by
  unfold scanQuoted at h
  split at h
  · next hc =>
    obtain ⟨p, hp, hq⟩ := exists_ok_of_map_ok h
    have hsource : q.source = p.source := by rw [← hq]; cases comment <;> rfl
    obtain ⟨inner, hi, h1⟩ := scanToBacktick_closed hp
    rw [hc, hsource, hi]
    exact .backtick h1
  · split at h
    · next hc =>
      unfold scanDouble at h
      split at h
      · cases h
      · next p hp =>
        split at h
        · cases h
          obtain ⟨inner, hi, h1⟩ := scanDoubleFrom_closed hp
          rw [hc, hi]
          exact .double h1
        · cases h
    · next hb hd =>
      have hc : quote = '\'' := by simpa [isQuote, hb, hd] using hquote
      obtain ⟨inner, hi, h1, h2⟩ := scanSingle_closed h
      rw [hc, hi]
      exact .single ⟨h1, h2⟩

/-! ### One lemma per reader -/

theorem isScalar_bareKind (cs : List Char) : (bareKind cs).isScalar = true := by
  unfold bareKind
  split
  · rfl
  · split <;> rfl

theorem spelled_bare {cs rest : List Char} {p : Point} (h : cs <+: rest)
    (hq : ∀ c ∈ rest.head?, isQuote c = false) :
    Spelled ⟨bareKind cs, String.ofList cs, p⟩ rest := by
  have htext : (String.ofList cs).toList <+: rest := by rwa [String.toList_ofList]
  unfold bareKind
  split
  · exact htext
  · split
    · exact .inr htext
    · exact .inr ⟨htext, hq⟩

namespace Reading

@[simp] theorem skip_rest (r : Reading) (read rest : List Char) : (r.skip read rest).rest = rest :=
  rfl

@[simp] theorem skip_point (r : Reading) (read rest : List Char) :
    (r.skip read rest).point = r.point.after read := rfl

@[simp] theorem skip_mode (r : Reading) (read rest : List Char) :
    (r.skip read rest).mode = r.mode := rfl

@[simp] theorem skip_skip (r : Reading) (a b c d : List Char) :
    (r.skip a b).skip c d = r.skip (a ++ c) d := by
  simp [skip]

theorem holds_of_spelled {r : Reading} {l : Lexeme} (hp : l.position = r.point)
    (hs : Spelled l r.rest) : r.Holds l := ⟨[], r.rest, rfl, hp, hs⟩

theorem steps_emit {r n : Reading} (read : List Char) {rest : List Char} {l : Lexeme} {m : Mode}
    {e : List Lexeme} (hr : r.rest = read ++ rest) (hl : r.Holds l) (hm : Move r.mode [l.kind] m)
    (hi : m ≠ .header false) (h : (r.skip read rest).emit l m = .go e n) : r.Steps e n := by
  cases h
  exact ⟨hm, ⟨read, hr, rfl⟩, by simpa using hl, fun h => absurd h hi⟩

theorem steps_skip {r n : Reading} (read : List Char) {rest : List Char}
    (hr : r.rest = read ++ rest) (hm : Move r.mode [] n.mode) (hi : n.mode ≠ .header false)
    (hrest : n.rest = rest) (hp : n.point = r.point.after read) : r.Steps [] n :=
  ⟨hm, ⟨read, by rw [hrest, hr], hp⟩, by simp, fun h => absurd h hi⟩

theorem steps_readComment {r n : Reading} {sign : CommentSign} {cs : List Char} {e : List Lexeme}
    (hmode : r.mode = .text) (hr : r.rest = sign.chars ++ cs)
    (h : r.readComment sign cs = .go e n) : r.Steps e n := by
  have hsplit : r.rest = sign.chars ++ cs.takeWhile isGap ++ cs.dropWhile isGap := by
    rw [List.append_assoc, List.takeWhile_append_dropWhile, hr]
  have hskip : r.Steps [] { r.skip (sign.chars ++ cs.takeWhile isGap) (cs.dropWhile isGap) with
      comment := some sign } :=
    steps_skip _ hsplit (by simpa [hmode] using Move.skip) (by simp [hmode]) rfl rfl
  unfold readComment at h
  dsimp only at h
  split at h
  · next c ds hd =>
    split at h
    · next hc =>
      cases h
      refine ⟨by simpa [hmode] using Move.startInComment,
        ⟨sign.chars ++ cs.takeWhile isGap ++ ['+'], by simp [hsplit, hd], by simp⟩, ?_,
        fun _ => ⟨c, ds, rfl, hc⟩⟩
      intro l hl
      rcases List.mem_cons.1 hl with rfl | hl
      · exact holds_of_spelled rfl (by simp [Spelled, hr, CommentSign.text])
      · obtain rfl := List.mem_singleton.1 hl
        exact ⟨_, _, hsplit, rfl, by simp [Spelled, hd]⟩
    · cases h; exact hskip
  · cases h; exact hskip

theorem steps_readText {r n : Reading} {e : List Lexeme} (hmode : r.mode = .text)
    (h : r.readText = .go e n) : r.Steps e n := by
  have hskip : Move r.mode [] r.mode := by rw [hmode]; exact .skip
  have hne : r.mode ≠ .header false := by simp [hmode]
  unfold readText at h
  split at h
  · cases h
  · next cs hr => cases h; exact steps_skip ['\n'] hr hskip hne rfl rfl
  · next cs hr => exact steps_readComment hmode hr h
  · next cs hr => exact steps_readComment hmode hr h
  · next c cs hr =>
    split at h
    · next hc =>
      cases h
      refine ⟨by simpa [hmode] using Move.start, ⟨['+'], by simp [hr], rfl⟩, ?_,
        fun _ => ⟨c, cs, rfl, hc⟩⟩
      intro l hl
      obtain rfl := List.mem_singleton.1 hl
      exact holds_of_spelled rfl (by simp [Spelled, hr])
    · cases h; exact steps_skip ['+'] hr hskip hne rfl rfl
  · next c cs _ _ _ _ hr => cases h; exact steps_skip [c] hr hskip hne rfl rfl

theorem steps_readHeader {r n : Reading} {hasScope : Bool} {e : List Lexeme}
    (hmode : r.mode = .header hasScope) (h : r.readHeader hasScope = .go e n) : r.Steps e n := by
  unfold readHeader at h
  split at h
  · cases h
  · next c cs hr =>
    split at h
    · have hsplit : r.rest = (c :: cs.takeWhile isIdentChar) ++ cs.dropWhile isIdentChar := by
        rw [List.cons_append, List.takeWhile_append_dropWhile, hr]
      have hident (k : Kind) (hk : k = .scope ∨ k = .arg) :
          r.Holds ⟨k, String.ofList (c :: cs.takeWhile isIdentChar), r.point⟩ := by
        refine holds_of_spelled rfl ?_
        rcases hk with rfl | rfl <;> simp [Spelled, hsplit, List.takeWhile_prefix]
      dsimp only at h
      split at h
      · next rest hrest =>
        cases h
        simp only [skip_rest] at hrest
        refine ⟨by simpa [hmode] using Move.scope hasScope,
          ⟨c :: cs.takeWhile isIdentChar ++ [':'], by simp [hsplit, hrest], by simp⟩, ?_, by simp⟩
        intro l hl
        rcases List.mem_cons.1 hl with rfl | hl
        · exact hident .scope (.inl rfl)
        · obtain rfl := List.mem_singleton.1 hl
          exact ⟨_, _, hsplit, rfl, by simp [Spelled, hrest]⟩
      · split at h
        · next hs =>
          exact steps_emit _ hsplit (hident .arg (.inr rfl))
            (by simpa [hmode, hs] using Move.firstArg) (by simp) h
        · next hs =>
          refine steps_emit _ hsplit ⟨_, _, hsplit, rfl, ?_⟩
            (by simpa [hmode, hs] using Move.warning) (by simp) h
          trivial
    · cases h

theorem steps_readAfterArg {r n : Reading} {e : List Lexeme} (hmode : r.mode = .afterArg)
    (h : r.readAfterArg = .go e n) : r.Steps e n := by
  unfold readAfterArg at h
  split at h
  · next cs hr =>
    cases h
    exact steps_skip ['='] hr (by simpa [hmode] using Move.assign) (by simp) rfl rfl
  · have hl : r.Holds ⟨.boolLiteral, "true", r.point⟩ := holds_of_spelled rfl (.inl rfl)
    exact steps_emit [] rfl hl (by simpa [hmode] using Move.flag) (by simp) h

/-- A bare value after blanks that have been skipped from `r`. -/
theorem steps_readBare {r n : Reading} (gap : List Char) {rest : List Char} {inSlice : Bool}
    {m : Mode} {e : List Lexeme} (hr : r.rest = gap ++ rest)
    (hq : ∀ c ∈ rest.head?, isQuote c = false) (hm : ∀ k : Kind, k.isScalar → Move r.mode [k] m)
    (hi : m ≠ .header false)
    (h : (r.skip gap rest).readBare inSlice m = .go e n) : r.Steps e n := by
  unfold readBare at h
  dsimp only at h
  rw [skip_skip] at h
  refine steps_emit _ (by simp [hr]) ⟨gap, rest, hr, rfl, ?_⟩ (hm _ (isScalar_bareKind _)) hi h
  exact spelled_bare (List.takeWhile_prefix _) hq

/-- A quoted value after blanks that have been skipped from `r`. -/
theorem steps_readQuoted {r n : Reading} (gap : List Char) {cs : List Char} {quote : Char}
    {m : Mode} {e : List Lexeme} (hr : r.rest = gap ++ quote :: cs) (hquote : isQuote quote = true)
    (hm : Move r.mode [.stringLiteral] m) (hi : m ≠ .header false)
    (h : (r.skip gap (quote :: cs)).readQuoted quote cs m = .go e n) : r.Steps e n := by
  unfold readQuoted at h
  dsimp only at h
  split at h
  · next q hq =>
    have hcs := scanQuoted_split hq
    rw [skip_skip, skip_skip] at h
    refine steps_emit _ (by simp [hr, ← hcs]) ⟨gap, quote :: cs, hr, rfl, ?_⟩ hm hi h
    refine .inl ⟨quote :: q.source, closedString_of_scanQuoted hquote hq, ?_⟩
    simp [← hcs]
  · cases h

theorem steps_readValue {r n : Reading} {e : List Lexeme} (hmode : r.mode = .value)
    (h : r.readValue = .go e n) : r.Steps e n := by
  unfold readValue at h
  split at h
  · cases h
  · next c cs hr =>
    split at h
    · next hc =>
      have hm : Move r.mode [.stringLiteral] .afterValue := by rw [hmode]; exact .scalar rfl
      refine steps_readQuoted [] hr hc hm (by simp) ?_
      simpa [skip, ← hr] using h
    · next hc =>
      split at h
      · next hb =>
        refine steps_emit _ hr (holds_of_spelled rfl ?_) (by simpa [hmode] using Move.openSlice)
          (by simp) h
        simp [Spelled, hr, hb]
      · split at h
        · cases h
        · have hm (k : Kind) (hk : k.isScalar) : Move r.mode [k] .afterValue := by
            rw [hmode]; exact .scalar hk
          have hq : ∀ d ∈ r.rest.head?, isQuote d = false := by simpa [hr] using hc
          exact steps_readBare [] rfl hq hm (by simp) h

theorem unit_isPrefix (cs : List Char) : unit cs <+: cs := by
  unfold unit
  split
  · simp
  · simp
  · simp
  · split
    · simp [List.takeWhile_prefix]
    · split
      · simp [List.takeWhile_prefix]
      · split
        · simp [List.takeWhile_prefix]
        · simp

theorem steps_readAfterValue {r n : Reading} {e : List Lexeme} (hmode : r.mode = .afterValue)
    (h : r.readAfterValue = .go e n) : r.Steps e n := by
  have hend : Move r.mode [.markerEnd] .text := by rw [hmode]; exact .finish
  have hl : r.Holds ⟨.markerEnd, "\n", r.point⟩ := holds_of_spelled rfl trivial
  unfold readAfterValue at h
  split at h
  · exact steps_emit [] rfl hl hend (by simp) h
  · next c cs hr =>
    split at h
    · cases h
      have hunit := List.prefix_iff_eq_append.1 (unit_isPrefix (c :: cs))
      exact ⟨hend, ⟨unit (c :: cs), hr.trans hunit.symm, rfl⟩, by simpa using hl, by simp⟩
    · split at h
      · exact steps_emit _ (by rw [hr, List.cons_append, List.takeWhile_append_dropWhile]) hl hend
          (by simp) h
      · split at h
        · dsimp only at h
          split at h
          · next d ds _ =>
            split at h
            · rw [skip_skip] at h
              refine steps_emit _ (by simp [hr]) ⟨[c], d :: ds, hr, rfl, ?_⟩
                (by simpa [hmode] using Move.nextArg) (by simp) h
              simp [Spelled, List.takeWhile_prefix]
            · cases h
          · cases h
        · cases h

theorem steps_readSliceItem {r n : Reading} {gap rest : List Char} {turn : SliceTurn}
    {e : List Lexeme} (hmode : r.mode = .slice turn) (hr : r.rest = gap ++ rest)
    (h : (r.skip gap rest).readSliceItem turn = .go e n) : r.Steps e n := by
  have hitem (ht : turn ≠ .delimiter) (k : Kind) (hk : k.isScalar) :
      Move r.mode [k] (.slice .delimiter) := by rw [hmode]; exact .item hk ht
  unfold readSliceItem at h
  split at h
  · cases h
  · next c cs hc =>
    rw [skip_rest] at hc
    subst hc
    split at h
    · cases h
    · split at h
      · next ht =>
        rw [skip_skip] at h
        refine steps_emit _ (by simp [hr]) ⟨gap, c :: cs, hr, rfl, ?_⟩
          (by simpa [hmode] using Move.closeSlice ht.2) (by simp) h
        simp [Spelled, ht.1]
      · split at h
        · next ht =>
          rw [skip_skip] at h
          refine steps_emit _ (by simp [hr]) ⟨gap, c :: cs, hr, rfl, ?_⟩
            (by simpa [hmode, ht.2] using Move.delimiter) (by simp) h
          simp [Spelled, ht.1]
        · split at h
          · next hq => exact steps_readQuoted _ hr hq.1 (hitem hq.2 _ rfl) (by simp) h
          · next hq =>
            split at h
            · cases h
            · split at h
              · next ht =>
                refine steps_readBare _ hr ?_ (hitem ht) (by simp) h
                intro d hd
                obtain rfl : c = d := by simpa using hd
                exact Bool.eq_false_iff.2 fun hd => hq ⟨hd, ht⟩
              · cases h

theorem gap_isPrefix (cs : List Char) : gap cs <+: cs := by
  unfold gap
  split
  · simp
  · exact List.takeWhile_prefix _

theorem steps_readSlice {r n : Reading} {turn : SliceTurn} {e : List Lexeme}
    (hmode : r.mode = .slice turn) (h : r.readSlice turn = .go e n) : r.Steps e n := by
  unfold readSlice at h
  dsimp only at h
  split at h
  · cases h
  · exact steps_readSliceItem hmode (List.prefix_iff_eq_append.1 (gap_isPrefix r.rest)).symm h

/-- A step that goes on is one of the moves, reads the first characters that are left, and emits
lexemes that stand there. -/
theorem steps_of_step {r n : Reading} {e : List Lexeme} (h : r.step = .go e n) : r.Steps e n := by
  unfold step at h
  split at h
  · next hm => exact steps_readText hm h
  · next hm => exact steps_readHeader hm h
  · next hm => exact steps_readAfterArg hm h
  · next hm => exact steps_readValue hm h
  · next hm => exact steps_readAfterValue hm h
  · next hm => exact steps_readSlice hm h

/-! ### Halting -/

/-- What the messages of all errors begin with. -/
def complaint : List Char := "malformed ".toList

/-- The lexer halts with one error that stands in what is left to read, and says what is
malformed. -/
def Fails (r : Reading) (e : List Lexeme) : Prop :=
  ∃ l, e = [l] ∧ l.kind = .error ∧ complaint <+: l.value.toList ∧ r.Holds l

theorem fails_fail {r : Reading} (read : List Char) {rest : List Char} {what detail : String}
    {e : List Lexeme} (hwhat : complaint <+: what.toList) (hr : r.rest = read ++ rest)
    (h : (r.skip read rest).fail what detail = .halt e) : r.Fails e := by
  cases h
  refine ⟨_, rfl, rfl, ?_, read, rest, hr, rfl, trivial⟩
  simp only [String.toList_append, List.append_assoc]
  exact hwhat.trans (List.prefix_append ..)

theorem fails_fail_here {r : Reading} {what detail : String} {e : List Lexeme}
    (hwhat : complaint <+: what.toList) (h : r.fail what detail = .halt e) : r.Fails e :=
  fails_fail [] hwhat rfl h

theorem fails_readQuoted {r : Reading} (gap : List Char) {cs : List Char} {quote : Char} {m : Mode}
    {e : List Lexeme} (hr : r.rest = gap ++ quote :: cs)
    (h : (r.skip gap (quote :: cs)).readQuoted quote cs m = .halt e) : r.Fails e := by
  unfold readQuoted at h
  dsimp only at h
  split at h
  · cases h
  · rw [skip_skip] at h
    exact fails_fail _ (by decide) (by simp [hr]) h

theorem fails_readHeader {r : Reading} {hasScope : Bool} {e : List Lexeme}
    (h : r.readHeader hasScope = .halt e) :
    r.Fails e ∧ ¬ ∃ c cs, r.rest = c :: cs ∧ isIdentStart c = true := by
  unfold readHeader at h
  split at h
  · next hr => exact ⟨fails_fail_here (by decide) h, by simp [hr]⟩
  · next c cs hr =>
    split at h
    · dsimp only at h
      split at h
      · cases h
      · split at h <;> cases h
    · next hc => exact ⟨fails_fail_here (by decide) h, by simp [hr, hc]⟩

theorem fails_readValue {r : Reading} {e : List Lexeme} (h : r.readValue = .halt e) :
    r.Fails e := by
  unfold readValue at h
  split at h
  · exact fails_fail_here (by decide) h
  · next c cs hr =>
    split at h
    · exact fails_readQuoted [] hr (by simpa [skip, ← hr] using h)
    · split at h
      · cases h
      · split at h
        · exact fails_fail_here (by decide) h
        · cases h

theorem fails_readAfterValue {r : Reading} {e : List Lexeme} (h : r.readAfterValue = .halt e) :
    r.Fails e := by
  unfold readAfterValue at h
  split at h
  · cases h
  · next c cs hr =>
    split at h
    · cases h
    · split at h
      · cases h
      · split at h
        · dsimp only at h
          split at h
          · split at h
            · cases h
            · exact fails_fail [c] (by decide) hr h
          · exact fails_fail [c] (by decide) hr h
        · exact fails_fail_here (by decide) h

theorem fails_readSliceItem {r : Reading} {gap rest : List Char} {turn : SliceTurn}
    {e : List Lexeme} (hr : r.rest = gap ++ rest)
    (h : (r.skip gap rest).readSliceItem turn = .halt e) : r.Fails e := by
  unfold readSliceItem at h
  split at h
  · exact fails_fail _ (by decide) hr h
  · next c cs hc =>
    rw [skip_rest] at hc
    subst hc
    split at h
    · exact fails_fail _ (by decide) hr h
    · split at h
      · cases h
      · split at h
        · cases h
        · split at h
          · exact fails_readQuoted _ hr h
          · split at h
            · exact fails_fail _ (by decide) hr h
            · split at h
              · cases h
              · exact fails_fail _ (by decide) hr h

theorem fails_readSlice {r : Reading} {turn : SliceTurn} {e : List Lexeme}
    (h : r.readSlice turn = .halt e) : r.Fails e := by
  have hsplit := (List.prefix_iff_eq_append.1 (gap_isPrefix r.rest)).symm
  unfold readSlice at h
  dsimp only at h
  split at h
  · exact fails_fail _ (by decide) hsplit h
  · exact fails_readSliceItem hsplit h

theorem readComment_ne_halt {r : Reading} {sign : CommentSign} {cs : List Char}
    {e : List Lexeme} : r.readComment sign cs ≠ .halt e := by
  intro h
  unfold readComment at h
  dsimp only at h
  split at h
  · split at h <;> cases h
  · cases h

theorem eof_of_halt_readText {r : Reading} {e : List Lexeme} (h : r.readText = .halt e) :
    r.rest = [] ∧ e = [⟨.eof, "", r.point⟩] := by
  unfold readText at h
  split at h
  · next hr => cases h; exact ⟨hr, rfl⟩
  · cases h
  · exact absurd h readComment_ne_halt
  · exact absurd h readComment_ne_halt
  · split at h <;> cases h
  · cases h

/-- The lexer halts at the end of the text outside of markers, or with an error inside a marker
that has been recognised or does not begin with an identifier. -/
theorem eof_or_error_of_halt {r : Reading} {e : List Lexeme} (h : r.step = .halt e) :
    (r.mode = .text ∧ r.rest = [] ∧ e = [⟨.eof, "", r.point⟩]) ∨
      (r.Fails e ∧ (r.mode.isRecognised ∨
        r.mode = .header false ∧ ¬ ∃ c cs, r.rest = c :: cs ∧ isIdentStart c = true)) := by
  unfold step at h
  split at h
  · next hm =>
    obtain ⟨hr, he⟩ := eof_of_halt_readText h
    exact .inl ⟨hm, hr, he⟩
  · next b hm =>
    obtain ⟨hf, hi⟩ := fails_readHeader h
    refine .inr ⟨hf, ?_⟩
    cases b with
    | false => exact .inr ⟨hm, hi⟩
    | true => exact .inl (by simp [hm, Mode.isRecognised])
  · next hm => unfold readAfterArg at h; split at h <;> cases h
  · next hm => exact .inr ⟨fails_readValue h, .inl (by simp [hm, Mode.isRecognised])⟩
  · next hm => exact .inr ⟨fails_readAfterValue h, .inl (by simp [hm, Mode.isRecognised])⟩
  · next hm => exact .inr ⟨fails_readSlice h, .inl (by simp [hm, Mode.isRecognised])⟩

/-! ### Runs -/

/-- Induction along a run: a step halts, or goes on to a state that is known already. -/
@[elab_as_elim]
theorem stepInduction {motive : Reading → Prop} (halt : ∀ r e, r.step = .halt e → motive r)
    (go : ∀ r e n, r.step = .go e n → motive n → motive r) (r : Reading) : motive r := by
  induction hw : r.weight using Nat.strongRecOn generalizing r with
  | ind w ih =>
    cases hs : r.step with
    | halt e => exact halt r e hs
    | go e n => exact go r e n hs (ih n.weight (hw ▸ weight_lt_of_step hs) n rfl)

theorem toEnd_of_go {r n : Reading} {e : List Lexeme} (h : r.step = .go e n) :
    r.toEnd = e ++ n.toEnd := by
  rw [toEnd_eq, h]

theorem toEnd_of_halt {r : Reading} {e : List Lexeme} (h : r.step = .halt e) : r.toEnd = e := by
  rw [toEnd_eq, h]

/-- Every lexeme of a run stands in the text, as it is written there. -/
theorem holds_of_mem_toEnd (r : Reading) : ∀ l ∈ r.toEnd, r.Holds l := by
  induction r using stepInduction with
  | halt r e h =>
    rw [toEnd_of_halt h]
    rcases eof_or_error_of_halt h with ⟨-, -, rfl⟩ | ⟨⟨l, rfl, -, -, hl⟩, -⟩
    · intro l hl
      obtain rfl := List.mem_singleton.1 hl
      exact holds_of_spelled rfl trivial
    · simpa using hl
  | go r e n h ih =>
    have hs := steps_of_step h
    rw [toEnd_of_go h]
    intro l hl
    rcases List.mem_append.1 hl with hl | hl
    · exact hs.holds l hl
    · obtain ⟨read, hr, hp⟩ := hs.read
      obtain ⟨before, rest, hn, hl, hspell⟩ := ih l hl
      exact ⟨read ++ before, rest, by simp [hr, hn], by simp [hl, hp], hspell⟩

/-- Every error of a run says what is malformed. -/
theorem complaint_of_mem_toEnd (r : Reading) :
    ∀ l ∈ r.toEnd, l.kind = .error → complaint <+: l.value.toList := by
  induction r using stepInduction with
  | halt r e h =>
    rw [toEnd_of_halt h]
    rcases eof_or_error_of_halt h with ⟨-, -, rfl⟩ | ⟨⟨l, rfl, -, hl, -⟩, -⟩
    · simp
    · simpa using fun _ => hl
  | go r e n h ih =>
    rw [toEnd_of_go h]
    intro l hl herror
    rcases List.mem_append.1 hl with hl | hl
    · have := not_isTerminal_of_move (steps_of_step h).move _ (List.mem_map_of_mem hl)
      simp [herror, Kind.isTerminal] at this
    · exact ih l hl herror

/-- In the mode of a marker that has just begun, an identifier follows. -/
def IsReady (r : Reading) : Prop :=
  r.mode = .header false → ∃ c cs, r.rest = c :: cs ∧ isIdentStart c = true

theorem isReady_start (cs : List Char) : (start cs).IsReady := by
  intro h
  cases h

/-- A run makes moves and ends with one terminal lexeme: the end of the text outside of markers, or
an error inside a recognised one. -/
theorem toEnd_moves (r : Reading) (hr : r.IsReady) :
    ∃ es l m, r.toEnd = es ++ [l] ∧ Moves r.mode (es.map Lexeme.kind) m ∧
      (m = .text ∧ l.kind = .eof ∨ m.isRecognised ∧ l.kind = .error) := by
  induction r using stepInduction with
  | halt r e h =>
    rw [toEnd_of_halt h]
    rcases eof_or_error_of_halt h with ⟨hm, -, rfl⟩ | ⟨⟨l, rfl, hl, -⟩, hm | ⟨hm, hi⟩⟩
    · exact ⟨[], _, r.mode, rfl, .nil _, .inl ⟨hm, rfl⟩⟩
    · exact ⟨[], l, r.mode, rfl, .nil _, .inr ⟨hm, hl⟩⟩
    · -- a marker that has just begun cannot fail: an identifier follows
      exact absurd (hr hm) hi
  | go r e n h ih =>
    have hs := steps_of_step h
    obtain ⟨es, l, m, hn, hmoves, hm⟩ := ih hs.ident
    refine ⟨e ++ es, l, m, by rw [toEnd_of_go h, hn, List.append_assoc], ?_, hm⟩
    rw [List.map_append]
    exact .cons hs.move hmoves

end Reading

/-- Only the last lexeme of a text is terminal. -/
theorem not_isTerminal_of_lex {text : String} {es : List Lexeme} {l : Lexeme}
    (h : lex text = es ++ [l]) : ∀ x ∈ es, x.kind.isTerminal = false := by
  obtain ⟨es', l', m, hlex, hmoves, -⟩ :=
    (Reading.start text.toList).toEnd_moves (Reading.isReady_start _)
  obtain ⟨rfl, -⟩ := List.append_inj' (h.symm.trans hlex) rfl
  intro x hx
  exact not_isTerminal_of_moves hmoves _ (List.mem_map_of_mem hx)

end ManifestMarkers.Lexeme
