import Mathlib.Algebra.Group.Nat.Defs
import Mathlib.Data.List.Forall2
import ManifestMarkers.Proofs.LexemeLines
import ManifestMarkers.Proofs.MarkerSchema

/-!
# Field markers written down and read back

A field marker with all its arguments can be written on one line so that it is read back as it was.

* `Lexeme.quote` writes any text without line feed between double quotes, `Literal.Writes` says how
  values are written.
* `Lexeme.Reading.Emits` says what the lexer makes of the first part of a text, whatever follows;
  `Reader.Takes` says what the reader does with lexemes of given kinds and values.
* `parseMarkers_written` puts both together.
-/

namespace ManifestMarkers

/-! ### Quoting -/

namespace Lexeme

/-- A character inside double quotes: a backslash or a double quote is escaped. -/
def escape (c : Char) : List Char := if c = '\\' ∨ c = '"' then ['\\', c] else [c]

/-- A text between double quotes. -/
def quote (cs : List Char) : List Char := '"' :: (cs.flatMap escape ++ ['"'])

theorem unescape?_escape (cs : List Char) : unescape? (cs.flatMap escape) = some cs := by
  unfold unescape?
  induction cs with
  | nil => rfl
  | cons c cs ih =>
    by_cases hb : c = '\\'
    · simp [escape, hb, unescapeFrom, simpleEscape?, ih]
    · by_cases hq : c = '"'
      · simp [escape, hq, unescapeFrom, simpleEscape?, ih]
      · simp [escape, hb, hq, unescapeFrom, ih]

/-- An escaped text ends at the first double quote of its own. -/
theorem scanDoubleFrom_escape {cs : List Char} (hn : '\n' ∉ cs) (t : List Char) :
    scanDoubleFrom false (cs.flatMap escape ++ '"' :: t) =
      .ok ⟨cs.flatMap escape, cs.flatMap escape ++ ['"'], t⟩ := by
  induction cs with
  | nil => simp [scanDoubleFrom]
  | cons c cs ih =>
    have hc : c ≠ '\n' := fun e => hn (by simp [e])
    have ih := ih fun h => hn (by simp [h])
    by_cases hb : c = '\\'
    · simp [escape, hb, scanDoubleFrom, ih, Except.map]
    · by_cases hq : c = '"'
      · simp [escape, hq, scanDoubleFrom, ih, Except.map]
      · simp [escape, hb, hq, hc, scanDoubleFrom, ih, Except.map]

theorem scanDouble_escape {cs : List Char} (hn : '\n' ∉ cs) (t : List Char) :
    scanDouble (cs.flatMap escape ++ '"' :: t) = .ok ⟨cs, cs.flatMap escape ++ ['"'], t⟩ := by
  simp [scanDouble, scanDoubleFrom_escape hn, unescape?_escape]

end Lexeme

/-! ### Values -/

namespace Literal

/-- How single values are written: strings in double quotes, numbers that fit in 64 bits in decimal
with any number of leading zeros, truth values as words. -/
inductive WritesScalar : Literal → List Char → Prop
  | string {s : String} (hn : '\n' ∉ s.toList) : WritesScalar (.string s) (Lexeme.quote s.toList)
  | int {n : Nat} (zeros : Nat) (h : n < 2 ^ 63) :
      WritesScalar (.int n) (List.replicate zeros '0' ++ Nat.toDigits 10 n)
  | bool (b : Bool) : WritesScalar (.bool b) (boolText b).toList

/-- How values are written: slices stand in braces, with commas between their elements. -/
inductive Writes : Literal → List Char → Prop
  | scalar {literal : Literal} {cs : List Char} (h : WritesScalar literal cs) : Writes literal cs
  | slice {items : List Literal} {texts : List (List Char)}
      (h : List.Forall₂ WritesScalar items texts) :
      Writes (.slice items) ('\x7b' :: (Text.joinWith [','] texts ++ ['\x7d']))

end Literal

namespace Reader

theorem digitsValueFrom?_eq {cs : List Char} (h : ∀ c ∈ cs, c.isDigit = true) (value : Nat) :
    digitsValueFrom? value cs = some (Nat.ofDigitChars 10 cs value) := by
  induction cs generalizing value with
  | nil => rfl
  | cons c cs ih =>
    have hc := h c (by simp)
    rw [digitsValueFrom?, if_pos hc, ih fun d hd => h d (by simp [hd])]
    rfl

theorem isDigit_of_mem_numeral (n zeros : Nat) :
    ∀ c ∈ List.replicate zeros '0' ++ Nat.toDigits 10 n, c.isDigit = true := by
  intro c hc
  rcases List.mem_append.1 hc with hc | hc
  · rw [List.eq_of_mem_replicate hc]
    rfl
  · exact Nat.isDigit_of_mem_toDigits (by decide) (by decide) hc

theorem ofDigitChars_numeral (n zeros : Nat) :
    Nat.ofDigitChars 10 (List.replicate zeros '0' ++ Nat.toDigits 10 n) 0 = n := by
  induction zeros with
  | zero => exact Nat.ofDigitChars_toDigits (by decide) (by decide)
  | succ zeros ih => simpa [List.replicate_succ, Nat.ofDigitChars] using ih

/-- Digits are read as their number, if it fits. -/
theorem integer?_digits {cs : List Char} (hdigits : ∀ c ∈ cs, c.isDigit = true) (hne : cs ≠ []) :
    integer? (String.ofList cs) = if Nat.ofDigitChars 10 cs 0 < 2 ^ 63 then
      some (Nat.ofDigitChars 10 cs 0 : Int) else none := by
  have hvalue : digitsValue? cs = some (Nat.ofDigitChars 10 cs 0) := by
    simp [digitsValue?, hne, digitsValueFrom?_eq hdigits]
  unfold integer?
  rw [String.toList_ofList]
  split
  · next tail htail => exact absurd (hdigits '-' (by simp)) (by decide)
  · next tail htail => exact absurd (hdigits '+' (by simp)) (by decide)
  · rw [hvalue]
    rfl

/-- A numeral with leading zeros is read as its number. -/
theorem integer?_numeral {n : Nat} (zeros : Nat) (h : n < 2 ^ 63) :
    integer? (String.ofList (List.replicate zeros '0' ++ Nat.toDigits 10 n)) = some (n : Int) := by
  have hne : List.replicate zeros '0' ++ Nat.toDigits 10 n ≠ [] := by
    simp [Nat.toDigits_ne_nil]
  rw [integer?_digits (isDigit_of_mem_numeral n zeros) hne, ofDigitChars_numeral, if_pos h]

end Reader

/-! ### The lexer on the first part of a text -/

namespace Lexeme

/-- The kind and the value of a lexeme, wherever it stands. -/
def content (l : Lexeme) : Kind × String := (l.kind, l.value)

/-- A character of numerals and of the names of types. -/
def isPlain (c : Char) : Bool := c.isAlphanum || c == '[' || c == ']'

theorem ne_of_isPlain {c d : Char} (hc : isPlain c = true) (hd : isPlain d = false) : c ≠ d := by
  rintro rfl
  rw [hc] at hd
  cases hd

theorem isGap_of_isPlain {c : Char} (h : isPlain c = true) : isGap c = false := by
  simp [isGap, ne_of_isPlain h (d := ' ') (by decide), ne_of_isPlain h (d := '\t') (by decide),
    ne_of_isPlain h (d := '\r') (by decide)]

theorem isQuote_of_isPlain {c : Char} (h : isPlain c = true) : isQuote c = false := by
  simp [isQuote, ne_of_isPlain h (d := '"') (by decide), ne_of_isPlain h (d := '\'') (by decide),
    ne_of_isPlain h (d := '`') (by decide)]

theorem isBare_of_isPlain {c : Char} (h : isPlain c = true) (inSlice : Bool) :
    isBare inSlice c = true := by
  simp [isBare, isGap_of_isPlain h, ne_of_isPlain h (d := ',') (by decide),
    ne_of_isPlain h (d := '\n') (by decide), ne_of_isPlain h (d := '\x7d') (by decide),
    ne_of_isPlain h (d := '=') (by decide)]

/-- A run of characters ends where the first one of another kind stands. -/
theorem span_append {p : Char → Bool} {cs t : List Char} (hcs : ∀ c ∈ cs, p c = true)
    (ht : ∀ c ∈ t.head?, p c = false) :
    (cs ++ t).takeWhile p = cs ∧ (cs ++ t).dropWhile p = t := by
  have hhead : t.takeWhile p = [] ∧ t.dropWhile p = t := by
    cases t with
    | nil => exact ⟨rfl, rfl⟩
    | cons c t => simp [ht c (by simp)]
  rw [List.takeWhile_append_of_pos hcs, List.dropWhile_append_of_pos hcs, hhead.1, hhead.2]
  simp

namespace Reading

/-- The lexer emits lexemes of the given kinds and values and comes to a state in the mode `mode`
with `rest` left. -/
def Emits (r : Reading) (ks : List (Kind × String)) (mode : Mode) (rest : List Char) : Prop :=
  ∃ (es : List Lexeme) (n : Reading),
    r.toEnd = es ++ n.toEnd ∧ es.map content = ks ∧ n.mode = mode ∧ n.rest = rest

variable {r : Reading} {mode mode' : Mode} {t t' cs : List Char} {ks ks' : List (Kind × String)}

theorem emits_of_step {e : List Lexeme} {n : Reading} (h : r.step = .go e n) :
    r.Emits (e.map content) n.mode n.rest :=
  ⟨e, n, toEnd_of_go h, rfl, rfl, rfl⟩

theorem emits_trans (h : r.Emits ks mode t)
    (h' : ∀ n : Reading, n.mode = mode → n.rest = t → n.Emits ks' mode' t') :
    r.Emits (ks ++ ks') mode' t' := by
  obtain ⟨es, n, hr, hes, hm, ht⟩ := h
  obtain ⟨es', n', hn, hes', hm', ht'⟩ := h' n hm ht
  exact ⟨es ++ es', n', by rw [hr, hn, List.append_assoc], by simp [hes, hes'], hm', ht'⟩

/-! #### Names -/

/-- One segment of a path with its colon. -/
theorem emits_segment {hasScope : Bool} {s : List Char} (hs : isIdentifier s = true)
    (hm : r.mode = .header hasScope) (hr : r.rest = s ++ ':' :: t) :
    r.Emits [(.scope, String.ofList s), (.separator, ":")] (.header true) t := by
  cases s with
  | nil => cases hs
  | cons c s =>
    obtain ⟨hc, hs⟩ := by simpa [isIdentifier] using hs
    obtain ⟨htake, hdrop⟩ := span_append (t := ':' :: t) hs (by simp; decide)
    have hstep : r.step = .go [⟨.scope, String.ofList (c :: s), r.point⟩,
        ⟨.separator, ":", r.point.after (c :: s)⟩]
        { (r.skip (c :: s) (':' :: t)).skip [':'] t with mode := .header true, last := ":" } := by
      simp [step, hm, readHeader, hr, hc, htake, hdrop]
    exact emits_of_step hstep

/-- The lexemes of the segments of a path. -/
def segmentContents (segments : List (List Char)) : List (Kind × String) :=
  segments.flatMap fun s => [(.scope, String.ofList s), (.separator, ":")]

theorem emits_segments {segments : List (List Char)} (hs : ∀ s ∈ segments, isIdentifier s = true)
    (hne : segments ≠ []) {hasScope : Bool} (hm : r.mode = .header hasScope)
    (hr : r.rest = Text.joinWith [':'] segments ++ ':' :: t) :
    r.Emits (segmentContents segments) (.header true) t := by
  induction segments generalizing r hasScope with
  | nil => exact absurd rfl hne
  | cons s segments ih =>
    cases segments with
    | nil => exact emits_segment (hs s (by simp)) hm (by simpa [Text.joinWith] using hr)
    | cons s' segments =>
      have hrest : r.rest = s ++ ':' :: (Text.joinWith [':'] (s' :: segments) ++ ':' :: t) := by
        simp [hr, Text.joinWith]
      refine emits_trans (emits_segment (hs s (by simp)) hm hrest) fun n hn hnrest => ?_
      exact ih (fun x hx => hs x (by simp [hx])) (by simp) hn hnrest

theorem emits_assign (hm : r.mode = .afterArg) (hr : r.rest = '=' :: t) : r.Emits [] .value t := by
  have hstep : r.step = .go [] { r.skip ['='] t with mode := .value } := by
    simp [step, hm, readAfterArg, hr]
  exact emits_of_step hstep

/-- The first argument with its equals sign. -/
theorem emits_firstArg {s : List Char} (hs : isIdentifier s = true) (hm : r.mode = .header true)
    (hr : r.rest = s ++ '=' :: t) : r.Emits [(.arg, String.ofList s)] .value t := by
  cases s with
  | nil => cases hs
  | cons c s =>
    obtain ⟨hc, hs⟩ := by simpa [isIdentifier] using hs
    obtain ⟨htake, hdrop⟩ := span_append (t := '=' :: t) hs (by simp; decide)
    have hstep : r.step = (r.skip (c :: s) ('=' :: t)).emit
        ⟨.arg, String.ofList (c :: s), r.point⟩ .afterArg := by
      simp [step, hm, readHeader, hr, hc, htake, hdrop]
    exact emits_trans (emits_of_step hstep) fun n hn hrest => emits_assign hn hrest

/-- A further argument with its comma and its equals sign. -/
theorem emits_nextArg {s : List Char} (hs : isIdentifier s = true) (hm : r.mode = .afterValue)
    (hr : r.rest = ',' :: (s ++ '=' :: t)) : r.Emits [(.arg, String.ofList s)] .value t := by
  cases s with
  | nil => cases hs
  | cons c s =>
    obtain ⟨hc, hs⟩ := by simpa [isIdentifier] using hs
    obtain ⟨htake, hdrop⟩ := span_append (t := '=' :: t) hs (by simp; decide)
    have hstep : r.step = ((r.skip [','] (c :: s ++ '=' :: t)).skip (c :: s) ('=' :: t)).emit
        ⟨.arg, String.ofList (c :: s), r.point.after [',']⟩ .afterArg := by
      have hgap : isGap ',' = false := by decide
      have hend : atLineEnd (',' :: c :: (s ++ '=' :: t)) = false := rfl
      simp [step, hm, readAfterValue, hr, hgap, hend, hc, htake, hdrop]
    exact emits_trans (emits_of_step hstep) fun n hn hrest => emits_assign hn hrest

/-! #### Values -/

/-- What may stand behind a single value: nothing, a comma or the end of a slice. -/
def EndsValue (t : List Char) : Prop := ∀ c ∈ t.head?, c = ',' ∨ c = '\x7d'

theorem readQuoted_quote {s : List Char} (hn : '\n' ∉ s) (m : Mode) :
    r.readQuoted '"' (s.flatMap escape ++ '"' :: t) m =
      .go [⟨.stringLiteral, String.ofList s, r.point⟩]
        { (r.skip ['"'] (s.flatMap escape ++ '"' :: t)).skip (s.flatMap escape ++ ['"']) t with
          mode := m, last := String.ofList s } := by
  unfold readQuoted scanQuoted
  rw [if_neg (by decide), if_pos rfl, scanDouble_escape hn]
  rfl

theorem emits_quoted {s : List Char} (hn : '\n' ∉ s) (hm : r.mode = .value)
    (hr : r.rest = quote s ++ t) :
    r.Emits [(.stringLiteral, String.ofList s)] .afterValue t := by
  have hrest : r.rest = '"' :: (s.flatMap escape ++ '"' :: t) := by simp [hr, quote]
  have hstep : r.step = r.readQuoted '"' (s.flatMap escape ++ '"' :: t) .afterValue := by
    have hquote : isQuote '"' = true := by decide
    simp [step, hm, readValue, hrest, hquote]
  rw [readQuoted_quote hn] at hstep
  exact emits_of_step hstep

/-- Inside a slice, what stands there is read at once where no blank comes first. -/
theorem step_slice {turn : SliceTurn} {c : Char} (hm : r.mode = .slice turn)
    (hr : r.rest = c :: cs) (hgap : isGap c = false) (hline : c ≠ '\n') :
    r.step = r.readSliceItem turn := by
  have hreturn : c ≠ '\r' := by
    rintro rfl
    exact absurd hgap (by decide)
  have hend : atLineEnd r.rest = false := by
    rw [hr]
    unfold atLineEnd
    split <;> simp_all
  have hnogap : gap r.rest = [] := by simp [gap, hr, hgap]
  have hskip : r.skip [] r.rest = r := rfl
  simp [step, hm, readSlice, hnogap, hskip, hend]

theorem emits_quotedItem {s : List Char} (hn : '\n' ∉ s) {turn : SliceTurn}
    (hturn : turn ≠ .delimiter) (hm : r.mode = .slice turn) (hr : r.rest = quote s ++ t) :
    r.Emits [(.stringLiteral, String.ofList s)] (.slice .delimiter) t := by
  have hrest : r.rest = '"' :: (s.flatMap escape ++ '"' :: t) := by simp [hr, quote]
  have hstep := step_slice hm hrest (by decide) (by decide)
  have hitem : r.readSliceItem turn =
      r.readQuoted '"' (s.flatMap escape ++ '"' :: t) (.slice .delimiter) := by
    have hquote : isQuote '"' = true := by decide
    simp [readSliceItem, hrest, hturn, hquote]
  rw [hitem, readQuoted_quote hn] at hstep
  exact emits_of_step hstep

theorem isBare_of_endsValue (ht : EndsValue t) : ∀ c ∈ t.head?, isBare true c = false := by
  intro c hc
  rcases ht c hc with rfl | rfl <;> decide

theorem readBare_append {s : List Char} {inSlice : Bool} (hs : ∀ c ∈ s, isBare inSlice c = true)
    (ht : ∀ c ∈ t.head?, isBare inSlice c = false) (hr : r.rest = s ++ t) (m : Mode) :
    r.readBare inSlice m = (r.skip s t).emit ⟨bareKind s, String.ofList s, r.point⟩ m := by
  obtain ⟨htake, hdrop⟩ := span_append hs ht
  simp [readBare, hr, htake, hdrop]

/-- A value without quotes is read up to a comma or the end of the text. -/
theorem emits_bare {s : List Char} (hs : ∀ c ∈ s, isBare false c = true) {c : Char}
    (hhead : s.head? = some c) (hquote : isQuote c = false) (hbrace : c ≠ '\x7b')
    (ht : ∀ c ∈ t.head?, c = ',') (hm : r.mode = .value) (hr : r.rest = s ++ t) :
    r.Emits [(bareKind s, String.ofList s)] .afterValue t := by
  have ht : ∀ c ∈ t.head?, isBare false c = false := by
    intro c hc
    rw [ht c hc]
    decide
  obtain ⟨cs, rfl⟩ := List.head?_eq_some_iff.1 hhead
  have hc := hs c (by simp)
  have hstep : r.step = r.readBare false .afterValue := by
    simp only [isBare, Bool.not_eq_true', Bool.or_eq_false_iff, beq_eq_false_iff_ne] at hc
    simp [step, hm, readValue, hr, hquote, hbrace, hc]
  rw [readBare_append hs ht hr .afterValue] at hstep
  exact emits_of_step hstep

theorem emits_plain {s : List Char} (hs : ∀ c ∈ s, isPlain c = true) (hne : s ≠ [])
    (ht : ∀ c ∈ t.head?, c = ',') (hm : r.mode = .value) (hr : r.rest = s ++ t) :
    r.Emits [(bareKind s, String.ofList s)] .afterValue t := by
  obtain ⟨c, cs, rfl⟩ := List.exists_cons_of_ne_nil hne
  have hc := hs c (by simp)
  exact emits_bare (fun d hd => isBare_of_isPlain (hs d hd) false) rfl (isQuote_of_isPlain hc)
    (ne_of_isPlain hc (by decide)) ht hm hr

theorem emits_plainItem {s : List Char} (hs : ∀ c ∈ s, isPlain c = true) (hne : s ≠ [])
    {turn : SliceTurn} (hturn : turn ≠ .delimiter) (ht : EndsValue t) (hm : r.mode = .slice turn)
    (hr : r.rest = s ++ t) : r.Emits [(bareKind s, String.ofList s)] (.slice .delimiter) t := by
  have hbare := readBare_append (fun c hc => isBare_of_isPlain (hs c hc) true)
    (isBare_of_endsValue ht) hr (.slice .delimiter)
  have hstep : r.step = r.readBare true (.slice .delimiter) := by
    cases s with
    | nil => exact absurd rfl hne
    | cons c s =>
      have hc := hs c (by simp)
      have hbrace := ne_of_isPlain hc (d := '\x7d') (by decide)
      have hcomma := ne_of_isPlain hc (d := ',') (by decide)
      have hequals := ne_of_isPlain hc (d := '=') (by decide)
      have hline := ne_of_isPlain hc (d := '\n') (by decide)
      rw [step_slice hm hr (isGap_of_isPlain hc) hline]
      simp [readSliceItem, hr, isQuote_of_isPlain hc, hbrace, hcomma, hequals, hline, hturn]
  rw [hbare] at hstep
  exact emits_of_step hstep

theorem emits_sliceBegin (hm : r.mode = .value) (hr : r.rest = '\x7b' :: t) :
    r.Emits [(.sliceBegin, "\x7b")] (.slice .first) t := by
  have hstep : r.step =
      (r.skip ['\x7b'] t).emit ⟨.sliceBegin, "\x7b", r.point⟩ (.slice .first) := by
    have hquote : isQuote '\x7b' = false := by decide
    simp [step, hm, readValue, hr, hquote]
  exact emits_of_step hstep

theorem emits_sliceEnd {turn : SliceTurn} (hturn : turn ≠ .element) (hm : r.mode = .slice turn)
    (hr : r.rest = '\x7d' :: t) : r.Emits [(.sliceEnd, "\x7d")] .afterValue t := by
  have hstep := step_slice hm hr (by decide) (by decide)
  have hitem : r.readSliceItem turn =
      (r.skip ['\x7d'] t).emit ⟨.sliceEnd, "\x7d", r.point⟩ .afterValue := by
    simp [readSliceItem, hr, hturn]
  rw [hitem] at hstep
  exact emits_of_step hstep

theorem emits_sliceDelimiter (hm : r.mode = .slice .delimiter) (hr : r.rest = ',' :: t) :
    r.Emits [(.sliceDelimiter, ",")] (.slice .element) t := by
  have hstep := step_slice hm hr (by decide) (by decide)
  have hitem : r.readSliceItem .delimiter =
      (r.skip [','] t).emit ⟨.sliceDelimiter, ",", r.point⟩ (.slice .element) := by
    simp [readSliceItem, hr]
  rw [hitem] at hstep
  exact emits_of_step hstep

/-! #### The ends of a marker -/

/-- A marker begins with the first character of the text. -/
theorem toEnd_start {c : Char} (ht : t = c :: cs) (hc : isIdentStart c = true) :
    ∃ n : Reading, (start ('+' :: t)).toEnd = ⟨.markerStart, "+", .origin⟩ :: n.toEnd ∧
      n.mode = .header false ∧ n.rest = t := by
  subst ht
  have hstep : (start ('+' :: c :: cs)).step =
      (start ('+' :: c :: cs)).beginMarker [] (c :: cs) := by
    simp [step, start, readText, hc]
  exact ⟨_, toEnd_of_go hstep, rfl, rfl⟩

/-- A marker ends with the text. -/
theorem toEnd_finish (hm : r.mode = .afterValue) (hr : r.rest = []) :
    r.toEnd = [⟨.markerEnd, "\n", r.point⟩, ⟨.eof, "", r.point⟩] := by
  have hstep : r.step = r.emit ⟨.markerEnd, "\n", r.point⟩ .text := by
    simp [step, hm, readAfterValue, hr]
  have hhalt : ({ r with mode := .text, last := "\n" } : Reading).step =
      .halt [⟨.eof, "", r.point⟩] := by
    simp [step, readText, hr]
  rw [toEnd_of_go hstep, toEnd_of_halt hhalt]
  rfl

end Reading

end Lexeme

/-! ### The reader -/

namespace Reader

variable {registry : Registry} {mode middle next : Mode} {ks ks' : List (Lexeme.Kind × String)}
  {literal : Literal} {m : OpenMarker} {spec : ArgSpec}

/-- The reader takes lexemes of the given kinds and values, wherever they stand, and goes on in the
mode `next`. -/
def Takes (registry : Registry) (mode : Mode) (ks : List (Lexeme.Kind × String))
    (next : Mode) : Prop :=
  ∀ es : List Lexeme, es.map Lexeme.content = ks → Passes registry mode es [] next

theorem takes_append (h : Takes registry mode ks middle) (h' : Takes registry middle ks' next) :
    Takes registry mode (ks ++ ks') next := by
  intro es hes ls
  obtain ⟨es₁, es₂, rfl, h₁, h₂⟩ := List.map_eq_append_iff.1 hes
  rw [List.append_assoc, h es₁ h₁, h' es₂ h₂]
  rfl

/-- One lexeme, then what the mode it leads to takes. -/
theorem takes_cons {k : Lexeme.Kind} {v : String} (hk : k.isTerminal = false)
    (h : ∀ p, ∃ middle, step registry mode ⟨k, v, p⟩ = .go none middle ∧
      Takes registry middle ks next) : Takes registry mode ((k, v) :: ks) next := by
  intro es hes ls
  obtain ⟨⟨k', v', p⟩, es, rfl, hl, htail⟩ := List.map_eq_cons_iff.1 hes
  obtain ⟨rfl, rfl⟩ := Prod.mk.inj hl
  obtain ⟨middle, hstep, hmiddle⟩ := h p
  rw [List.cons_append, run_cons_of_go hk hstep, hmiddle es htail]
  rfl

theorem takes_nil : Takes registry mode [] mode := by
  intro es hes ls
  obtain rfl := List.map_eq_nil_iff.1 hes
  rfl

theorem takes_segments {position : Point} {scopes : List String} (segments : List (List Char)) :
    Takes registry (.header position scopes) (Lexeme.Reading.segmentContents segments)
      (.header position (scopes ++ segments.map String.ofList)) := by
  induction segments generalizing scopes with
  | nil =>
    rw [List.map_nil, List.append_nil]
    exact takes_nil
  | cons s segments ih =>
    have hmore := @ih (scopes ++ [String.ofList s])
    rw [List.append_assoc] at hmore
    refine takes_cons rfl fun p => ⟨_, rfl, ?_⟩
    exact takes_cons rfl fun q => ⟨_, rfl, hmore⟩

/-- The first argument opens the marker of a registered path. -/
theorem run_header_arg {position : Point} {scopes : List String} {d : Definition}
    (hd : registry.get? (pathOf scopes) = some d) {l : Lexeme} (hl : l.kind = .arg)
    (ls : List Lexeme) :
    run registry (.header position scopes) (l :: ls) = run registry
      (.argument { definition := d, position, marker := d.variant.zero }) (l :: ls) := by
  have hstep : step registry (.header position scopes) l =
      step registry (.argument { definition := d, position, marker := d.variant.zero }) l := by
    simp only [step, hl, hd]
  simp only [run, hstep]

theorem takes_header {position : Point} {scopes : List String} {d : Definition} {name : String}
    (hd : registry.get? (pathOf scopes) = some d)
    (h : Takes registry (.argument { definition := d, position, marker := d.variant.zero })
      ((.arg, name) :: ks) next) :
    Takes registry (.header position scopes) ((.arg, name) :: ks) next := by
  intro es hes ls
  rw [← h es hes ls]
  obtain ⟨l, es, rfl, hl, hes⟩ := List.map_eq_cons_iff.1 hes
  exact run_header_arg hd (congrArg Prod.fst hl) (es ++ ls)

/-- The marker with one more argument. -/
def OpenMarker.withArg (m : OpenMarker) (name : String) (marker : Marker) : OpenMarker :=
  { m with marker, seen := m.seen ++ [name] }

theorem takes_arg {name : String} (hspec : m.definition.arg? name = some spec)
    (hseen : spec.name ∉ m.seen)
    (h : ∀ named, Takes registry (.value m spec named) ks next) :
    Takes registry (.argument m) ((.arg, name) :: ks) next := by
  refine takes_cons rfl fun p => ⟨.value m spec p, ?_, h p⟩
  simp [step, beginArg, hspec, hseen]

/-- A lexeme that stands for a value by its own kind. -/
def StandsFor (k : Lexeme.Kind × String) (literal : Literal) : Prop :=
  k.1.isScalar = true ∧ ∀ p, naturalLiteral ⟨k.1, k.2, p⟩ = .ok literal

theorem takes_value {k : Lexeme.Kind × String} {marker : Marker} {named : Point}
    (hk : k.1.isScalar = true)
    (hscalar : ∀ p, scalar spec.name spec.kind ⟨k.1, k.2, p⟩ = .ok literal)
    (hset : m.marker.setArg spec.name literal = .ok marker) :
    Takes registry (.value m spec named) [k] (.argument (m.withArg spec.name marker)) := by
  refine takes_cons (isTerminal_eq_false_of_isScalar hk) fun p => ⟨_, ?_, takes_nil⟩
  rw [step_value_scalar hk, hscalar p]
  simp only [endArg, hset]
  rfl

theorem scalar_of_standsFor {k : Lexeme.Kind × String} (h : StandsFor k literal) (name : String)
    (p : Point) : scalar name .any ⟨k.1, k.2, p⟩ = .ok literal := by
  simp [scalar, h.2 p]

end Reader

/-! ### Values, written and read -/

section Values

open Lexeme (SliceTurn)
open Lexeme.Reading (EndsValue)

variable {registry : Registry} {literal : Literal} {cs : List Char}

/-- The lexer reads `cs` as the value of an argument, up to a comma or the end of the text. -/
def Lexeme.LexesValue (cs : List Char) (ks : List (Kind × String)) : Prop :=
  ∀ {r : Reading} {t : List Char}, (∀ c ∈ t.head?, c = ',') → r.mode = .value →
    r.rest = cs ++ t → r.Emits ks .afterValue t

/-- The lexer reads `cs` as one lexeme, as the value of an argument and inside a slice. -/
structure Lexeme.LexesScalar (cs : List Char) (k : Kind × String) : Prop where
  value : LexesValue cs [k]
  item : ∀ {r : Reading} {t : List Char} {turn : SliceTurn}, turn ≠ .delimiter → EndsValue t →
    r.mode = .slice turn → r.rest = cs ++ t → r.Emits [k] (.slice .delimiter) t

theorem Lexeme.lexesScalar_quote {s : List Char} (hn : '\n' ∉ s) :
    LexesScalar (quote s) (.stringLiteral, String.ofList s) :=
  ⟨fun _ hm hr => Reading.emits_quoted hn hm hr,
    fun hturn _ hm hr => Reading.emits_quotedItem hn hturn hm hr⟩

theorem Lexeme.lexesScalar_plain {s : List Char} (hs : ∀ c ∈ s, isPlain c = true) (hne : s ≠ []) :
    LexesScalar s (bareKind s, String.ofList s) :=
  ⟨fun ht hm hr => Reading.emits_plain hs hne ht hm hr,
    fun hturn ht hm hr => Reading.emits_plainItem hs hne hturn ht hm hr⟩

theorem Lexeme.lexesScalar_digits {s : List Char} (hs : ∀ c ∈ s, c.isDigit = true) (hne : s ≠ []) :
    LexesScalar s (.integerLiteral, String.ofList s) := by
  have hkind : bareKind s = .integerLiteral := by
    simp only [bareKind, List.all_eq_true.2 hs]
    simp [hne]
  rw [← hkind]
  refine lexesScalar_plain (fun c hc => ?_) hne
  simp [isPlain, Char.isAlphanum, hs c hc]

/-- A single value is written so that its lexeme stands for it. -/
theorem Literal.lexes_of_writesScalar (h : WritesScalar literal cs) :
    ∃ k, Lexeme.LexesScalar cs k ∧ Reader.StandsFor k literal := by
  cases h with
  | @string s hn =>
    refine ⟨_, Lexeme.lexesScalar_quote hn, rfl, fun p => ?_⟩
    simp [Reader.naturalLiteral]
  | @int n zeros hlt =>
    refine ⟨_, Lexeme.lexesScalar_digits (Reader.isDigit_of_mem_numeral n zeros) ?_, rfl,
      fun p => ?_⟩
    · simp [Nat.toDigits_ne_nil]
    · simp only [Reader.naturalLiteral, Reader.integer?_numeral zeros hlt]
  | bool b =>
    cases b with
    | true =>
      have hplain : ∀ c ∈ "true".toList, Lexeme.isPlain c = true := List.all_eq_true.1 (by decide)
      exact ⟨_, Lexeme.lexesScalar_plain hplain (by decide), by decide, fun p => rfl⟩
    | false =>
      have hplain : ∀ c ∈ "false".toList, Lexeme.isPlain c = true := List.all_eq_true.1 (by decide)
      exact ⟨_, Lexeme.lexesScalar_plain hplain (by decide), by decide, fun p => rfl⟩

namespace Reader

variable {m : OpenMarker} {spec : ArgSpec} {marker : Marker}

/-- The elements of a slice up to its closing brace. -/
theorem exists_of_forall₂_writesScalar (registry : Registry) (m : OpenMarker) (spec : ArgSpec)
    (marker : Marker) {items : List Literal} {texts : List (List Char)}
    (h : List.Forall₂ Literal.WritesScalar items texts) (hne : items ≠ []) :
    ∃ ks : List (Lexeme.Kind × String),
      (∀ {r : Lexeme.Reading} {t : List Char} {turn : SliceTurn}, turn ≠ .delimiter →
        r.mode = .slice turn → r.rest = Text.joinWith [','] texts ++ '\x7d' :: t →
        r.Emits ks .afterValue t) ∧
      ∀ {start : Lexeme} {before : List Literal},
        m.marker.setArg spec.name (.slice (before ++ items)) = .ok marker →
        Takes registry (.slice m spec .any start before) ks
          (.argument (m.withArg spec.name marker)) := by
  induction h with
  | nil => exact absurd rfl hne
  | @cons item text items texts hitem hitems ih =>
    obtain ⟨k, hlex, hstands⟩ := Literal.lexes_of_writesScalar hitem
    have htake {start : Lexeme} {before : List Literal} {ks : List (Lexeme.Kind × String)}
        {next : Mode}
        (hks : Takes registry (.slice m spec .any start (before ++ [item])) ks next) :
        Takes registry (.slice m spec .any start before) (k :: ks) next := by
      refine takes_cons (isTerminal_eq_false_of_isScalar hstands.1) fun p => ⟨_, ?_, hks⟩
      rw [step_slice_scalar hstands.1, scalar_of_standsFor hstands]
    cases hitems with
    | nil =>
      refine ⟨[k, (.sliceEnd, "\x7d")], fun hturn hm hr => ?_, fun hset => htake ?_⟩
      · refine Lexeme.Reading.emits_trans (hlex.item hturn ?_ hm hr) fun n hn hrest => ?_
        · simp [EndsValue]
        · exact Lexeme.Reading.emits_sliceEnd (by simp) hn hrest
      · refine takes_cons rfl fun p => ⟨_, ?_, takes_nil⟩
        simp only [step, endArg, hset]
        rfl
    | @cons item' text' items texts hitem' hitems =>
      obtain ⟨ks, hemits, htakes⟩ := ih (by simp)
      refine ⟨k :: (.sliceDelimiter, ",") :: ks, fun {r t turn} hturn hm hr => ?_,
        fun hset => htake ?_⟩
      · have hsplit : r.rest = text ++ ',' :: (Text.joinWith [','] (text' :: texts) ++
            '\x7d' :: t) := by
          simp [hr, Text.joinWith]
        refine Lexeme.Reading.emits_trans (hlex.item hturn ?_ hm hsplit) fun n hn hrest => ?_
        · simp [EndsValue]
        refine Lexeme.Reading.emits_trans (Lexeme.Reading.emits_sliceDelimiter hn hrest)
          fun n hn hrest => ?_
        exact hemits (by simp) hn hrest
      · refine takes_cons rfl fun p => ⟨_, rfl, ?_⟩
        exact htakes (by simpa using hset)

/-- Every value is written so that an argument that accepts any value gets it. -/
theorem exists_of_writes (registry : Registry) (h : Literal.Writes literal cs)
    (hspec : spec.kind = .any)
    (hset : m.marker.setArg spec.name literal = .ok marker) :
    ∃ ks : List (Lexeme.Kind × String), Lexeme.LexesValue cs ks ∧
      ∀ named, Takes registry (.value m spec named) ks
        (.argument (m.withArg spec.name marker)) := by
  cases h with
  | scalar h =>
    obtain ⟨k, hlex, hstands⟩ := Literal.lexes_of_writesScalar h
    refine ⟨[k], hlex.value, fun named => takes_value hstands.1 (fun p => ?_) hset⟩
    rw [hspec]
    exact scalar_of_standsFor hstands spec.name p
  | @slice items texts h =>
    have hopen {ks : List (Lexeme.Kind × String)} {named : Point}
        (hks : ∀ start, Takes registry (.slice m spec .any start []) ks
          (.argument (m.withArg spec.name marker))) :
        Takes registry (.value m spec named) ((.sliceBegin, "\x7b") :: ks)
          (.argument (m.withArg spec.name marker)) := by
      refine takes_cons rfl fun p => ⟨_, ?_, hks ⟨.sliceBegin, "\x7b", p⟩⟩
      simp only [step, hspec, ArgKind.element?]
    by_cases hne : items = []
    · subst hne
      cases h
      refine ⟨[(.sliceBegin, "\x7b"), (.sliceEnd, "\x7d")], fun ht hm hr => ?_, fun named => ?_⟩
      · refine Lexeme.Reading.emits_trans (Lexeme.Reading.emits_sliceBegin hm hr)
          fun n hn hrest => ?_
        exact Lexeme.Reading.emits_sliceEnd (by simp) hn hrest
      · refine hopen fun start => takes_cons rfl fun p => ⟨_, ?_, takes_nil⟩
        simp only [step, endArg, hset]
        rfl
    · obtain ⟨ks, hemits, htakes⟩ := exists_of_forall₂_writesScalar registry m spec marker h hne
      refine ⟨(.sliceBegin, "\x7b") :: ks, fun {r t} ht hm hr => ?_, fun named => ?_⟩
      · have hsplit : r.rest = '\x7b' :: (Text.joinWith [','] texts ++ '\x7d' :: t) := by
          simp [hr]
        refine Lexeme.Reading.emits_trans (Lexeme.Reading.emits_sliceBegin hm hsplit)
          fun n hn hrest => ?_
        exact hemits (by simp) hn hrest
      · exact hopen fun start => htakes (by simpa using hset)

/-! ### Arguments, written and read -/

/-- The argument `name` with the value written as `cs` turns the open marker `m` into `m'`. -/
def ArgReads (registry : Registry) (m : OpenMarker) (name : String) (cs : List Char)
    (m' : OpenMarker) : Prop :=
  ∃ ks : List (Lexeme.Kind × String), Lexeme.LexesValue cs ks ∧
    Takes registry (.argument m) ((.arg, name) :: ks) (.argument m')

/-- Arguments that are read one after the other. -/
inductive ArgsRead (registry : Registry) :
    OpenMarker → List (String × List Char) → OpenMarker → Prop
  | nil (m : OpenMarker) : ArgsRead registry m [] m
  | cons {m middle m' : OpenMarker} {name : String} {cs : List Char}
      {args : List (String × List Char)} (hname : isIdentifier name.toList = true)
      (h : ArgReads registry m name cs middle) (hs : ArgsRead registry middle args m') :
      ArgsRead registry m ((name, cs) :: args) m'

theorem argReads_of_scalar {name : String} {k : Lexeme.Kind × String}
    (hlex : Lexeme.LexesScalar cs k) (hk : k.1.isScalar = true)
    (hspec : m.definition.arg? name = some spec)
    (hkind : spec.kind = .string) (hseen : spec.name ∉ m.seen)
    (hset : m.marker.setArg spec.name (.string k.2) = .ok marker) :
    ArgReads registry m name cs (m.withArg spec.name marker) := by
  refine ⟨[k], hlex.value, takes_arg hspec hseen fun named => takes_value hk (fun p => ?_) hset⟩
  simp [scalar, hkind]

theorem argReads_of_writes {name : String} (h : Literal.Writes literal cs)
    (hspec : m.definition.arg? name = some spec) (hkind : spec.kind = .any)
    (hseen : spec.name ∉ m.seen) (hset : m.marker.setArg spec.name literal = .ok marker) :
    ArgReads registry m name cs (m.withArg spec.name marker) := by
  obtain ⟨ks, hlex, htakes⟩ := exists_of_writes registry h hkind hset
  exact ⟨ks, hlex, takes_arg hspec hseen htakes⟩

/-- How an argument is written behind another one. -/
def argText (arg : String × List Char) : List Char := ',' :: (arg.1.toList ++ '=' :: arg.2)

theorem head?_flatMap_argText (args : List (String × List Char)) :
    ∀ c ∈ (args.flatMap argText).head?, c = ',' := by
  cases args <;> simp [argText]

/-- The reader takes all arguments up to the end of the text and closes the marker. -/
theorem run_toEnd_of_argsRead {m' : OpenMarker} {args : List (String × List Char)}
    (h : ArgsRead registry m args m') {found : FoundMarker} (hclose : close m' = .ok found)
    {r : Lexeme.Reading} (hm : r.mode = .afterValue) (hr : r.rest = args.flatMap argText) :
    run registry (.argument m) r.toEnd = [.marker found] := by
  induction h generalizing r with
  | nil m =>
    rw [Lexeme.Reading.toEnd_finish hm hr]
    simp [run, step, closed, hclose, Lexeme.Kind.isTerminal]
  | @cons m middle m' name cs args hname h hs ih =>
    obtain ⟨ks, hlex, htakes⟩ := h
    have hrest : r.rest = ',' :: (name.toList ++ '=' :: (cs ++ args.flatMap argText)) := by
      simp [hr, argText]
    have hemits : r.Emits ([(.arg, name)] ++ ks) .afterValue (args.flatMap argText) := by
      have harg := Lexeme.Reading.emits_nextArg hname hm hrest
      rw [String.ofList_toList] at harg
      exact Lexeme.Reading.emits_trans harg fun n hn hnrest =>
        hlex (head?_flatMap_argText args) hn hnrest
    obtain ⟨es, n, htoEnd, hes, hn, hnrest⟩ := hemits
    rw [htoEnd, htakes es hes]
    exact ih hclose hn hnrest

theorem pathOf_segments {path : String} {segments : List (List Char)}
    (h : path.toList = '+' :: Text.joinWith [':'] segments) :
    pathOf (segments.map String.ofList) = path := by
  have hmap : (segments.map String.ofList).map String.toList = segments := by
    simp [Function.comp_def]
  rw [← String.ofList_toList (s := path), h]
  unfold pathOf Text.joinStrings
  rw [hmap, String.ofList_cons]
  rfl

theorem exists_cons_of_segments {segments : List (List Char)} (hne : segments ≠ [])
    (h : ∀ s ∈ segments, isIdentifier s = true) :
    ∃ c cs, Text.joinWith [':'] segments = c :: cs ∧ Lexeme.isIdentStart c = true := by
  cases segments with
  | nil => exact absurd rfl hne
  | cons s segments =>
    have hs := h s (by simp)
    cases s with
    | nil => cases hs
    | cons c s =>
      have hc : Lexeme.isIdentStart c = true := by
        have := by simpa [isIdentifier] using hs
        exact this.1
      cases segments with
      | nil => exact ⟨c, s, rfl, hc⟩
      | cons => exact ⟨c, _, rfl, hc⟩

/-- A registered path with arguments that can be read is the only marker of its text. -/
theorem readMarkers_of_argsRead {d : Definition} (hpath : isPath d.path = true)
    (hd : registry.get? d.path = some d) {name : String} {args : List (String × List Char)}
    {m' : OpenMarker} (h : ArgsRead registry
      { definition := d, position := .origin, marker := d.variant.zero } ((name, cs) :: args) m')
    {found : FoundMarker} (hclose : close m' = .ok found) :
    readMarkers registry (Lexeme.lexChars (d.path.toList ++ ':' :: (name.toList ++ '=' ::
      (cs ++ args.flatMap argText)))) = [.marker found] := by
  obtain ⟨segments, hne, hsegments, hjoin⟩ := exists_segments_of_isPath hpath
  obtain ⟨c, tail, htail, hc⟩ := exists_cons_of_segments hne hsegments
  cases h with
  | @cons _ middle _ _ _ _ hname h hs =>
    obtain ⟨ks, hlex, htakes⟩ := h
    have hfirst : Text.joinWith [':'] segments ++ ':' :: (name.toList ++ '=' ::
        (cs ++ args.flatMap argText)) = c :: (tail ++ ':' :: (name.toList ++ '=' ::
        (cs ++ args.flatMap argText))) := by rw [htail]; rfl
    obtain ⟨n, hstart, hn, hnrest⟩ := Lexeme.Reading.toEnd_start hfirst hc
    have hemits : n.Emits (Lexeme.Reading.segmentContents segments ++ ([(.arg, name)] ++ ks))
        .afterValue (args.flatMap argText) := by
      refine Lexeme.Reading.emits_trans (Lexeme.Reading.emits_segments hsegments hne hn hnrest)
        fun n hn hnrest => ?_
      have harg := Lexeme.Reading.emits_firstArg hname hn hnrest
      rw [String.ofList_toList] at harg
      exact Lexeme.Reading.emits_trans harg fun n hn hnrest =>
        hlex (head?_flatMap_argText args) hn hnrest
    have hscopes : registry.get? (pathOf ([] ++ segments.map String.ofList)) = some d := by
      rw [List.nil_append, pathOf_segments hjoin, hd]
    have htakes : Takes registry (.header .origin [])
        (Lexeme.Reading.segmentContents segments ++ ([(.arg, name)] ++ ks)) (.argument middle) :=
      takes_append (takes_segments segments) (takes_header hscopes htakes)
    obtain ⟨es, n', htoEnd, hes, hn', hnrest'⟩ := hemits
    rw [hjoin, List.cons_append, Lexeme.lexChars_eq_toEnd, hstart, htoEnd, readMarkers,
      run_cons_of_go rfl rfl, htakes es hes]
    exact run_toEnd_of_argsRead hs hclose hn' hnrest'

end Reader

end Values

/-! ### Field markers -/

/-- A text between double quotes. -/
def quoteText (s : String) : String := String.ofList (Lexeme.quote s.toList)

/-- A field marker with all its arguments on one line. The type and the default value are given as
they are written. -/
def Field.written (path name type description default replace : String) : String :=
  path ++ ":name=" ++ quoteText name ++ ",type=" ++ type ++ ",description=" ++
    quoteText description ++ ",default=" ++ default ++ ",replace=" ++ quoteText replace

theorem FieldType.isPlain_of_ofText {text : String} {type : FieldType}
    (h : ofText text = .ok type) :
    text.toList ≠ [] ∧ ∀ c ∈ text.toList, Lexeme.isPlain c = true := by
  unfold ofText at h
  split at h
  case h_8 => cases h
  all_goals exact ⟨by decide, List.all_eq_true.1 (by decide)⟩

section Written

variable {registry : Registry} {path name keyword description replace : String} {type : FieldType}
  {default : Literal} {text : String}

/-- The marker of a field at the start of a text, with the arguments `seen` so far. -/
def Field.opened (path : String) (f : Field) (seen : List String) : Reader.OpenMarker :=
  { definition := ⟨path, .field⟩, position := .origin, marker := .field f, seen }

/-- The arguments of a field that are kept as text. -/
theorem Field.argReads_text (spec : ArgSpec) {f g : Field} {seen : List String} {cs : List Char}
    {k : Lexeme.Kind × String} (hlex : Lexeme.LexesScalar cs k) (hk : k.1.isScalar = true)
    (harg : Field.args.find? (·.matchesName spec.name) = some spec) (hkind : spec.kind = .string)
    (hseen : spec.name ∉ seen) (hset : f.setArg fieldPath spec.name (.string k.2) = .ok g) :
    Reader.ArgReads registry (f.opened path seen) spec.name cs
      (g.opened path (seen ++ [spec.name])) := by
  have hmarker : (Marker.field f).setArg spec.name (.string k.2) = .ok (.field g) := by
    rw [Marker.setArg_field, hset]
    rfl
  exact Reader.argReads_of_scalar hlex hk harg hkind hseen hmarker

/-- The argument of a field that is kept as it is. -/
theorem Field.argReads_default {f : Field} {seen : List String}
    (hdefault : Literal.Writes default text.toList) (hseen : "default" ∉ seen) :
    Reader.ArgReads registry (f.opened path seen) "default" text.toList
      (Field.opened path { f with default } (seen ++ ["default"])) := by
  have harg : (f.opened path seen).definition.arg? "default" = some ⟨"default", .any, true⟩ := rfl
  exact Reader.argReads_of_writes hdefault harg rfl hseen rfl

/-- The five arguments of a field, read one after the other. -/
theorem Field.argsRead_written (hname : '\n' ∉ name.toList)
    (hdescription : '\n' ∉ description.toList) (hreplace : '\n' ∉ replace.toList)
    (htype : FieldType.ofText keyword = .ok type) (hdefault : Literal.Writes default text.toList) :
    Reader.ArgsRead registry (Field.opened path {} [])
      [("name", Lexeme.quote name.toList), ("type", keyword.toList),
        ("description", Lexeme.quote description.toList), ("default", text.toList),
        ("replace", Lexeme.quote replace.toList)]
      (Field.opened path { name, type, description, default, replace }
        ["name", "type", "description", "default", "replace"]) := by
  obtain ⟨hne, hplain⟩ := FieldType.isPlain_of_ofText htype
  have hlexName := Lexeme.lexesScalar_quote hname
  have hlexType := Lexeme.lexesScalar_plain hplain hne
  have hlexDescription := Lexeme.lexesScalar_quote hdescription
  have hlexReplace := Lexeme.lexesScalar_quote hreplace
  rw [String.ofList_toList] at hlexName hlexType hlexDescription hlexReplace
  have hkeyword : Field.setArg { name } fieldPath "type" (.string keyword) =
      .ok { name, type } := by
    rw [Field.setArg_type, Literal.text, htype]
    rfl
  refine .cons rfl (Field.argReads_text ⟨"name", .string, false⟩ (g := { name }) hlexName rfl rfl
    rfl (by simp) rfl) ?_
  refine .cons rfl (Field.argReads_text ⟨"type", .string, false⟩ hlexType
    (Lexeme.isScalar_bareKind _) rfl rfl (by simp) hkeyword) ?_
  refine .cons rfl (Field.argReads_text ⟨"description", .string, true⟩
    (g := { name, type, description }) hlexDescription rfl rfl rfl (by simp) rfl) ?_
  refine .cons rfl (Field.argReads_default hdefault (by simp)) ?_
  refine .cons rfl (Field.argReads_text ⟨"replace", .string, true⟩
    (g := { name, type, description, default, replace }) hlexReplace rfl rfl rfl (by simp) rfl) ?_
  exact .nil _

theorem Field.close_written {f : Field} (h : f.Conforms) :
    Reader.close (f.opened path ["name", "type", "description", "default", "replace"]) =
      .ok ⟨path, .field f, .origin⟩ := by
  have hvalid := Marker.validate_of_conforms (m := .field f) h .origin
  have hargs : (Field.args.find? fun s => !s.isOptional &&
      !(["name", "type", "description", "default", "replace"].contains s.name)) = none := by
    decide
  simp only [Reader.close, Field.opened, Variant.args, hargs, hvalid]

/-- A field marker that is written with all its arguments is read back: the text holds this marker
at its start and nothing else. -/
theorem parseMarkers_written {defs : List (String × Variant)}
    (hregistry : Registry.defineAll {} defs = .ok registry)
    (hpath : registry.get? path = some ⟨path, .field⟩)
    (hname : '\n' ∉ name.toList) (hreserved : isReserved name = false)
    (htype : FieldType.ofText keyword = .ok type)
    (hdescription : '\n' ∉ description.toList)
    (hdefault : Literal.Writes default text.toList) (hagrees : type.Agrees default)
    (hreplace : '\n' ∉ replace.toList) (hpattern : Pattern.isPattern replace = true) :
    parseMarkers registry (Field.written path name keyword description text replace) =
      .ok ([⟨path, .field { name, type, description, default, replace }, .origin⟩], []) := by
  have hwell : isPath path = true :=
    Registry.isPath_of_defineAll (by simp) hregistry _ (List.mem_of_find?_eq_some hpath)
  have hconforms : Field.Conforms { name, type, description, default, replace } :=
    ⟨FieldType.ne_unknown_of_ofText htype, hreserved, rfl, by simpa using hpattern,
      by simpa using hagrees⟩
  have hread := Reader.readMarkers_of_argsRead hwell hpath
    (Field.argsRead_written hname hdescription hreplace htype hdefault)
    (Field.close_written hconforms)
  have htext : (Field.written path name keyword description text replace).toList = path.toList ++
      ':' :: ("name".toList ++ '=' :: (Lexeme.quote name.toList ++
        [("type", keyword.toList), ("description", Lexeme.quote description.toList),
          ("default", text.toList), ("replace", Lexeme.quote replace.toList)].flatMap
            Reader.argText)) := by
    simp [Field.written, quoteText, Reader.argText]
  rw [parseMarkers, Lexeme.lex, htext, hread]
  rfl

theorem parseMarkers_written_slice :
    parseMarkers operatorRegistry (Field.written fieldPath "a,b=+c:\"" "[]string" "# \\n \x7b`'"
      "\x7b\"\",\"x\\\\,\\\"\x7d\"\x7d" "v(1|,)") =
      .ok ([⟨fieldPath, .field
        { name := "a,b=+c:\"", type := .strings, description := "# \\n \x7b`'"
          default := some (.slice [.string "", .string "x\\,\"\x7d"])
          replace := "v(1|,)" }, .origin⟩], []) := by
  have hpath : operatorRegistry.get? fieldPath = some ⟨fieldPath, .field⟩ := by decide
  have hreserved : isReserved "a,b=+c:\"" = false := by decide
  have hpattern : Pattern.isPattern "v(1|,)" = true := by with_unfolding_all decide
  have hitems : List.Forall₂ Literal.WritesScalar [.string "", .string "x\\,\"\x7d"]
      ["\"\"".toList, "\"x\\\\,\\\"\x7d\"".toList] :=
    .cons (.string (s := "") (by decide)) (.cons (.string (s := "x\\,\"\x7d") (by decide)) .nil)
  have hdefault : Literal.Writes (.slice [.string "", .string "x\\,\"\x7d"])
      "\x7b\"\",\"x\\\\,\\\"\x7d\"\x7d".toList := .slice hitems
  have hname : '\n' ∉ "a,b=+c:\"".toList := by decide
  have hdescription : '\n' ∉ "# \\n \x7b`'".toList := by decide
  have hreplace : '\n' ∉ "v(1|,)".toList := by decide
  have htype : FieldType.ofText "[]string" = .ok .strings := rfl
  have hagrees : FieldType.strings.Agrees (.slice [.string "", .string "x\\,\"\x7d"]) :=
    ⟨_, rfl, by simp⟩
  exact parseMarkers_written defineAll_operatorRegistry hpath hname hreserved htype hdescription
    hdefault hagrees hreplace hpattern

end Written

end ManifestMarkers
