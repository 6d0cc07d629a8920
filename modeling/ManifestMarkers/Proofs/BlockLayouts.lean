import ManifestMarkers.Proofs.LineScalars
import ManifestMarkers.Proofs.StreamRounds

/-!
# Block layouts

What the scanner makes of a text of dashes, keys and scalars on one line, with blank lines and
comments between them. The tokens depend on the columns of the dashes and keys alone, so they do not
tell how the rest of the text is laid out.

* `Part` is a dash, a key or a scalar, and `Nest.add` adds its tokens to those of the parts before.
* `Spells` relates a text to its parts.
* `finish_of_spells`: from every place of such a text, the scanner gives the tokens of the parts
  that follow; `scan?_of_spells` is this for a whole text.
-/

namespace ManifestMarkers.Yaml

/-! ### Parts and their tokens -/

/-- A part of a block layout. -/
inductive Part
  | dash (column : Nat)
  | key (column : Nat) (name : Token)
  | scalar (token : Token)

/-- Block collections that are open, and the tokens so far. -/
structure Nest where
  indent : Int := -1
  outer : List Int := []
  tokens : Array Token := #[]

namespace Nest

/-- Close the collections that are deeper than a column. -/
def close (n : Nest) (column : Int) : Nest :=
  let (indent, outer, tokens) := Scan.unrollFrom column n.indent n.tokens n.outer
  { indent, outer, tokens }

/-- Open a collection, unless it is open. -/
def enter (n : Nest) (column : Nat) (t : Token) : Nest :=
  if n.indent ≥ column then n else ⟨column, n.indent :: n.outer, n.tokens.push t⟩

/-- Add a token. -/
def push (n : Nest) (t : Token) : Nest := { n with tokens := n.tokens.push t }

/-- Add the tokens of a part. -/
def add (n : Nest) : Part → Nest
  | .dash column => ((n.close column).enter column .blockSequenceStart).push .blockEntry
  | .key column name =>
    ((((n.close column).enter column .blockMappingStart).push .key).push name).push .value
  | .scalar token => n.push token

/-- The tokens when all collections are closed. -/
def finish (n : Nest) : Array Token := (n.close (-1)).tokens

/-- The outermost of the open collections is the stream itself. -/
def Grounded (indent : Int) : List Int → Prop
  | [] => indent = -1
  | i :: outer => Grounded i outer

/-- The open collections start with the stream. -/
def IsGrounded (n : Nest) : Prop := Grounded n.indent n.outer

variable {n : Nest} {column : Int}

theorem grounded_unrollFrom {indent : Int} {outer : List Int} (h : Grounded indent outer)
    (hcolumn : -1 ≤ column) (tokens : Array Token) :
    Grounded (Scan.unrollFrom column indent tokens outer).1
        (Scan.unrollFrom column indent tokens outer).2.1 ∧
      (Scan.unrollFrom column indent tokens outer).1 ≤ column := by
  induction outer generalizing indent tokens with
  | nil =>
    rw [Scan.unrollFrom]
    exact ⟨h, h ▸ hcolumn⟩
  | cons i outer ih =>
    rw [Scan.unrollFrom]
    split
    · exact ih h _
    · next hle => exact ⟨h, by simpa using hle⟩

theorem IsGrounded.close (h : n.IsGrounded) (hcolumn : -1 ≤ column) :
    (n.close column).IsGrounded := (grounded_unrollFrom h hcolumn _).1

theorem IsGrounded.indent_close_le (h : n.IsGrounded) (hcolumn : -1 ≤ column) :
    (n.close column).indent ≤ column := (grounded_unrollFrom h hcolumn _).2

theorem IsGrounded.enter (h : n.IsGrounded) (column : Nat) (t : Token) :
    (n.enter column t).IsGrounded := by
  unfold Nest.enter
  split
  · exact h
  · exact h

theorem IsGrounded.push (h : n.IsGrounded) (t : Token) : (n.push t).IsGrounded := h

theorem indent_enter {column : Nat} (h : n.indent ≤ column) (t : Token) :
    (n.enter column t).indent = column := by
  unfold enter
  split
  · omega
  · rfl

theorem close_of_le (h : n.indent ≤ column) : n.close column = n := by
  unfold close
  cases hn : n.outer with
  | nil => rw [Scan.unrollFrom, ← hn]
  | cons i outer => rw [Scan.unrollFrom, if_neg (by omega), ← hn]

theorem unrollFrom_unrollFrom {a b indent : Int} (hab : b ≤ a) (outer : List Int)
    (tokens : Array Token) :
    Scan.unrollFrom b (Scan.unrollFrom a indent tokens outer).1
        (Scan.unrollFrom a indent tokens outer).2.2 (Scan.unrollFrom a indent tokens outer).2.1 =
      Scan.unrollFrom b indent tokens outer := by
  induction outer generalizing indent tokens with
  | nil => rfl
  | cons i outer ih =>
    by_cases h : indent > a
    · have hb : indent > b := by omega
      simp only [Scan.unrollFrom, if_pos h, if_pos hb, ih]
    · simp only [Scan.unrollFrom, if_neg h]

/-- Closing less first makes no difference. -/
theorem close_close {a b : Int} (hab : b ≤ a) (n : Nest) : (n.close a).close b = n.close b := by
  simp only [close, unrollFrom_unrollFrom hab]

end Nest

/-! ### Texts and their parts -/

/-- What stands in front of a place in a text: nothing, a dash or key at a column, or the scalar
behind it. -/
inductive Behind
  | nothing
  | mark (column : Nat)
  | scalar (column : Nat)

/-- Whether the next dash or key may be at a column. Behind a scalar it is not deeper. -/
def Behind.Admits : Behind → Nat → Prop
  | .scalar limit, column => column ≤ limit
  | _, _ => True

/-- A comment on a line, if there is one. -/
def IsRemark (cs : List Char) : Prop :=
  (∀ c ∈ cs.head?, c = '#') ∧ ∀ c ∈ cs, isAllowed c = true ∧ isBreak c = false

/-- Whether a line starts like a document indicator. -/
def startsMarker (cs : List Char) : Bool :=
  cs.take 3 == ['-', '-', '-'] || cs.take 3 == ['.', '.', '.']

/-- The text from a column on has these parts; `inline` says that a dash or key may start on this
line, and `short` that names are short enough for keys. -/
inductive Spells (short : Prop) : Nat → Bool → Behind → List Char → List Part → Prop
  | last {column : Nat} {inline : Bool} {behind : Behind} {remark : List Char} (k : Nat)
      (hremark : IsRemark remark) :
      Spells short column inline behind (List.replicate k ' ' ++ remark) []
  | line {column : Nat} {inline : Bool} {behind : Behind} {remark text : List Char}
      {parts : List Part} (k : Nat) (hremark : IsRemark remark)
      (h : Spells short 0 true behind text parts) :
      Spells short column inline behind (List.replicate k ' ' ++ (remark ++ '\n' :: text)) parts
  | dash {column : Nat} {behind : Behind} {text : List Char} {parts : List Part} (k : Nat)
      (hbehind : behind.Admits (column + k)) (hgap : AtGap text)
      (h : Spells short (column + k + 1) true (.mark (column + k)) text parts) :
      Spells short column true behind (List.replicate k ' ' ++ '-' :: text)
        (.dash (column + k) :: parts)
  | key {column : Nat} {behind : Behind} {name text : List Char} {token : Token}
      {parts : List Part} (k j : Nat) (hname : LineScalar name token)
      (hlength : short → Text.byteSize name + j ≤ Scan.maxKeyLength)
      (hmarker : column + k = 0 → startsMarker name = false)
      (hbehind : behind.Admits (column + k)) (hgap : AtGap text)
      (h : Spells short (column + k + (name.length + j + 1)) false (.mark (column + k)) text
        parts) :
      Spells short column true behind
        (List.replicate k ' ' ++ (name ++ (List.replicate j ' ' ++ ':' :: text)))
        (.key (column + k) token :: parts)
  | scalar {column mark : Nat} {inline : Bool} {raw text : List Char} {token : Token}
      {parts : List Part} (k : Nat) (hraw : LineScalar raw token) (hmark : mark < column + k)
      (hgap : AtGap text)
      (h : Spells short (column + k + raw.length) false (.scalar mark) text parts) :
      Spells short column inline (.mark mark) (List.replicate k ' ' ++ (raw ++ text))
        (.scalar token :: parts)

/-! ### The scanner at a place -/

namespace Scan

/-- The block collections and the tokens of a scanner. -/
def nest (s : Scan) : Nest := ⟨s.indent, s.outer, s.tokens⟩

/-- The scanner with other block collections and tokens. -/
def withNest (s : Scan) (n : Nest) : Scan :=
  { s with indent := n.indent, outer := n.outer, tokens := n.tokens }

section

variable (s : Scan) (n : Nest)

@[simp] theorem nest_withNest : (s.withNest n).nest = n := rfl

@[simp] theorem spot_withNest : (s.withNest n).spot = s.spot := rfl

@[simp] theorem key_withNest : (s.withNest n).key = s.key := rfl

@[simp] theorem outerKeys_withNest : (s.withNest n).outerKeys = s.outerKeys := rfl

@[simp] theorem keyAllowed_withNest : (s.withNest n).keyAllowed = s.keyAllowed := rfl

theorem push_eq (token : Token) : s.push token = s.withNest (s.nest.push token) := rfl

variable {s} (hflow : s.outerKeys = [])

include hflow

theorem inFlow_eq : s.inFlow = false := by simp [inFlow, hflow]

theorem unroll_eq (column : Int) : s.unroll column = s.withNest (s.nest.close column) := by
  rw [unroll, inFlow_eq hflow]
  rfl

theorem roll_eq (column : Nat) (token : Token) :
    s.roll column none token = s.withNest (s.nest.enter column token) := by
  rw [roll, inFlow_eq hflow]
  simp only [Bool.false_or, decide_eq_true_eq, Nest.enter]
  by_cases h : s.indent ≥ column
  · rw [if_pos h, if_pos (show s.nest.indent ≥ column from h)]
    rfl
  · rw [if_neg h, if_neg (show ¬s.nest.indent ≥ column from h)]
    rfl

end

/-- The tokens when the rest is read. -/
def finish (s : Scan) : Option (Array Token) := s.run (s.spot.rest.length + 1)

/-- The amount of fuel does not matter. -/
theorem run_eq_finish {s : Scan} {fuel : Nat} (h : s.spot.rest.length < fuel) :
    s.run fuel = s.finish := by
  have hself : Shifted s s := ⟨0, 0, _, .refl (.inl (.refl _))⟩
  exact (hself.run h (Nat.lt_succ_self _)).1

/-- A round of the scanner. -/
theorem finish_eq (s : Scan) :
    s.finish = s.front?.bind fun t =>
      if t.spot.rest = [] then t.resetBlocks.map Scan.tokens else t.fetch?.bind finish := by
  rw [finish, run_succ]
  cases hfront : s.front? with
  | none => rfl
  | some t =>
    obtain ⟨hlength, hnext⟩ := front_spec hfront
    simp only [Option.bind_some, proceed, fetch?]
    cases hrest : t.spot.rest with
    | nil => simp
    | cons c cs =>
      simp only [List.head?_cons, Option.bind_some, reduceCtorEq, if_false]
      cases hfetch : t.fetchToken c with
      | none => rfl
      | some u =>
        have hu := length_fetchToken hrest hnext hfetch
        rw [hrest, List.length_cons] at hlength
        exact run_eq_finish (by omega)

/-- The scanner stands at a place of a text that is laid out in blocks, and no key is due. -/
structure At (s : Scan) (column : Nat) (inline : Bool) (behind : Behind) (text : List Char) :
    Prop where
  rest : s.spot.rest = text
  column : s.spot.column = column
  inline : s.keyAllowed = inline
  flow : s.outerKeys = []
  key : (s.key.possible && s.key.required) = false
  grounded : s.nest.IsGrounded
  mark : ∀ c, behind = .mark c → s.indent = c

/-! ### Blanks and comments -/

section

variable {a : Spot} {k : Nat} {tail : List Char}

theorem skipWhile_spaces {p : Char → Bool} (hp : p ' ' = true)
    (ha : a.rest = List.replicate k ' ' ++ tail) (htail : ∀ c ∈ tail.head?, p c = false) :
    a.skipWhile p = a.skipMany k := by
  have htake : a.rest.takeWhile p = List.replicate k ' ' := by
    rw [ha]
    refine takeWhile_append_eq (fun c hc => ?_) htail
    rw [List.eq_of_mem_replicate hc, hp]
  rw [Spot.skipWhile, Spot.readWhile, htake, List.length_replicate]

/-- A line starts with blanks and perhaps a comment, and `tail` is behind them. -/
structure EndsLine (remark tail : List Char) : Prop where
  isRemark : IsRemark remark
  head : ∀ c ∈ tail.head?, isSpaceOrTab c = false ∧ c ≠ '#' ∧ c.toNat ≠ 0xfeff
  isBreak : remark ≠ [] → ∀ c ∈ tail.head?, isBreak c = true

theorem lineRest_eq {remark : List Char} (h : EndsLine remark tail)
    (ha : a.rest = List.replicate k ' ' ++ (remark ++ tail)) (tabs : Bool) :
    a.lineRest tabs = a.skipMany (k + remark.length) := by
  have hremark := h.isRemark
  have hblank : ∀ c ∈ (remark ++ tail).head?, isSpaceOrTab c = false ∧ c.toNat ≠ 0xfeff := by
    intro c hc
    cases remark with
    | nil => exact ⟨(h.head c hc).1, (h.head c hc).2.2⟩
    | cons d ds =>
      obtain rfl : d = c := by simpa using hc
      rw [hremark.1 d rfl]
      decide
  have hmark : a.pastMark = a := by
    have hnext : a.next (·.toNat == 0xfeff) = false := by
      refine Spot.next_eq_false fun c hc => ?_
      rw [ha] at hc
      cases k with
      | zero => simpa using (hblank c hc).2
      | succ k =>
        cases hc
        rfl
    rw [Spot.pastMark, hnext, Bool.and_false]
    rfl
  have hblanks : a.pastBlanks tabs = a.skipMany k := by
    refine skipWhile_spaces rfl ha fun c hc => ?_
    have hc := (hblank c hc).1
    simp only [isSpaceOrTab, Bool.or_eq_false_iff] at hc
    rw [hc.1, hc.2, Bool.and_false]
    rfl
  have hskip : (a.skipMany k).rest = remark ++ tail := by
    simpa using Spot.rest_skipMany (a := List.replicate k ' ') ha
  rw [Spot.lineRest, hmark, hblanks, Spot.pastComment]
  cases remark with
  | nil =>
    have hhash : (a.skipMany k).next (· == '#') = false := by
      refine Spot.next_eq_false fun c hc => ?_
      rw [hskip] at hc
      simpa using (h.head c hc).2.1
    rw [hhash]
    rfl
  | cons d ds =>
    have hall : ∀ c ∈ d :: ds, (!isBreak c) = true := fun c hc => by simp [(hremark.2 c hc).2]
    have hstop : ∀ c ∈ tail.head?, (!isBreak c) = false := fun c hc => by
      simp [h.isBreak (by simp) c hc]
    have htake := takeWhile_append_eq hall hstop
    have hhash : (a.skipMany k).next (· == '#') = true := by
      rw [Spot.next_of_rest hskip, hremark.1 d rfl]
      rfl
    rw [hhash, if_pos rfl, Spot.skipWhile, Spot.readWhile, hskip, htake, Spot.skipMany_skipMany]

/-- The amount of fuel does not matter. -/
theorem skipBlanks_eq {s : Scan} {f g : Nat} (hf : s.spot.rest.length < f)
    (hg : s.spot.rest.length < g) : s.skipBlanks f = s.skipBlanks g := by
  induction f generalizing g s with
  | zero => omega
  | succ f ih =>
    obtain ⟨g, rfl⟩ : ∃ g', g = g' + 1 := ⟨g - 1, by omega⟩
    rw [skipBlanks_succ, skipBlanks_succ]
    split
    · next hbreak =>
      have hrest := length_lineRest (s.inFlow || !s.keyAllowed) s.spot
      have hlt := length_readBreak_lt hbreak
      exact ih (by simp only [nextLine]; omega) (by simp only [nextLine]; omega)
    · rfl

end

section

variable {s : Scan} {column k : Nat} {inline : Bool} {behind : Behind} {remark text : List Char}

/-- A line without dashes, keys and scalars is skipped. -/
theorem exists_finish_line (h : At s column inline behind
      (List.replicate k ' ' ++ (remark ++ '\n' :: text))) (hremark : IsRemark remark) :
    ∃ t, At t 0 true behind text ∧ t.nest = s.nest ∧ s.finish = t.finish := by
  have hends : EndsLine remark ('\n' :: text) :=
    ⟨hremark, by simp [isSpaceOrTab], by simp [isBreak]⟩
  have hline := lineRest_eq hends h.rest (s.inFlow || !s.keyAllowed)
  have hrest : (s.spot.skipMany (k + remark.length)).rest = '\n' :: text := by
    have hsplit : s.spot.rest = (List.replicate k ' ' ++ remark) ++ '\n' :: text := by
      rw [h.rest, List.append_assoc]
    simpa using Spot.rest_skipMany hsplit
  have hbreak : (s.spot.skipMany (k + remark.length)).next isBreak = true := by
    rw [Spot.next_of_rest hrest]
    decide
  have hread := Spot.readBreak_break hrest (by decide) (by simp)
  let t := s.nextLine (s.spot.skipMany (k + remark.length))
  have hat : At t 0 true behind text :=
    { rest := by simp only [t, nextLine, hread]
      column := by simp only [t, nextLine, hread]
      inline := by simp [t, nextLine, inFlow_eq h.flow]
      flow := h.flow
      key := h.key
      grounded := h.grounded
      mark := h.mark }
  refine ⟨t, hat, rfl, ?_⟩
  have hfront : s.front? = t.front? := by
    have hlength : t.spot.rest.length < s.spot.rest.length := by
      rw [hat.rest, h.rest]
      simp
      omega
    rw [front?, front?, skipBlanks_succ, hline, hbreak, if_pos rfl]
    exact congrArg _ (skipBlanks_eq hlength (Nat.lt_succ_self _))
  rw [finish_eq, finish_eq, hfront]

/-- Keys that are not due are given up. -/
theorem exists_settle (hflow : s.outerKeys = [])
    (hkey : (s.key.possible && s.key.required) = false) :
    ∃ k, (k.possible && k.required) = false ∧
      s.settle? = some ({ s with key := k }.withNest (s.nest.close s.spot.column)) := by
  have hfresh : ∃ k, (k.possible && k.required) = false ∧ freshKey? s.spot s.key = some k := by
    unfold freshKey?
    split
    · next hstale =>
      rw [Bool.and_eq_true] at hstale
      rw [hstale.1, Bool.true_and] at hkey
      rw [hkey]
      exact ⟨_, rfl, rfl⟩
    · exact ⟨_, hkey, rfl⟩
  obtain ⟨k, hk, hfresh⟩ := hfresh
  refine ⟨k, hk, ?_⟩
  rw [settle?, dropStaleKeys, hfresh, hflow]
  exact congrArg some (unroll_eq rfl s.spot.column)

/-- The scanner in front of a token, outside of flow collections and with no key due. -/
structure Settled (t : Scan) (a : Spot) (n : Nest) (inline : Bool) : Prop where
  spot : t.spot = a
  nest : t.nest = n
  inline : t.keyAllowed = inline
  flow : t.outerKeys = []
  key : (t.key.possible && t.key.required) = false

/-- The scanner comes to the next token, or to the end. -/
theorem exists_front (tail : List Char) (h : At s column inline behind
      (List.replicate k ' ' ++ (remark ++ tail))) (hends : EndsLine remark tail)
    (htail : ∀ c ∈ tail.head?, isBreak c = false) :
    ∃ t, s.front? = some t ∧ t.spot.rest = tail ∧
      Settled t (s.spot.skipMany (k + remark.length))
        (s.nest.close (column + (k + remark.length) : Nat)) inline := by
  have hline := lineRest_eq hends h.rest (s.inFlow || !s.keyAllowed)
  have hrest : (s.spot.skipMany (k + remark.length)).rest = tail := by
    have hsplit : s.spot.rest = (List.replicate k ' ' ++ remark) ++ tail := by
      rw [h.rest, List.append_assoc]
    simpa using Spot.rest_skipMany hsplit
  have hbreak : (s.spot.skipMany (k + remark.length)).next isBreak = false :=
    Spot.next_eq_false (by rwa [hrest])
  obtain ⟨key, hkey, hsettle⟩ :=
    exists_settle (s := s.goTo (s.spot.skipMany (k + remark.length))) h.flow h.key
  have hfront : s.front? = (s.goTo (s.spot.skipMany (k + remark.length))).settle? := by
    rw [front?, skipBlanks_succ, hline, hbreak]
    rfl
  refine ⟨_, hfront.trans hsettle, hrest, rfl, ?_, h.inline, h.flow, hkey⟩
  rw [← h.column]
  rfl

theorem removeKey_eq (hkey : (s.key.possible && s.key.required) = false) :
    s.removeKey = some { s with key := { s.key with possible := false } } := by
  rw [removeKey, hkey]
  rfl

/-- At the end the collections that are open are closed. -/
theorem finish_last (h : At s column inline behind (List.replicate k ' ' ++ remark))
    (hremark : IsRemark remark) : s.finish = some s.nest.finish := by
  obtain ⟨t, hfront, hrest, hsettled⟩ := exists_front []
    (by rwa [List.append_nil]) ⟨hremark, by simp, by simp⟩ (by simp)
  rw [finish_eq, hfront, Option.bind_some, if_pos hrest, resetBlocks, unroll_eq hsettled.flow,
    removeKey_eq (by simpa using hsettled.key), hsettled.nest, Nest.close_close (by omega)]
  rfl

end

/-! ### Dashes, keys and scalars -/

section

variable {t : Scan} {a : Spot} {n : Nest} {inline : Bool} {k : Nat} {text : List Char}

/-- A dash opens a sequence, unless it is open, and starts an item. -/
theorem exists_fetch_dash (h : Settled t a n true) (ha : a.rest = '-' :: text) (hgap : AtGap text)
    (hn : n.IsGrounded) (hindent : n.indent ≤ a.column) :
    ∃ u, t.fetch? = some u ∧ At u (a.column + 1) true (.mark a.column) text ∧
      u.nest = (n.enter a.column .blockSequenceStart).push .blockEntry := by
  obtain ⟨rfl, rfl, hinline, hflow, hkey⟩ := h
  have hmark : t.spot.atDocumentIndicator = false := by
    rcases atGap_iff.1 hgap with rfl | ⟨more, rfl⟩ | ⟨more, rfl⟩ <;>
      simp [Spot.atDocumentIndicator, ha]
  have hfetch : t.fetch? = t.fetchBlockEntry := by
    rw [fetch?, ha, List.head?_cons, Option.bind_some, fetchToken, hmark,
      blankOrEndAt_of_atGap ha hgap]
    simp
  rw [hfetch, fetchBlockEntry, hinline, roll_eq hflow]
  dsimp only
  rw [removeKey_eq (by simpa using hkey)]
  refine ⟨_, by simp; rfl, ?_, rfl⟩
  exact
    { rest := Spot.rest_skipMany (a := ['-']) ha
      column := rfl
      inline := rfl
      flow := hflow
      key := rfl
      grounded := hn.enter _ _
      mark := by
        rintro _ ⟨⟩
        exact Nest.indent_enter hindent _ }

theorem saveKey_eq (h : Settled t a n inline) : ∃ k, t.saveKey = some { t with key := k } ∧
    (inline = true →
      k = ⟨true, t.indent == a.column, t.tokens.size, a.index, a.line, a.column⟩) ∧
    (t.indent ≠ a.column → (k.possible && k.required) = false) := by
  obtain ⟨rfl, -, rfl, hflow, hkey⟩ := h
  rw [saveKey]
  split
  · rw [removeKey_eq hkey, inFlow_eq hflow]
    exact ⟨_, rfl, fun _ => rfl, fun hne => by simpa using hne⟩
  · next hinline => exact ⟨t.key, rfl, fun h => absurd h hinline, fun _ => hkey⟩

theorem readGap_spaces (indent : Option Nat) (g : Gap) (f : Nat)
    (ha : a.rest = List.replicate k ' ' ++ text) :
    ∃ g', g'.broken = g.broken ∧
      readGap indent (f + k) g a = readGap indent f g' (a.skipMany k) := by
  induction k generalizing a g with
  | zero => exact ⟨g, rfl, by rw [Spot.skipMany_zero]; rfl⟩
  | succ k ih =>
    rw [List.replicate_succ, List.cons_append] at ha
    have hskip : a.skip.rest = List.replicate k ' ' ++ text := Spot.rest_skipMany (a := [' ']) ha
    have hblank : a.next isSpaceOrTab = true := Spot.next_of_rest ha _
    have htab : a.next (· == '\t') = false := Spot.next_of_rest ha _
    rw [← Nat.add_assoc, readGap, hblank, htab, ← Spot.skip_skipMany]
    cases hg : g.broken with
    | true =>
      obtain ⟨g', hg', hread⟩ := ih g hskip
      exact ⟨g', hg'.trans hg, by simpa using hread⟩
    | false =>
      obtain ⟨g', hg', hread⟩ := ih { g with blanks := g.blanks ++ a.rest.take 1 } hskip
      exact ⟨g', hg'.trans hg, by simpa [hg] using hread⟩

/-- Blanks are read up to what is no blank and no line break. -/
theorem exists_readGap_stop (indent : Option Nat) (g : Gap) {f : Nat}
    (ha : a.rest = List.replicate k ' ' ++ text) (hf : a.rest.length < f)
    (hstop : ∀ c ∈ text.head?, isSpaceOrTab c = false ∧ isBreak c = false) :
    ∃ g', g'.broken = g.broken ∧ readGap indent f g a = some (g', a.skipMany k) ∧
      (a.skipMany k).rest = text := by
  have hrest : (a.skipMany k).rest = text := by
    simpa using Spot.rest_skipMany (a := List.replicate k ' ') ha
  obtain ⟨f, rfl⟩ : ∃ f', f = f' + 1 + k := by
    rw [ha] at hf
    simp only [List.length_append, List.length_replicate] at hf
    exact ⟨f - 1 - k, by omega⟩
  obtain ⟨g', hg', hread⟩ := readGap_spaces indent g (f + 1) ha
  have hblank : (a.skipMany k).next isSpaceOrTab = false :=
    Spot.next_eq_false fun c hc => (hstop c (hrest ▸ hc)).1
  have hbreak : (a.skipMany k).next isBreak = false :=
    Spot.next_eq_false fun c hc => (hstop c (hrest ▸ hc)).2
  refine ⟨g', hg', ?_, hrest⟩
  rw [hread, readGap, hblank, hbreak]
  rfl

theorem insert_append (s : Scan) (tokens : Array Token) (more : List Token) (token : Token)
    (h : s.tokens = tokens ++ more.toArray) :
    s.insert tokens.size token = { s with tokens := tokens ++ (token :: more).toArray } := by
  rw [insert, h]
  congr 1
  simp

/-- The colon shows that the token before it is a key. -/
theorem fetchValue_eq {s : Scan} {tokens : Array Token} {token : Token} {required : Bool}
    {index line column : Nat} (hflow : s.outerKeys = [])
    (hkey : s.key = ⟨true, required, tokens.size, index, line, column⟩)
    (htokens : s.tokens = tokens.push token) :
    ∃ u, s.fetchValue = some u ∧ u.spot = s.spot.skip ∧ u.keyAllowed = false ∧
      u.outerKeys = [] ∧ u.key.possible = false ∧
      u.nest = ((((⟨s.indent, s.outer, tokens⟩ : Nest).enter column .blockMappingStart).push
        .key).push token).push .value := by
  rw [fetchValue, hkey, if_pos rfl]
  dsimp only
  rw [insert_append s tokens [token] .key (by simp [htokens])]
  refine ⟨_, rfl, ?_⟩
  simp only [roll, inFlow, hflow, List.isEmpty_nil, Bool.not_true, Bool.false_or, decide_eq_true_eq,
    Nest.enter]
  by_cases h : s.indent ≥ column
  · rw [if_pos h, if_pos h]
    simp [push, nest, Nest.push, ← Array.toList_inj]
  · rw [if_neg h, if_neg h, insert_append _ tokens [.key, token] .blockMappingStart (by rfl)]
    simp [push, nest, Nest.push, ← Array.toList_inj]

theorem atDocumentIndicator_eq_false {rest name : List Char} {c : Char}
    (ha : a.rest = name ++ c :: rest) (hc : c = ' ' ∨ c = ':')
    (hmarker : a.column = 0 → startsMarker name = false) : a.atDocumentIndicator = false := by
  by_cases hcolumn : a.column = 0
  · have hmarker := hmarker hcolumn
    have htake : ∀ d, d = '-' ∨ d = '.' →
        (a.rest.take 3 == [d, d, d]) = (name.take 3 == [d, d, d]) := by
      intro d hd
      have hne : c ≠ d := by
        rcases hc with rfl | rfl <;> rcases hd with rfl | rfl <;> decide
      rw [ha]
      match name with
      | [] => simp [hne]
      | [x] => simp [hne]
      | [x, y] => simp [hne]
      | x :: y :: z :: more => rfl
    rw [Spot.atDocumentIndicator, htake _ (.inl rfl), htake _ (.inr rfl)]
    rw [startsMarker] at hmarker
    rw [hmarker, Bool.and_false]
  · exact atDocumentIndicator_of_column (by omega)

theorem byteSize_replicate (j : Nat) : Text.byteSize (List.replicate j ' ') = j := by
  induction j with
  | zero => rfl
  | succ j ih =>
    rw [List.replicate_succ, Text.byteSize_cons, ih, Nat.add_comm]
    rfl

/-- Behind a key and its blanks comes the colon. -/
theorem plainEnds_colon {indent j : Nat} (ha : a.rest = List.replicate j ' ' ++ ':' :: text)
    (hgap : AtGap text) : PlainEnds indent a (a.skipMany j) false := by
  obtain ⟨g, hg, hread, hcolon⟩ := exists_readGap_stop (some indent) {} ha
    (Nat.lt_succ_self _) (by simp [isSpaceOrTab, isBreak])
  refine ⟨?_, ⟨g, hread, hg⟩, .inr (.inr (.inr ⟨text, hcolon, hgap⟩))⟩
  rw [ha]
  cases j with
  | zero => exact .inr ⟨text, rfl, hgap⟩
  | succ j => exact .inl (by simp [AtGap, List.replicate_succ])

/-- The scanner behind a name that may be a key, after `length` characters. -/
def behindName (t : Scan) (length : Nat) (token : Token) : Scan :=
  { t with
    key :=
      ⟨true, t.indent == t.spot.column, t.tokens.size, t.spot.index, t.spot.line, t.spot.column⟩
    keyAllowed := false
    spot := t.spot.skipMany length }.push token

/-- Blanks between a name and its colon are skipped. -/
theorem front?_colon {v : Scan} (hv : v.spot.rest = List.replicate k ' ' ++ ':' :: text) :
    v.front? = (v.goTo (v.spot.skipMany k)).settle? := by
  have hends : EndsLine [] (':' :: text) :=
    ⟨by simp [IsRemark], by simp [isSpaceOrTab], by simp⟩
  have hline := lineRest_eq hends hv (v.inFlow || !v.keyAllowed)
  have hbreak : (v.spot.skipMany k).next isBreak = false := by
    have hcolon := Spot.rest_skipMany (a := List.replicate k ' ') hv
    rw [List.length_replicate] at hcolon
    exact Spot.next_of_rest hcolon _
  rw [List.length_nil, Nat.add_zero] at hline
  rw [front?, skipBlanks_succ, hline, hbreak]
  rfl

/-- The place behind a name and its blanks. -/
theorem skipMany_name {name : List Char} {j : Nat}
    (ha : a.rest = name ++ (List.replicate j ' ' ++ ':' :: text)) :
    (a.skipMany (name.length + j)).rest = ':' :: text ∧
      (a.skipMany (name.length + j)).index = a.index + (Text.byteSize name + j) := by
  have hlength : name.length + j = (name ++ List.replicate j ' ').length := by simp
  rw [← List.append_assoc] at ha
  refine ⟨by rw [hlength, Spot.rest_skipMany ha], ?_⟩
  simp only [Spot.skipMany, ha, hlength, List.take_left, Text.byteSize_append, byteSize_replicate]

section

variable {name : List Char} {token : Token} {j : Nat} (h : Settled t a n true)
  (ha : a.rest = name ++ (List.replicate j ' ' ++ ':' :: text)) (hname : LineScalar name token)
  (hmarker : a.column = 0 → startsMarker name = false) (hgap : AtGap text)
  (hindent : n.indent ≤ a.column)

include h ha hname hmarker hgap hindent

/-- The name is read as a scalar, and then the scanner comes to the colon. -/
theorem exists_fetch_name : ∃ v, t.fetch? = some v ∧
    v.front? = (t.behindName (name.length + j) token).settle? := by
  obtain ⟨key, hsave, hkey, -⟩ := saveKey_eq h
  replace hkey := hkey rfl
  obtain ⟨rfl, rfl, hinline, hflow, -⟩ := h
  subst hkey
  replace hindent : t.indent ≤ t.spot.column := hindent
  have hblanks := Spot.rest_skipMany ha
  have hmark : t.spot.atDocumentIndicator = false := by
    cases j with
    | zero => exact atDocumentIndicator_eq_false ha (.inr rfl) hmarker
    | succ j => exact atDocumentIndicator_eq_false ha (.inl rfl) hmarker
  obtain ⟨q, b, hq, hfetch⟩ := exists_fetch hname (inFlow_eq hflow) hsave ha hmark
    (plainEnds_colon hblanks hgap) (by omega)
  -- the scanner stops behind the name or behind the blanks
  rcases hq with ⟨rfl, rfl⟩ | ⟨rfl, rfl⟩
  · refine ⟨_, hfetch, (front?_colon hblanks).trans ?_⟩
    simp [goTo, push, behindName, Spot.skipMany_skipMany]
  · have hcolon := Spot.rest_skipMany (a := List.replicate j ' ') hblanks
    rw [List.length_replicate] at hcolon
    refine ⟨_, hfetch, (front?_colon (k := 0) hcolon).trans ?_⟩
    simp [goTo, push, behindName, Spot.skipMany_skipMany]

/-- A key opens a mapping, unless it is open. -/
theorem exists_fetch_key (hlength : Text.byteSize name + j ≤ maxKeyLength) (hn : n.IsGrounded) :
    ∃ u, t.fetch?.bind finish = u.finish ∧
      At u (a.column + (name.length + j + 1)) false (.mark a.column) text ∧
      u.nest = (((n.enter a.column .blockMappingStart).push .key).push token).push .value := by
  obtain ⟨v, hfetch, hfront⟩ := exists_fetch_name h ha hname hmarker hgap hindent
  obtain ⟨hcolon, hindex⟩ := skipMany_name ha
  obtain ⟨rfl, rfl, -, hflow, -⟩ := h
  replace hindent : t.indent ≤ t.spot.column := hindent
  let w := t.behindName (name.length + j) token
  have hfresh : freshKey? w.spot w.key = some w.key := by
    have hindex : w.spot.index = t.spot.index + (Text.byteSize name + j) := hindex
    rw [freshKey?, hindex, if_neg]
    simp [w, behindName, push, Spot.skipMany]
    omega
  have hsettle : w.settle? = some w := by
    have hclose : w.nest.close w.spot.column = w.nest := by
      refine Nest.close_of_le ?_
      change t.indent ≤ ((t.spot.column + (name.length + j) : Nat) : Int)
      omega
    have houter : w.outerKeys = [] := hflow
    rw [settle?, dropStaleKeys, hfresh, houter]
    refine congrArg some ((unroll_eq rfl _).trans ?_)
    change ({ w with outerKeys := [] } : Scan).withNest (w.nest.close w.spot.column) = w
    rw [hclose, ← houter]
    rfl
  obtain ⟨u, hvalue, hspot, hallowed, houter, hpossible, hnest⟩ :=
    fetchValue_eq (s := w) hflow rfl (show w.tokens = t.tokens.push token from rfl)
  have hstep : w.fetch? = some u := by
    have hrest : w.spot.rest = ':' :: text := hcolon
    have hmark : w.spot.atDocumentIndicator = false := by simp [Spot.atDocumentIndicator, hrest]
    rw [fetch?, hrest, List.head?_cons, Option.bind_some, fetchToken, hmark,
      blankOrEndAt_of_atGap hrest hgap]
    simpa using hvalue
  refine ⟨u, ?_, ?_, hnest⟩
  · rw [hfetch, Option.bind_some, finish_eq, hfront, hsettle, Option.bind_some,
      if_neg (by simp [show w.spot.rest = ':' :: text from hcolon]), hstep, Option.bind_some]
  · exact
      { rest := by
          rw [hspot]
          exact Spot.rest_skipMany (a := [':']) hcolon
        column := by
          rw [hspot]
          rfl
        inline := hallowed
        flow := houter
        key := by rw [hpossible, Bool.false_and]
        grounded := by
          rw [hnest]
          exact hn.enter _ _
        mark := by
          rintro _ ⟨⟩
          exact (congrArg Nest.indent hnest).trans (Nest.indent_enter hindent _) }

/-- Behind a name that is too long, the colon is an error. -/
theorem finish_long_key (hlength : maxKeyLength < Text.byteSize name + j) :
    t.fetch?.bind finish = none := by
  obtain ⟨v, hfetch, hfront⟩ := exists_fetch_name h ha hname hmarker hgap hindent
  obtain ⟨hcolon, hindex⟩ := skipMany_name ha
  obtain ⟨rfl, rfl, -, hflow, -⟩ := h
  let w := t.behindName (name.length + j) token
  have houter : w.outerKeys = [] := hflow
  have hstale : (w.key.possible && (w.key.line < w.spot.line ||
      w.key.index + maxKeyLength < w.spot.index)) = true := by
    have hindex : w.spot.index = t.spot.index + (Text.byteSize name + j) := hindex
    rw [hindex]
    simp [w, behindName, push]
    omega
  rw [hfetch, Option.bind_some, finish_eq, hfront]
  change w.settle?.bind _ = none
  rw [settle?, dropStaleKeys, freshKey?, if_pos hstale, houter]
  by_cases hrequired : w.key.required = true
  · rw [if_pos hrequired]
    rfl
  · rw [if_neg hrequired]
    -- the name is no longer taken for a key, and no key may start behind it
    obtain ⟨x, hx, hspot, hkey, hflow, hallowed⟩ : ∃ x : Scan,
        ({ w with key := { w.key with possible := false }, outerKeys := [] } : Scan).unroll
          w.spot.column = x ∧ x.spot = w.spot ∧ x.key.possible = false ∧ x.outerKeys = [] ∧
            x.keyAllowed = false := by
      refine ⟨_, rfl, ?_⟩
      rw [unroll_eq rfl]
      exact ⟨rfl, rfl, rfl, rfl⟩
    have hrest : x.spot.rest = ':' :: text := by
      rw [hspot]
      exact hcolon
    have hmark : x.spot.atDocumentIndicator = false := by simp [Spot.atDocumentIndicator, hrest]
    have hnone : x.fetch? = none := by
      rw [fetch?, hrest, List.head?_cons, Option.bind_some, fetchToken, hmark,
        blankOrEndAt_of_atGap hrest hgap]
      simp [fetchValue, hkey, inFlow, hflow, hallowed]
    change (some (({ w with key := { w.key with possible := false }, outerKeys := [] } :
      Scan).unroll w.spot.column)).bind _ = none
    rw [hx, Option.bind_some, if_neg (by simp [hrest]), hnone]
    rfl

end

/-! ### Scalars -/

/-- Behind a scalar the scanner reads on to where a plain scalar would end, and the same parts
follow from there. -/
theorem exists_readGap {short : Prop} {column : Nat} {behind : Behind} {parts : List Part}
    {limit : Nat} (h : Spells short column inline behind text parts)
    (hbehind : behind = .scalar limit)
    (ha : a.rest = text) (hcolumn : a.column = column) (g : Gap) (hg : g.broken = inline) {f : Nat}
    (hf : a.rest.length < f) :
    ∃ g' a', readGap (some (limit + 1)) f g a = some (g', a') ∧
      (a'.column < limit + 1 ∨ a'.rest = [] ∨ a'.next (· == '#') = true) ∧
      Spells short a'.column g'.broken behind a'.rest parts := by
  induction h generalizing a g f with
  | @last column inline behind remark k hremark =>
    obtain ⟨g', hg', hread, hrest⟩ := exists_readGap_stop (some (limit + 1)) g ha hf
      fun c hc => by
        rw [hremark.1 c hc]
        decide
    refine ⟨g', _, hread, .inr ?_, ?_⟩
    · cases remark with
      | nil => exact .inl hrest
      | cons c cs =>
        rw [Spot.next_of_rest hrest, hremark.1 c rfl]
        exact .inr rfl
    · rw [hrest]
      exact .last 0 hremark
  | @line column inline behind remark text parts k hremark h ih =>
    cases remark with
    | nil =>
      obtain ⟨f, rfl⟩ : ∃ f', f = f' + 1 + k := by
        rw [ha] at hf
        simp only [List.length_append, List.length_replicate] at hf
        exact ⟨f - 1 - k, by omega⟩
      obtain ⟨g', hg', hread⟩ := readGap_spaces (some (limit + 1)) g (f + 1) ha
      have hrest : (a.skipMany k).rest = '\n' :: text := by
        simpa using Spot.rest_skipMany (a := List.replicate k ' ') ha
      have hbreak := Spot.readBreak_break hrest (by decide) (by simp)
      -- the next line is read with a gap that has a break
      obtain ⟨g₁, hg₁, hstep⟩ : ∃ g₁ : Gap, g₁.broken = true ∧
          readGap (some (limit + 1)) (f + 1) g' (a.skipMany k) =
            readGap (some (limit + 1)) f g₁ (a.skipMany k).readBreak.2 := by
        rw [readGap, Spot.next_of_rest hrest isSpaceOrTab, Spot.next_of_rest hrest isBreak]
        cases hb : g'.broken with
        | true =>
          exact ⟨{ g' with more := g'.more ++ (a.skipMany k).readBreak.1 }, hb,
            by simp [isSpaceOrTab, isBreak, hb]⟩
        | false =>
          exact ⟨{ g' with blanks := [], first := (a.skipMany k).readBreak.1, broken := true }, rfl,
            by simp [isSpaceOrTab, isBreak]⟩
      rw [hread, hstep]
      refine ih hbehind (by rw [hbreak]) (by rw [hbreak]) g₁ hg₁ ?_
      rw [hbreak]
      rw [ha] at hf
      simp at hf
      dsimp only
      omega
    | cons c cs =>
      obtain ⟨g', hg', hread, hrest⟩ := exists_readGap_stop (some (limit + 1)) g ha hf
        fun d hd => by
          obtain rfl : c = d := by simpa using hd
          rw [hremark.1 c rfl]
          decide
      refine ⟨g', _, hread, .inr (.inr ?_), ?_⟩
      · rw [List.cons_append] at hrest
        rw [Spot.next_of_rest hrest, hremark.1 c rfl]
        rfl
      · rw [hrest]
        exact .line 0 hremark h
  | @dash column behind text parts k hbehind' hgap h ih =>
    obtain ⟨g', hg', hread, hrest⟩ := exists_readGap_stop (some (limit + 1)) g ha hf
      (by simp [isSpaceOrTab, isBreak])
    subst hbehind hcolumn
    refine ⟨g', _, hread, .inl (Nat.lt_succ_of_le hbehind'), ?_⟩
    rw [hrest, hg', hg]
    exact .dash 0 hbehind' hgap h
  | @key column behind name text token parts k j hname hlength hmarker hbehind' hgap h ih =>
    obtain ⟨g', hg', hread, hrest⟩ := exists_readGap_stop (some (limit + 1)) g ha hf
      fun d hd => by
        obtain ⟨c, cs, rfl, hline, hspace, -⟩ := hname.exists_cons
        obtain rfl : c = d := by simpa using hd
        exact ⟨isSpaceOrTab_of_isLineChar hline hspace, isBreak_of_isLineChar hline⟩
    subst hbehind hcolumn
    refine ⟨g', _, hread, .inl (Nat.lt_succ_of_le hbehind'), ?_⟩
    rw [hrest, hg', hg]
    exact .key 0 j hname hlength hmarker hbehind' hgap h
  | scalar => cases hbehind

/-- The scanner gives the token of a scalar behind a dash or a key, and stops at a place from where
the same parts follow. -/
theorem exists_fetch_scalar {short : Prop} {raw : List Char} {token : Token} {parts : List Part}
    {mark : Nat} (h : Settled t a n inline) (ha : a.rest = raw ++ text)
    (hraw : LineScalar raw token)
    (hmark : n.indent = mark) (hcolumn : mark < a.column) (hn : n.IsGrounded) (hgap : AtGap text)
    (hmore : Spells short (a.column + raw.length) false (.scalar mark) text parts) :
    ∃ u column inline' text', t.fetch? = some u ∧ At u column inline' (.scalar mark) text' ∧
      u.nest = n.push token ∧ Spells short column inline' (.scalar mark) text' parts ∧
      text'.length ≤ text.length := by
  obtain ⟨key, hsave, -, hkey⟩ := saveKey_eq h
  obtain ⟨rfl, rfl, rfl, hflow, -⟩ := h
  replace hmark : t.indent = mark := hmark
  have hrest := Spot.rest_skipMany ha
  have hend : (t.spot.skipMany raw.length).column = t.spot.column + raw.length := rfl
  obtain ⟨g, b, hread, hstops, hspells⟩ := exists_readGap hmore rfl hrest hend {} rfl
    (Nat.lt_succ_self _)
  have hindent : (t.indent + 1).toNat = mark + 1 := by omega
  have hends : PlainEnds (t.indent + 1).toNat (t.spot.skipMany raw.length) b g.broken := by
    rw [hindent]
    refine ⟨.inl (by rwa [hrest]), ⟨g, hread, rfl⟩, ?_⟩
    rcases hstops with h | h | h
    · exact .inl h
    · exact .inr (.inl h)
    · exact .inr (.inr (.inl h))
  obtain ⟨q, broken, hq, hfetch⟩ := exists_fetch hraw (inFlow_eq hflow) hsave ha
    (atDocumentIndicator_of_column (by omega)) hends (by omega)
  refine ⟨_, q.column, broken, q.rest, hfetch, ?_, rfl, ?_⟩
  · exact ⟨rfl, rfl, rfl, hflow, hkey (by omega), hn, nofun⟩
  · rcases hq with ⟨rfl, rfl⟩ | ⟨rfl, rfl⟩
    · rw [hrest]
      exact ⟨hmore, Nat.le_refl _⟩
    · exact ⟨hspells, hrest ▸ length_readGap hread⟩

/-! ### Whole texts -/

theorem exists_front_part {s : Scan} {column : Nat} {behind : Behind} {tail : List Char}
    (h : At s column inline behind (List.replicate k ' ' ++ tail))
    (htail : ∃ c cs, tail = c :: cs ∧ isLineChar c = true ∧ c ≠ ' ' ∧ c ≠ '#') :
    ∃ t, s.finish = t.fetch?.bind finish ∧ (s.spot.skipMany k).rest = tail ∧
      (s.spot.skipMany k).column = column + k ∧
      Settled t (s.spot.skipMany k) (s.nest.close (column + k : Nat)) inline := by
  obtain ⟨c, cs, rfl, hline, hspace, hhash⟩ := htail
  have hmark : c.toNat ≠ 0xfeff := by
    simp only [isLineChar, Bool.and_eq_true, bne_iff_ne] at hline
    exact hline.2
  obtain ⟨t, hfront, hrest, hsettled⟩ := exists_front (c :: cs)
    (show At s column inline behind (List.replicate k ' ' ++ ([] ++ (c :: cs))) from h)
    ⟨by simp [IsRemark], by simp [isSpaceOrTab_of_isLineChar hline hspace, hhash, hmark], by simp⟩
    (by simp [isBreak_of_isLineChar hline])
  refine ⟨t, ?_, hsettled.spot ▸ hrest, congrArg (· + k) h.column, hsettled⟩
  rw [finish_eq, hfront, Option.bind_some, if_neg (by simp [hrest])]

end

/-- From every place of a text the scanner gives the tokens of the parts that follow, or fails at a
name that is too long. The induction is on the length of the text, because a plain scalar takes the
blank lines behind it along. -/
theorem finish_of_spells {short : Prop} {column : Nat} {inline : Bool} {behind : Behind}
    {text : List Char} {parts : List Part} (h : Spells short column inline behind text parts)
    {s : Scan} (hs : At s column inline behind text) :
    s.finish = some (parts.foldl Nest.add s.nest).finish ∨ ¬short ∧ s.finish = none := by
  induction hlength : text.length using Nat.strongRecOn
    generalizing column inline behind text parts s with
  | _ length ih =>
    subst hlength
    cases h with
    | last k hremark => exact .inl (finish_last hs hremark)
    | line k hremark h =>
      obtain ⟨t, ht, hnest, hfinish⟩ := exists_finish_line hs hremark
      rw [hfinish, ← hnest]
      exact ih _ (by simp; omega) h ht rfl
    | @dash _ _ text parts k hbehind hgap h =>
      obtain ⟨t, hfinish, hrest, hcolumn, hsettled⟩ :=
        exists_front_part hs ⟨'-', text, rfl, by decide, by decide, by decide⟩
      obtain ⟨u, hfetch, hu, hnest⟩ := exists_fetch_dash hsettled hrest hgap
        (hs.grounded.close (by omega)) (by
          rw [hcolumn]
          exact hs.grounded.indent_close_le (by omega))
      rw [hcolumn] at hu hnest
      have hmore := ih _ (by simp; omega) h hu rfl
      rw [hnest] at hmore
      rw [hfinish, hfetch]
      exact hmore
    | @key _ _ name text token parts k j hname hlength hmarker hbehind hgap h =>
      obtain ⟨c, cs, hcons, hstart⟩ := hname.exists_cons
      obtain ⟨t, hfinish, hrest, hcolumn, hsettled⟩ :=
        exists_front_part hs ⟨c, _, by rw [hcons]; rfl, hstart⟩
      have hindent : (s.nest.close (column + k : Nat)).indent ≤ (s.spot.skipMany k).column := by
        rw [hcolumn]
        exact hs.grounded.indent_close_le (by omega)
      rw [hfinish]
      by_cases hlong : maxKeyLength < Text.byteSize name + j
      · refine .inr ⟨fun hshort => ?_, ?_⟩
        · exact absurd (hlength hshort) (by omega)
        · exact finish_long_key hsettled hrest hname (by rwa [hcolumn]) hgap hindent hlong
      · obtain ⟨u, hfetch, hu, hnest⟩ := exists_fetch_key hsettled hrest hname (by rwa [hcolumn])
          hgap hindent (by omega) (hs.grounded.close (by omega))
        rw [hcolumn] at hu hnest
        have hmore := ih _ (by simp; omega) h hu rfl
        rw [hnest] at hmore
        rw [hfetch]
        exact hmore
    | @scalar _ mark _ raw text token parts k hraw hmark hgap h =>
      obtain ⟨c, cs, hcons, hstart⟩ := hraw.exists_cons
      obtain ⟨t, hfinish, hrest, hcolumn, hsettled⟩ :=
        exists_front_part hs ⟨c, _, by rw [hcons]; rfl, hstart⟩
      have hindent : s.nest.indent = mark := hs.mark mark rfl
      rw [Nest.close_of_le (by rw [hindent]; omega)] at hsettled
      obtain ⟨u, _, _, text', hfetch, hu, hnest, hspells, hle⟩ := exists_fetch_scalar hsettled hrest
        hraw hindent (by rwa [hcolumn]) hs.grounded hgap (by rwa [hcolumn])
      have hshorter : text'.length < (List.replicate k ' ' ++ (raw ++ text)).length := by
        rw [hcons]
        simp
        omega
      have hmore := ih _ hshorter hspells hu rfl
      rw [hnest] at hmore
      rw [hfinish, hfetch]
      exact hmore

end Scan

theorem allowed_of_spells {short : Prop} {column : Nat} {inline : Bool} {behind : Behind}
    {text : List Char} {parts : List Part} (h : Spells short column inline behind text parts) :
    ∀ c ∈ text, isAllowed c = true := by
  have hblank (k : Nat) : ∀ c ∈ List.replicate k ' ', isAllowed c = true := fun c hc => by
    rw [List.eq_of_mem_replicate hc]
    decide
  have hjoin {a b : List Char} (ha : ∀ c ∈ a, isAllowed c = true)
      (hb : ∀ c ∈ b, isAllowed c = true) : ∀ c ∈ a ++ b, isAllowed c = true := fun c hc =>
    (List.mem_append.1 hc).elim (ha c) (hb c)
  have hcons {d : Char} {b : List Char} (hd : isAllowed d = true)
      (hb : ∀ c ∈ b, isAllowed c = true) : ∀ c ∈ d :: b, isAllowed c = true := fun c hc =>
    (List.mem_cons.1 hc).elim (fun heq => heq ▸ hd) (hb c)
  have hscalar {raw : List Char} {token : Token} (h : LineScalar raw token) :
      ∀ c ∈ raw, isAllowed c = true := fun c hc => isAllowed_of_isLineChar (h.isLineChar c hc)
  induction h with
  | last k hremark => exact hjoin (hblank k) fun c hc => (hremark.2 c hc).1
  | line k hremark h ih =>
    exact hjoin (hblank k) (hjoin (fun c hc => (hremark.2 c hc).1) (hcons (by decide) ih))
  | dash k _ _ _ ih => exact hjoin (hblank k) (hcons (by decide) ih)
  | key k j hname _ _ _ _ _ ih =>
    exact hjoin (hblank k) (hjoin (hscalar hname) (hjoin (hblank j) (hcons (by decide) ih)))
  | scalar k hraw _ _ _ ih => exact hjoin (hblank k) (hjoin (hscalar hraw) ih)

/-- The tokens of a text depend on its parts alone. Only a name that is too long is an error. -/
theorem scan?_of_spells {short : Prop} {text : List Char} {parts : List Part}
    (h : Spells short 0 true .nothing text parts) :
    scan? text = some (parts.foldl Nest.add {}).finish.toList ∨ ¬short ∧ scan? text = none := by
  have hallowed : text.all isAllowed = true := List.all_eq_true.2 (allowed_of_spells h)
  have hat : Scan.At { spot := { rest := text } } 0 true .nothing text :=
    ⟨rfl, rfl, rfl, rfl, rfl, rfl, nofun⟩
  rw [scan?, if_pos hallowed]
  change (Scan.finish { spot := { rest := text } }).map _ = _ ∨
    _ ∧ (Scan.finish { spot := { rest := text } }).map _ = _
  refine (Scan.finish_of_spells h hat).imp (fun hfinish => ?_) fun ⟨hlong, hfinish⟩ => ⟨hlong, ?_⟩
  · rw [hfinish]
    rfl
  · rw [hfinish]
    rfl

end ManifestMarkers.Yaml
