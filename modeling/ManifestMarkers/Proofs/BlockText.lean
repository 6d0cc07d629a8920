import ManifestMarkers.Manifest
import ManifestMarkers.Proofs.ManifestCanonical

/-!
# The text of a block scalar

The lines of a block scalar are lines of text, all at one indentation, with blank lines above each
of them and behind the last one.

* `TextLine`, `BlockSource`: such lines, and a scalar made of them with its header.
* `readBlockBreaks_blanks`, `readBlockLines_after`: what the scanner reads of them.
* `exists_readBlock`: the text of the scalar.
-/

namespace ManifestMarkers.Manifest.Canonical

open Yaml (Spot BlockHeader Chomping isBreak isSpaceOrTab)

/-! ### Lines -/

/-- A line of text with the widths of the blank lines above it. -/
structure TextLine where
  blanks : List Nat
  text : List Char

/-- Blank lines of the given widths. -/
def blankRows (widths : List Nat) : List Row := widths.map fun w => ⟨w, []⟩

/-- A line of text at an indentation, and the blank lines above it. -/
def TextLine.rows (indent : Nat) (l : TextLine) : List Row := blankRows l.blanks ++ [⟨indent, l.text⟩]

/-- Line feeds. -/
def feeds (n : Nat) : List Char := List.replicate n '\n'

/-- The blank lines above a line are no wider than the indentation, and the line has text without
line breaks. -/
structure TextLine.Fits (indent : Nat) (l : TextLine) : Prop where
  blanks : ∀ w ∈ l.blanks, w ≤ indent
  ne_nil : l.text ≠ []
  oneLine : ∀ c ∈ l.text, isBreak c = false

/-- Some character of the line is no blank. -/
def TextLine.IsVisible (l : TextLine) : Prop := ∃ c ∈ l.text, Text.isBlank c = false

/-- Whether a text starts with a space or a tab. -/
def startsBlank (text : List Char) : Bool := text.head?.any isSpaceOrTab

/-! ### Breaks -/

/-- What stands behind `j` spaces is no blank line, and neither a space nor a tab unless the
indentation is complete. -/
def StopsAt (indent j : Nat) (rest : List Char) : Prop :=
  (j = indent ∧ indent ≠ 0 ∧ ∀ c ∈ rest.head?, isBreak c = false) ∨
    (indent = 0 ∨ j < indent) ∧ ∀ c ∈ rest.head?, isBreak c = false ∧ isSpaceOrTab c = false

theorem takeWhile_spaces (j : Nat) (rest : List Char) :
    ((spaces j ++ rest).takeWhile (· == ' ')).length = j + (rest.takeWhile (· == ' ')).length := by
  rw [List.takeWhile_append_of_pos]
  · simp [spaces]
  · intro c hc
    simpa using List.eq_of_mem_replicate hc

theorem takeWhile_eq_nil {rest : List Char} (h : ∀ c ∈ rest.head?, isSpaceOrTab c = false) :
    rest.takeWhile (· == ' ') = [] := by
  cases rest with
  | nil => rfl
  | cons c cs =>
    have hc := h c rfl
    have hspace : (c == ' ') = false := by
      rw [isSpaceOrTab, Bool.or_eq_false_iff] at hc
      exact hc.1
    simp [hspace]

theorem next_eq (s : Spot) (p : Char → Bool) : s.next p = s.rest.head?.any p := by
  unfold Spot.next
  cases s.rest <;> rfl

/-- The indentation of a line is skipped. -/
theorem readBlockBreaks_stop {indent j : Nat} {rest : List Char} (h : StopsAt indent j rest)
    {s : Spot} (hs : s.rest = spaces j ++ rest) (hcolumn : s.column = 0) (fuel widest : Nat)
    (breaks : List Char) :
    ∃ s', Yaml.readBlockBreaks indent (fuel + 1) widest breaks s =
      some (max widest j, breaks, s') ∧ s'.rest = rest ∧ s'.column = j := by
  have hroom : (if indent = 0 then (s.rest.takeWhile (· == ' ')).length
      else min (s.rest.takeWhile (· == ' ')).length (indent - s.column)) = j := by
    rw [hs, hcolumn, takeWhile_spaces]
    rcases h with ⟨rfl, hne, -⟩ | ⟨hj, hrest⟩
    · rw [if_neg hne]
      omega
    · rw [takeWhile_eq_nil fun c hc => (hrest c hc).2]
      split
      · simp
      · simp only [List.length_nil]
        omega
  have hskip : (s.skipMany j).rest = rest := by simp [Spot.skipMany, hs, spaces]
  have hcol : (s.skipMany j).column = j := by simp [Spot.skipMany, hcolumn]
  have hbreak : (s.skipMany j).next isBreak = false := by
    rw [next_eq, hskip, Option.any_eq_false]
    rcases h with ⟨-, -, hrest⟩ | ⟨-, hrest⟩
    · exact hrest
    · exact fun c hc => (hrest c hc).1
  have htab : ((indent == 0 || decide (j < indent)) && (s.skipMany j).next (· == '\t')) = false := by
    rcases h with ⟨rfl, hne, -⟩ | ⟨-, hrest⟩
    · simp [hne]
    · have hnext : (s.skipMany j).next (· == '\t') = false := by
        rw [next_eq, hskip, Option.any_eq_false]
        intro c hc
        have hblank := (hrest c hc).2
        rw [isSpaceOrTab, Bool.or_eq_false_iff] at hblank
        simpa using hblank.2
      rw [hnext, Bool.and_false]
  refine ⟨s.skipMany j, ?_, hskip, hcol⟩
  unfold Yaml.readBlockBreaks
  simp only [beq_iff_eq, hroom, hcol, htab, hbreak, Bool.false_eq_true, if_false]

/-- A blank line is read as one line feed. -/
theorem readBlockBreaks_blank {indent w : Nat} (hw : indent = 0 ∨ w ≤ indent) {more : List Char}
    {s : Spot} (hs : s.rest = spaces w ++ '\n' :: more) (hcolumn : s.column = 0)
    (fuel widest : Nat) (breaks : List Char) :
    ∃ s', Yaml.readBlockBreaks indent (fuel + 1) widest breaks s =
        Yaml.readBlockBreaks indent fuel (max widest w) (breaks ++ ['\n']) s' ∧
      s'.rest = more ∧ s'.column = 0 := by
  have hroom : (if indent = 0 then (s.rest.takeWhile (· == ' ')).length
      else min (s.rest.takeWhile (· == ' ')).length (indent - s.column)) = w := by
    rw [hs, hcolumn, takeWhile_spaces, takeWhile_eq_nil (by rintro c ⟨⟩; rfl)]
    split
    · simp
    · simp only [List.length_nil]
      omega
  have hskip : (s.skipMany w).rest = '\n' :: more := by simp [Spot.skipMany, hs, spaces]
  have hcol : (s.skipMany w).column = w := by simp [Spot.skipMany, hcolumn]
  have hbreak : (s.skipMany w).next isBreak = true := by rw [next_eq, hskip]; rfl
  have htab : (s.skipMany w).next (· == '\t') = false := by rw [next_eq, hskip]; rfl
  have hread : (s.skipMany w).readBreak =
      (['\n'], ⟨more, (s.skipMany w).index + 1, (s.skipMany w).line + 1, 0⟩) := by
    unfold Spot.readBreak
    rw [hskip]
    rfl
  refine ⟨⟨more, (s.skipMany w).index + 1, (s.skipMany w).line + 1, 0⟩, ?_, rfl, rfl⟩
  conv_lhs => unfold Yaml.readBlockBreaks
  simp only [beq_iff_eq, hroom, hcol, htab, hbreak, hread, Bool.and_false, Bool.false_eq_true,
    if_false, if_true]

theorem feeds_succ (n : Nat) : feeds (n + 1) = '\n' :: feeds n := rfl

/-- Blank lines are read as line feeds, up to the indentation of the line behind them. -/
theorem readBlockBreaks_blanks {indent j : Nat} {ws : List Nat}
    (hws : indent = 0 ∨ ∀ w ∈ ws, w ≤ indent) {rest : List Char} (h : StopsAt indent j rest)
    {s : Spot} (hs : s.rest = rowsText (blankRows ws) ++ (spaces j ++ rest)) (hcolumn : s.column = 0)
    {fuel : Nat} (hfuel : ws.length < fuel) (widest : Nat) (breaks : List Char) :
    ∃ s', Yaml.readBlockBreaks indent fuel widest breaks s =
        some (max (ws.foldl max widest) j, breaks ++ feeds ws.length, s') ∧
      s'.rest = rest ∧ s'.column = j := by
  obtain ⟨fuel, rfl⟩ : ∃ f, fuel = f + 1 := ⟨fuel - 1, by omega⟩
  induction ws generalizing s fuel widest breaks with
  | nil =>
    simpa [feeds] using readBlockBreaks_stop h hs hcolumn fuel widest breaks
  | cons w ws ih =>
    have hs : s.rest = spaces w ++ '\n' :: (rowsText (blankRows ws) ++ (spaces j ++ rest)) := by
      simpa [blankRows, rowsText, Row.chars] using hs
    obtain ⟨s₁, hstep, hs₁, hcolumn₁⟩ :=
      readBlockBreaks_blank (hws.imp_right fun h => h w (by simp)) hs hcolumn fuel widest breaks
    obtain ⟨fuel, rfl⟩ : ∃ f, fuel = f + 1 := ⟨fuel - 1, by simp at hfuel; omega⟩
    obtain ⟨s₂, hread, hs₂, hcolumn₂⟩ := ih (hws.imp_right fun h v hv => h v (by simp [hv])) hs₁
      hcolumn₁ (max widest w) (breaks ++ ['\n']) fuel (by simpa using hfuel)
    refine ⟨s₂, ?_, hs₂, hcolumn₂⟩
    rw [hstep, hread]
    simp [feeds_succ]

/-! ### Lines of text -/

/-- What stands for the end of a line before the blank lines and a further line. -/
def lineEnd (literal : Bool) (first : List Char) (wasBlank : Bool) (more line : List Char) :
    List Char :=
  if !literal && first == ['\n'] && !wasBlank && !startsBlank line then
    if more.isEmpty then [' '] else []
  else first

/-- The text between two lines of a block scalar. -/
def lineGap (literal : Bool) (above : List Char) (l : TextLine) : List Char :=
  lineEnd literal ['\n'] (startsBlank above) (feeds l.blanks.length) l.text ++
    feeds l.blanks.length

/-- Lines below another one, with what is between them. -/
def joinLines (gap : List Char → TextLine → List Char) (above : List Char) :
    List TextLine → List Char
  | [] => []
  | l :: lines => gap above l ++ l.text ++ joinLines gap l.text lines

/-- The rows of lines of text, with blank lines behind them. -/
def bodyRows (indent : Nat) (lines : List TextLine) (trail : List Nat) : List Row :=
  lines.flatMap (TextLine.rows indent) ++ blankRows trail

/-- A line of text is read up to its end. -/
theorem readBlockLines_text {indent : Nat} {line more : List Char}
    (hline : ∀ c ∈ line, isBreak c = false) {s : Spot} (hs : s.rest = line ++ '\n' :: more)
    (hcolumn : s.column = indent) (literal : Bool) (fuel : Nat) (text first breaks : List Char)
    (wasBlank : Bool) :
    ∃ s', s'.rest = more ∧ s'.column = 0 ∧
      Yaml.readBlockLines literal indent (fuel + 1) text first breaks wasBlank s =
        match Yaml.readBlockBreaks indent (s'.rest.length + 1) 0 [] s' with
        | none => none
        | some (_, breaks', s) => Yaml.readBlockLines literal indent fuel
            (text ++ lineEnd literal first wasBlank breaks line ++ breaks ++ line) ['\n'] breaks'
            (startsBlank line) s := by
  have hread : s.readWhile (!isBreak ·) = (line, s.skipMany line.length) := by
    have htake : s.rest.takeWhile (!isBreak ·) = line := by
      rw [hs, List.takeWhile_append_of_pos (by simpa using hline)]
      simp [isBreak]
    rw [Spot.readWhile, htake]
  have hskip : (s.skipMany line.length).rest = '\n' :: more := by simp [Spot.skipMany, hs]
  have hbreak : (s.skipMany line.length).readBreak =
      (['\n'], ⟨more, (s.skipMany line.length).index + 1, (s.skipMany line.length).line + 1, 0⟩) := by
    unfold Spot.readBreak
    rw [hskip]
    rfl
  have hblank : s.next isSpaceOrTab = startsBlank line := by
    rw [next_eq, hs, startsBlank]
    cases line <;> rfl
  have hne : (s.column == indent && !s.rest.isEmpty) = true := by simp [hcolumn, hs]
  refine ⟨⟨more, (s.skipMany line.length).index + 1, (s.skipMany line.length).line + 1, 0⟩, rfl, rfl,
    ?_⟩
  conv_lhs => unfold Yaml.readBlockLines
  simp only [hne, if_true, hread, hbreak, hblank, lineEnd]
  all_goals rfl

theorem length_le_rowsText (rows : List Row) : rows.length ≤ (rowsText rows).length := by
  induction rows with
  | nil => simp
  | cons row rows ih =>
    simp only [rowsText, List.flatMap_cons, List.length_append, List.length_cons] at ih ⊢
    omega

/-- There are fewer blank lines than steps to read them. -/
theorem length_blanks_lt {ws : List Nat} {more : List Char} {s : Spot}
    (hs : s.rest = rowsText (blankRows ws) ++ more) : ws.length < s.rest.length + 1 := by
  have hle := length_le_rowsText (blankRows ws)
  rw [blankRows, List.length_map, ← blankRows] at hle
  rw [hs, List.length_append]
  omega

theorem length_le_bodyRows (indent : Nat) (lines : List TextLine) (trail : List Nat) :
    lines.length ≤ (bodyRows indent lines trail).length := by
  induction lines with
  | nil => simp
  | cons l lines ih =>
    simp only [bodyRows, List.flatMap_cons, List.length_append, TextLine.rows, List.length_cons,
      List.length_nil] at ih ⊢
    omega

theorem foldl_max_le {ws : List Nat} {a m : Nat} (ha : a ≤ m) (hws : ∀ w ∈ ws, w ≤ m) :
    ws.foldl max a ≤ m := by
  induction ws generalizing a with
  | nil => exact ha
  | cons w ws ih =>
    exact ih (max_le ha (hws w (by simp))) fun v hv => hws v (by simp [hv])

section

variable {indent : Nat}

theorem TextLine.Fits.exists_cons {l : TextLine} (h : l.Fits indent) :
    ∃ c cs, l.text = c :: cs ∧ isBreak c = false := by
  obtain ⟨c, cs, hcs⟩ := List.exists_cons_of_ne_nil h.ne_nil
  exact ⟨c, cs, hcs, h.oneLine c (by simp [hcs])⟩

/-- The text of the rows starts with the blank lines above the first line. -/
theorem rowsText_bodyRows_cons (l : TextLine) (lines : List TextLine) (trail : List Nat) :
    rowsText (bodyRows indent (l :: lines) trail) = rowsText (blankRows l.blanks) ++
      (spaces indent ++ (l.text ++ '\n' :: rowsText (bodyRows indent lines trail))) := by
  simp [bodyRows, TextLine.rows, rowsText, Row.chars]

theorem TextLine.Fits.stopsAt {l : TextLine} (h : l.Fits indent) (hindent : indent ≠ 0)
    (more : List Char) : StopsAt indent indent (l.text ++ more) := by
  obtain ⟨c, cs, hcs, hc⟩ := h.exists_cons
  refine .inl ⟨rfl, hindent, ?_⟩
  simp [hcs, hc]

/-- A block scalar ends at a line with less indentation, or with the text. -/
structure Leaves (indent j : Nat) (rest : List Char) : Prop where
  lt : j < indent
  head : ∀ c ∈ rest.head?, isBreak c = false ∧ isSpaceOrTab c = false

/-- The further lines of a scalar are read, and the blank lines behind them. -/
theorem readBlockLines_after (hindent : indent ≠ 0) {lines : List TextLine}
    (hlines : ∀ l ∈ lines, l.Fits indent) {trail : List Nat} (htrail : ∀ w ∈ trail, w ≤ indent)
    {j : Nat} {rest : List Char} (hrest : Leaves indent j rest) {s : Spot}
    (hs : s.rest = rowsText (bodyRows indent lines trail) ++ (spaces j ++ rest))
    (hcolumn : s.column = 0) (literal : Bool) {fuel : Nat} (hfuel : lines.length < fuel)
    (text above : List Char) :
    ∃ s', (match Yaml.readBlockBreaks indent (s.rest.length + 1) 0 [] s with
        | none => none
        | some (_, breaks, s) =>
          Yaml.readBlockLines literal indent fuel text ['\n'] breaks (startsBlank above) s) =
        some (text ++ joinLines (lineGap literal) above lines, ['\n'], feeds trail.length, s') ∧
      s'.rest = rest ∧ s'.column = j := by
  induction lines generalizing s fuel text above with
  | nil =>
    have hs : s.rest = rowsText (blankRows trail) ++ (spaces j ++ rest) := by simpa [bodyRows] using hs
    obtain ⟨s₁, hread, hs₁, hcolumn₁⟩ := readBlockBreaks_blanks (.inr htrail)
      (.inr ⟨.inr hrest.lt, hrest.head⟩) hs hcolumn (length_blanks_lt hs) 0 []
    obtain ⟨fuel, rfl⟩ : ∃ f, fuel = f + 1 := ⟨fuel - 1, by omega⟩
    have hne : (s₁.column == indent) = false := by
      have hlt := hrest.lt
      simp only [hcolumn₁, beq_eq_false_iff_ne]
      omega
    refine ⟨s₁, ?_, hs₁, hcolumn₁⟩
    unfold Yaml.readBlockLines
    simp only [hread, hne, Bool.false_and, Bool.false_eq_true, if_false, joinLines, List.append_nil,
      List.nil_append]
  | cons l lines ih =>
    obtain ⟨hl, hlines⟩ := List.forall_mem_cons.1 hlines
    rw [rowsText_bodyRows_cons, List.append_assoc, List.append_assoc, List.append_assoc,
      List.cons_append] at hs
    obtain ⟨s₁, hread, hs₁, hcolumn₁⟩ := readBlockBreaks_blanks (.inr hl.blanks)
      (hl.stopsAt hindent _) hs hcolumn (length_blanks_lt hs) 0 []
    obtain ⟨fuel, rfl⟩ : ∃ f, fuel = f + 1 := ⟨fuel - 1, by omega⟩
    obtain ⟨s₂, hs₂, hcolumn₂, hline⟩ := readBlockLines_text hl.oneLine hs₁ hcolumn₁ literal fuel text
      ['\n'] (feeds l.blanks.length) (startsBlank above)
    obtain ⟨s₃, hmore, hs₃, hcolumn₃⟩ := ih hlines hs₂ hcolumn₂ (by simpa using hfuel)
      (text ++ lineEnd literal ['\n'] (startsBlank above) (feeds l.blanks.length) l.text ++
        feeds l.blanks.length ++ l.text) l.text
    refine ⟨s₃, ?_, hs₃, hcolumn₃⟩
    simp only [hread, List.nil_append, hline]
    refine hmore.trans ?_
    simp [joinLines, lineGap]

end

/-! ### Headers -/

/-- A chomping indicator. -/
def chompingText : Chomping → List Char
  | .strip => ['-']
  | .clip => []
  | .keep => ['+']

/-- An indentation indicator: a digit that is not zero. -/
def incrementText : Option (Fin 9) → List Char
  | none => []
  | some i => [Nat.digitChar (i.val + 1)]

/-- A block scalar: its header and comment, the lines of text and the widths of the blank lines
behind them. -/
structure BlockSource where
  literal : Bool
  chomping : Chomping
  increment : Option (Fin 9)
  /-- Whether the chomping indicator stands before the indentation indicator. -/
  chompingFirst : Bool
  comment : Option Comment
  indent : Nat
  lines : List TextLine
  trail : List Nat

namespace BlockSource

/-- The indicators behind the sign of the scalar. -/
def indicators (b : BlockSource) : List Char :=
  if b.chompingFirst then chompingText b.chomping ++ incrementText b.increment
  else incrementText b.increment ++ chompingText b.chomping

/-- The header without its comment. -/
def header (b : BlockSource) : List Char := (if b.literal then '|' else '>') :: b.indicators

/-- The rows of the scalar. -/
def rows (b : BlockSource) : List Row := bodyRows b.indent b.lines b.trail

/-- What an indentation indicator stands for. -/
def incrementOf (b : BlockSource) : Option Nat := b.increment.map fun i => i.val + 1

end BlockSource

/-- Characters that may stand behind an indentation indicator. -/
def isIndicatorEnd (c : Char) : Bool := c == ' ' || c == '\n' || c == '+' || c == '-'

section

variable {s : Spot} {c : Char} {rest : List Char}

theorem rest_skip (hs : s.rest = c :: rest) : s.skip.rest = rest := by
  simp [Spot.skip, Spot.skipMany, hs]

theorem exists_readChomping (chomping : Chomping) (hc : c ≠ '+' ∧ c ≠ '-')
    (hs : s.rest = chompingText chomping ++ c :: rest) :
    ∃ s', Yaml.readChomping s = (if chomping = .clip then none else some chomping, s') ∧
      s'.rest = c :: rest := by
  cases chomping with
  | strip => exact ⟨s.skip, by simp [Yaml.readChomping, hs, chompingText], rest_skip hs⟩
  | clip => exact ⟨s, by simp [Yaml.readChomping, hs, chompingText, hc], hs⟩
  | keep => exact ⟨s.skip, by simp [Yaml.readChomping, hs, chompingText], rest_skip hs⟩

theorem digitChar_spec (i : Fin 9) :
    ((Nat.digitChar (i.val + 1) == '0') = false ∧ (Nat.digitChar (i.val + 1)).isDigit = true ∧
      (Nat.digitChar (i.val + 1)).toNat - '0'.toNat = i.val + 1) ∧
    Nat.digitChar (i.val + 1) ≠ '+' ∧ Nat.digitChar (i.val + 1) ≠ '-' := by
  revert i
  decide

theorem exists_readIncrement (increment : Option (Fin 9)) (hc : isIndicatorEnd c = true)
    (hs : s.rest = incrementText increment ++ c :: rest) :
    ∃ s', Yaml.readIncrement s = some (increment.map fun i => i.val + 1, s') ∧
      s'.rest = c :: rest := by
  cases increment with
  | none =>
    have hzero : (c == '0') = false := by simpa using ne_of_test hc (by decide)
    have hdigit : c.isDigit = false := by
      simp only [isIndicatorEnd, Bool.or_eq_true, beq_iff_eq] at hc
      rcases hc with ((rfl | rfl) | rfl) | rfl <;> rfl
    have hs : s.rest = c :: rest := hs
    refine ⟨s, ?_, hs⟩
    unfold Yaml.readIncrement
    simp only [hs, hzero, hdigit, Bool.false_eq_true, if_false, Option.map_none]
  | some i =>
    obtain ⟨⟨hzero, hdigit, hvalue⟩, -⟩ := digitChar_spec i
    have hs : s.rest = Nat.digitChar (i.val + 1) :: c :: rest := hs
    refine ⟨s.skip, ?_, rest_skip hs⟩
    unfold Yaml.readIncrement
    simp only [hs, hzero, hdigit, hvalue, Bool.false_eq_true, if_false, if_true, Option.map_some]

/-- A blank or a line feed ends the indicators. -/
theorem exists_readIndicators (b : BlockSource) (hc : c = ' ' ∨ c = '\n')
    (hs : s.rest = b.indicators ++ c :: rest) :
    ∃ s', Yaml.readIndicators s = some (⟨b.chomping, b.incrementOf⟩, s') ∧ s'.rest = c :: rest := by
  have hend : isIndicatorEnd c = true ∧ c ≠ '+' ∧ c ≠ '-' := by
    rcases hc with rfl | rfl <;> decide
  unfold BlockSource.indicators at hs
  unfold Yaml.readIndicators BlockSource.incrementOf
  obtain ⟨d, ds, hds, hd⟩ : ∃ d ds, incrementText b.increment ++ c :: rest = d :: ds ∧
      d ≠ '+' ∧ d ≠ '-' := by
    cases b.increment with
    | none => exact ⟨c, rest, rfl, hend.2⟩
    | some i => exact ⟨_, _, rfl, (digitChar_spec i).2⟩
  by_cases hclip : b.chomping = .clip
  · have hs : s.rest = chompingText .clip ++ d :: ds := by
      rw [← hds]
      cases b.chompingFirst <;> simpa [hclip, chompingText] using hs
    obtain ⟨s₁, hchomping, hs₁⟩ := exists_readChomping .clip hd hs
    obtain ⟨s₂, hincrement, hs₂⟩ := exists_readIncrement b.increment hend.1 (hs₁.trans hds.symm)
    obtain ⟨s₃, hchomping', hs₃⟩ := exists_readChomping .clip hend.2 hs₂
    cases hb : b.increment with
    | none => exact ⟨s₂, by simp [hchomping, hincrement, hb, hclip], hs₂⟩
    | some i => exact ⟨s₃, by simp [hchomping, hincrement, hb, hchomping', hclip], hs₃⟩
  · by_cases hfirst : b.chompingFirst = true ∨ b.increment = none
    · have hs : s.rest = chompingText b.chomping ++ d :: ds := by
        rw [← hds]
        rcases hfirst with h | h <;> simpa [h, incrementText] using hs
      obtain ⟨s₁, hchomping, hs₁⟩ := exists_readChomping b.chomping hd hs
      obtain ⟨s₂, hincrement, hs₂⟩ := exists_readIncrement b.increment hend.1 (hs₁.trans hds.symm)
      exact ⟨s₂, by simp [hchomping, hclip, hincrement], hs₂⟩
    · obtain ⟨hlater, i, hi⟩ : b.chompingFirst = false ∧ ∃ i, b.increment = some i := by
        simpa [Option.ne_none_iff_exists'] using hfirst
      obtain ⟨e, es, hes, he⟩ : ∃ e es, chompingText b.chomping ++ c :: rest = e :: es ∧
          isIndicatorEnd e = true := by
        cases b.chomping with
        | strip => exact ⟨_, _, rfl, rfl⟩
        | clip => exact ⟨_, _, rfl, hend.1⟩
        | keep => exact ⟨_, _, rfl, rfl⟩
      have hs : s.rest = chompingText .clip ++ Nat.digitChar (i.val + 1) :: e :: es := by
        rw [← hes]
        simpa [hlater, hi, incrementText, chompingText] using hs
      obtain ⟨s₁, hclipped, hs₁⟩ := exists_readChomping .clip (digitChar_spec i).2 hs
      obtain ⟨s₂, hincrement, hs₂⟩ := exists_readIncrement (some i) he hs₁
      obtain ⟨s₃, hchomping, hs₃⟩ := exists_readChomping b.chomping hend.2 (hs₂.trans hes.symm)
      exact ⟨s₃, by simp [hclipped, hincrement, hchomping, hclip, hi], hs₃⟩

theorem rest_skipWhile_append {p : Char → Bool} {lead : List Char} (hlead : ∀ c ∈ lead, p c = true)
    (hrest : ∀ c ∈ rest.head?, p c = false) (hs : s.rest = lead ++ rest) :
    (s.skipWhile p).rest = rest := by
  have htake : s.rest.takeWhile p = lead := by
    rw [hs, List.takeWhile_append_of_pos hlead]
    cases rest with
    | nil => simp
    | cons c cs => simp [hrest c rfl]
  rw [Spot.skipWhile, Spot.readWhile, htake, Spot.skipMany, hs]
  simp

theorem exists_skipToLineEnd {comment : Option Comment} {more : List Char}
    (hcomment : ∀ c ∈ trailComment comment, isBreak c = false)
    (hs : s.rest = trailText comment ++ '\n' :: more) :
    ∃ s', Yaml.skipToLineEnd s = some s' ∧ s'.rest = more ∧ s'.column = 0 := by
  obtain ⟨t, ht⟩ : ∃ t : Spot,
      (if (s.skipWhile isSpaceOrTab).next (· == '#') then
        (s.skipWhile isSpaceOrTab).skipWhile (!isBreak ·) else s.skipWhile isSpaceOrTab) = t := ⟨_, rfl⟩
  have hrest : t.rest = '\n' :: more := by
    rw [← ht]
    cases comment with
    | none =>
      have hskip : (s.skipWhile isSpaceOrTab).rest = '\n' :: more :=
        rest_skipWhile_append (List.forall_mem_nil _) (by rintro c ⟨⟩; rfl) hs
      rw [if_neg (by rw [next_eq, hskip]; exact nofun), hskip]
    | some comment =>
      obtain ⟨cs, hcs⟩ := comment.exists_eq_cons
      have hskip : (s.skipWhile isSpaceOrTab).rest = comment.text ++ '\n' :: more :=
        rest_skipWhile_append (List.forall_mem_singleton.2 rfl)
          (by rw [hcs]; rintro c ⟨⟩; rfl) hs
      rw [if_pos (by rw [next_eq, hskip, hcs]; rfl)]
      exact rest_skipWhile_append (by simpa [trailComment] using hcomment)
        (by rintro c ⟨⟩; rfl) hskip
  refine ⟨⟨more, t.index + 1, t.line + 1, 0⟩, ?_, rfl, rfl⟩
  have hread : t.readBreak = (['\n'], ⟨more, t.index + 1, t.line + 1, 0⟩) := by
    unfold Spot.readBreak
    rw [hrest]
    rfl
  have hbreak : t.next isBreak = true := by rw [next_eq, hrest]; rfl
  have hempty : t.rest.isEmpty = false := by rw [hrest]; rfl
  unfold Yaml.skipToLineEnd
  simp only [ht, hempty, hbreak, hread, Bool.false_eq_true, if_false, if_true]

end

/-! ### The text -/

namespace BlockSource

variable {b : BlockSource}

/-- What the chomping indicator leaves of the end. -/
def ending (b : BlockSource) : List Char :=
  match b.chomping with
  | .strip => []
  | .clip => ['\n']
  | .keep => '\n' :: feeds b.trail.length

/-- The text of the scalar. -/
def text (b : BlockSource) : List Char :=
  match b.lines with
  | [] => if b.chomping = .keep then feeds b.trail.length else []
  | l :: lines =>
    feeds l.blanks.length ++ l.text ++ joinLines (lineGap b.literal) l.text lines ++ b.ending

/-- The scalar may stand in a collection at the given column: its lines are deeper, and an
indentation indicator gives their column, or the first line does, which then starts with no blank.
The first and the last line show something. -/
structure Fits (b : BlockSource) (parent : Int) : Prop where
  deeper : parent < b.indent ∧ 0 < b.indent
  increment : ∀ n ∈ b.incrementOf, parent.toNat + n = b.indent
  comment : ∀ c ∈ trailComment b.comment, isBreak c = false
  lines : ∀ l ∈ b.lines, l.Fits b.indent
  first : b.incrementOf = none → ∀ l ∈ b.lines.head?, startsBlank l.text = false
  visible : ∀ l, l ∈ b.lines.head? ∨ l ∈ b.lines.getLast? → l.IsVisible
  trail : ∀ w ∈ b.trail, w ≤ b.indent

/-- The indentation that is given, or zero. -/
def given (b : BlockSource) (parent : Int) : Nat := b.incrementOf.elim 0 (parent.toNat + ·)

section

variable {parent : Int}

theorem Fits.given_eq (h : b.Fits parent) :
    b.given parent = 0 ∧ b.incrementOf = none ∨ b.given parent = b.indent := by
  unfold given
  cases hincrement : b.incrementOf with
  | none => exact .inl ⟨rfl, rfl⟩
  | some n => exact .inr (h.increment n hincrement)

/-- Reading a scalar, step by step. -/
theorem readBlock_eq {s s₁ s₂ s₃ s₄ : Spot} {widest : Nat} {breaks text first more : List Char}
    (hindicators : Yaml.readIndicators s = some (⟨b.chomping, b.incrementOf⟩, s₁))
    (hheader : Yaml.skipToLineEnd s₁ = some s₂)
    (hbreaks : Yaml.readBlockBreaks (b.given parent) (s₂.rest.length + 1) 0 [] s₂ =
      some (widest, breaks, s₃))
    (hlines : Yaml.readBlockLines b.literal (Yaml.blockIndent (b.given parent) widest parent)
      (s₃.rest.length + 1) [] [] breaks false s₃ = some (text, first, more, s₄)) :
    Yaml.readBlock b.literal parent s = some (text ++ match b.chomping with
      | .strip => []
      | .clip => first
      | .keep => first ++ more, s₄) := by
  have hmax : (max parent 0).toNat = parent.toNat := by omega
  unfold given at hbreaks hlines
  unfold Yaml.readBlock
  cases hincrement : b.incrementOf with
  | none =>
    simp only [hincrement, Option.elim_none] at hindicators hbreaks hlines
    simp only [hindicators, hheader, Option.bind_eq_bind, Option.bind_some, hbreaks, hlines]
    cases b.chomping <;> simp
  | some n =>
    simp only [hincrement, Option.elim_some] at hindicators hbreaks hlines
    simp only [hindicators, hheader, Option.bind_eq_bind, Option.bind_some, hmax, hbreaks, hlines]
    cases b.chomping <;> simp

/-- The scanner reads the text of the scalar. -/
theorem exists_readBlock (h : b.Fits parent) {j : Nat} {rest : List Char}
    (hj : (j : Int) ≤ parent ∨ j = 0)
    (hrest : ∀ c ∈ rest.head?, isBreak c = false ∧ isSpaceOrTab c = false) {s : Spot}
    (hs : s.rest = b.indicators ++ (trailText b.comment ++ '\n' :: (rowsText b.rows ++
      (spaces j ++ rest)))) :
    ∃ s', Yaml.readBlock b.literal parent s = some (b.text, s') ∧ s'.rest = rest ∧ s'.column = j := by
  obtain ⟨c, cs, hcs, hc⟩ : ∃ c cs, trailText b.comment ++ '\n' :: (rowsText b.rows ++
      (spaces j ++ rest)) = c :: cs ∧ (c = ' ' ∨ c = '\n') := by
    cases b.comment with
    | none => exact ⟨_, _, rfl, .inr rfl⟩
    | some comment => exact ⟨_, _, rfl, .inl rfl⟩
  obtain ⟨s₁, hindicators, hs₁⟩ := exists_readIndicators b hc (hcs ▸ hs)
  obtain ⟨s₂, hheader, hs₂, hcolumn₂⟩ := exists_skipToLineEnd h.comment (hs₁.trans hcs.symm)
  have hgiven := h.given_eq
  have hdeeper := h.deeper
  have hj' : j < b.indent := by omega
  cases hlines : b.lines with
  | nil =>
    have hs₂ : s₂.rest = rowsText (blankRows b.trail) ++ (spaces j ++ rest) := by
      simpa [rows, hlines, bodyRows] using hs₂
    have hlt : b.given parent = 0 ∨ j < b.given parent := by omega
    obtain ⟨s₃, hbreaks, hs₃, hcolumn₃⟩ := readBlockBreaks_blanks
      (hgiven.imp And.left fun h' => h' ▸ h.trail) (.inr ⟨hlt, hrest⟩) hs₂ hcolumn₂
      (length_blanks_lt hs₂) 0 []
    have hindent : (s₃.column == Yaml.blockIndent (b.given parent)
        (max (b.trail.foldl max 0) j) parent) = false := by
      rw [hcolumn₃, beq_eq_false_iff_ne]
      unfold Yaml.blockIndent
      simp only [bne_iff_ne, ne_eq]
      split <;> omega
    have hread : Yaml.readBlockLines b.literal (Yaml.blockIndent (b.given parent)
        (max (b.trail.foldl max 0) j) parent) (s₃.rest.length + 1) [] []
        ([] ++ feeds b.trail.length) false s₃ = some ([], [], feeds b.trail.length, s₃) := by
      unfold Yaml.readBlockLines
      simp only [hindent, Bool.false_and, Bool.false_eq_true, if_false]
      rfl
    refine ⟨s₃, ?_, hs₃, hcolumn₃⟩
    rw [readBlock_eq hindicators hheader hbreaks hread, text, hlines]
    cases b.chomping <;> rfl
  | cons l lines =>
    have hfits := h.lines
    rw [hlines] at hfits
    obtain ⟨hl, hfits⟩ := List.forall_mem_cons.1 hfits
    have hs₂ : s₂.rest = rowsText (blankRows l.blanks) ++ (spaces b.indent ++ (l.text ++
        '\n' :: (rowsText (bodyRows b.indent lines b.trail) ++ (spaces j ++ rest)))) := by
      rw [hs₂, rows, hlines, rowsText_bodyRows_cons]
      simp only [List.append_assoc, List.cons_append]
    have hstop : StopsAt (b.given parent) b.indent (l.text ++
        '\n' :: (rowsText (bodyRows b.indent lines b.trail) ++ (spaces j ++ rest))) := by
      rcases hgiven with ⟨hzero, hnone⟩ | hfull
      · obtain ⟨d, ds, hds, hd⟩ := hl.exists_cons
        have hfirst : startsBlank l.text = false := h.first hnone l (by simp [hlines])
        refine .inr ⟨.inl hzero, ?_⟩
        rw [hds] at hfirst ⊢
        rintro e ⟨⟩
        exact ⟨hd, hfirst⟩
      · rw [hfull]
        exact hl.stopsAt (by omega) _
    obtain ⟨s₃, hbreaks, hs₃, hcolumn₃⟩ := readBlockBreaks_blanks
      (hgiven.imp And.left fun h' => h' ▸ hl.blanks) hstop hs₂ hcolumn₂ (length_blanks_lt hs₂) 0 []
    have hindent : Yaml.blockIndent (b.given parent) (max (l.blanks.foldl max 0) b.indent) parent =
        b.indent := by
      have hwidest : l.blanks.foldl max 0 ≤ b.indent := foldl_max_le (Nat.zero_le _) hl.blanks
      unfold Yaml.blockIndent
      simp only [bne_iff_ne, ne_eq]
      split <;> omega
    obtain ⟨s₄, hs₄, hcolumn₄, hline⟩ := readBlockLines_text hl.oneLine hs₃ hcolumn₃ b.literal
      s₃.rest.length [] [] (feeds l.blanks.length) false
    have hfuel : lines.length < s₃.rest.length := by
      have hle := (length_le_bodyRows b.indent lines b.trail).trans (length_le_rowsText _)
      simp only [hs₃, List.length_append, List.length_cons]
      omega
    obtain ⟨s₅, hmore, hs₅, hcolumn₅⟩ := readBlockLines_after (by omega) hfits h.trail ⟨hj', hrest⟩ hs₄
      hcolumn₄ b.literal hfuel (feeds l.blanks.length ++ l.text) l.text
    refine ⟨s₅, ?_, hs₅, hcolumn₅⟩
    have hread : Yaml.readBlockLines b.literal (Yaml.blockIndent (b.given parent)
        (max (l.blanks.foldl max 0) b.indent) parent) (s₃.rest.length + 1) [] []
        ([] ++ feeds l.blanks.length) false s₃ =
        some (feeds l.blanks.length ++ l.text ++ joinLines (lineGap b.literal) l.text lines, ['\n'],
          feeds b.trail.length, s₅) := by
      rw [hindent, List.nil_append, hline]
      simpa [lineEnd] using hmore
    rw [readBlock_eq hindicators hheader hbreaks hread, text, hlines]
    cases hchomping : b.chomping <;> simp [ending, hchomping]

end

end BlockSource

end ManifestMarkers.Manifest.Canonical
