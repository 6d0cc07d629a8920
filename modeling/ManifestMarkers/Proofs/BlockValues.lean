import ManifestMarkers.Proofs.BlockText
import ManifestMarkers.Proofs.ManifestReading
import ManifestMarkers.Proofs.ManifestRoundTrip

/-!
# The value of a block scalar

The layout finds the lines of a block scalar by its own rules and joins them, while the scanner
reads the same text. Both take the same lines, but what stands between two lines and at the end can
differ.

* `blockLines_eq`: the lines that the layout takes.
* `joined_blockContents`, `value_blockScalar`: the value that it makes of them.
* `joinLines_append_eq_iff`: texts of the same lines agree where all their gaps do.
* `scalarNode_block_iff`: when the value of the node is the text that the scanner reads.
-/

namespace ManifestMarkers.Manifest.Canonical

open Yaml (Spot Chomping isBreak isSpaceOrTab)

/-! ### Rows as lines -/

/-- The number of spaces that a text starts with. -/
def leadSpaces (text : List Char) : Nat := (text.takeWhile (· == ' ')).length

/-- What the line of a row says of it. -/
structure IsLineOf (line : Line) (row : Row) : Prop where
  raw : line.raw = row.chars
  indent : line.indent = row.indent + leadSpaces row.text
  kind : line.kind = .blank ↔ ∀ c ∈ row.text, Text.isBlank c = true

theorem lineKind_eq_blank_iff (indent : Nat) (text : List Char) :
    lineKind indent text = .blank ↔ text = [] := by
  constructor
  · intro h
    unfold lineKind at h
    split at h
    · rfl
    · cases h
    · split at h
      · cases h
      · split at h <;> cases h
  · rintro rfl
    rfl

theorem trimEnd_eq_nil_iff (cs : List Char) :
    Text.trimEnd cs = [] ↔ ∀ c ∈ cs, Text.isBlank c = true := by
  simp [Text.trimEnd, Text.dropWhileEnd, List.dropWhile_eq_nil_iff]

theorem isBlank_of_mem_takeWhile {cs : List Char} {c : Char} (h : c ∈ cs.takeWhile (· == ' ')) :
    Text.isBlank c = true := by
  obtain rfl : c = ' ' := by simpa using List.mem_takeWhile_imp h
  rfl

theorem forall_dropWhile_iff (cs : List Char) :
    (∀ c ∈ cs.dropWhile (· == ' '), Text.isBlank c = true) ↔ ∀ c ∈ cs, Text.isBlank c = true := by
  conv_rhs => rw [← List.takeWhile_append_dropWhile (p := (· == ' ')) (l := cs)]
  simp only [List.mem_append]
  constructor
  · rintro h c (hc | hc)
    · exact isBlank_of_mem_takeWhile hc
    · exact h c hc
  · exact fun h c hc => h c (.inr hc)

theorem dropCarriageReturn_of_notMem {cs : List Char} (h : '\r' ∉ cs) :
    dropCarriageReturn cs = cs := by
  unfold dropCarriageReturn
  split
  · next rest hrest =>
    have hmem : '\r' ∈ cs.reverse := by simp [hrest]
    exact absurd (List.mem_reverse.1 hmem) h
  · rfl

/-- A row without carriage returns is a line as it stands. -/
theorem isLineOf_of (number : Nat) {row : Row} (h : '\r' ∉ row.text) :
    IsLineOf (.of number row.chars) row := by
  have hraw : dropCarriageReturn row.chars = row.chars :=
    dropCarriageReturn_of_notMem (by simp [Row.chars, spaces, h])
  have hindented : row.chars.dropWhile (· == ' ') = row.text.dropWhile (· == ' ') := by
    rw [Row.chars, List.dropWhile_append_of_pos]
    intro c hc
    simpa using List.eq_of_mem_replicate hc
  have hchars : row.chars.length = row.indent + row.text.length := by simp [Row.chars, spaces]
  have hlength := congrArg List.length
    (List.takeWhile_append_dropWhile (p := (· == ' ')) (l := row.text))
  rw [List.length_append] at hlength
  constructor
  · exact hraw
  · simp only [Line.of, hraw, hindented, hchars, leadSpaces]
    omega
  · simp only [Line.of, hraw, hindented, lineKind_eq_blank_iff, trimEnd_eq_nil_iff,
      forall_dropWhile_iff]

section

variable {rows : List Row} {number : Nat}

theorem exists_isLineOf (h : ∀ r ∈ rows, '\r' ∉ r.text) {line : Line}
    (hline : line ∈ numberLines number (rows.map Row.chars)) : ∃ r ∈ rows, IsLineOf line r := by
  induction rows generalizing number with
  | nil => cases hline
  | cons row rows ih =>
    obtain ⟨hrow, hrows⟩ := List.forall_mem_cons.1 h
    rcases List.mem_cons.1 hline with rfl | hline
    · exact ⟨row, by simp, isLineOf_of number hrow⟩
    · obtain ⟨r, hr, hr'⟩ := ih hrows hline
      exact ⟨r, by simp [hr], hr'⟩

theorem map_raw_numberLines (h : ∀ r ∈ rows, '\r' ∉ r.text) :
    (numberLines number (rows.map Row.chars)).map Line.raw = rows.map Row.chars := by
  induction rows generalizing number with
  | nil => rfl
  | cons row rows ih =>
    obtain ⟨hrow, hrows⟩ := List.forall_mem_cons.1 h
    rw [List.map_cons, numberLines, List.map_cons, ih hrows, (isLineOf_of number hrow).raw]

end

/-! ### The lines of a scalar -/

section

variable {parent : Nat} {shown blanks below after : List Line}

/-- A scalar ends before these lines: none or blank ones, and then a line that is none of its
lines. -/
def EndsBlock (parent : Nat) (below : List Line) : Prop :=
  ∃ blanks after, below = blanks ++ after ∧ (∀ l ∈ blanks, l.kind = .blank) ∧
    ∀ l ∈ after.head?, isBlockLine parent l = false

/-- Blank lines behind the lines of a scalar are not taken. -/
theorem blockLines_eq (hshown : ∀ l ∈ shown, isBlockLine parent l = true)
    (hlast : ∀ l ∈ shown.getLast?, l.kind ≠ .blank) (hbelow : EndsBlock parent below) :
    blockLines parent (shown ++ below) = shown := by
  obtain ⟨blanks, after, rfl, hblanks, hafter⟩ := hbelow
  rw [← List.append_assoc]
  have htake : (shown ++ blanks ++ after).takeWhile (isBlockLine parent) = shown ++ blanks := by
    rw [List.takeWhile_append_of_pos]
    · cases after with
      | nil => simp
      | cons l after => simp [hafter l rfl]
    · intro l hl
      rcases List.mem_append.1 hl with hl | hl
      · exact hshown l hl
      · simp [isBlockLine, hblanks l hl]
  have hdrop : (shown ++ blanks).reverse.dropWhile (·.kind == .blank) = shown.reverse := by
    rw [List.reverse_append, List.dropWhile_append_of_pos (by simpa using hblanks)]
    cases hreverse : shown.reverse with
    | nil => rfl
    | cons l ls =>
      have hl : l.kind ≠ .blank := hlast l (by rw [← List.head?_reverse, hreverse]; rfl)
      simp [hl]
  rw [blockLines, htake, hdrop, List.reverse_reverse]

end

/-! ### Content -/

/-- What a row has behind an indentation. -/
def Row.content (indent : Nat) (row : Row) : List Char := (Text.dropBytes? row.chars indent).getD []

theorem content_blank {w indent : Nat} (hw : w ≤ indent) : Row.content indent ⟨w, []⟩ = [] := by
  rw [Row.content, Row.chars, List.append_nil]
  induction w generalizing indent with
  | zero =>
    unfold Text.dropBytes?
    split <;> rfl
  | succ w ih =>
    have hspace : (' ').utf8Size = 1 := rfl
    unfold Text.dropBytes?
    rw [if_neg (by omega)]
    simp only [spaces, List.replicate_succ, hspace]
    rw [if_pos (by omega)]
    exact ih (by omega)

/-- Behind the indentation of a row and some spaces stands what follows these spaces. -/
theorem content_text (indent n : Nat) (text : List Char) :
    Row.content (indent + n) ⟨indent, spaces n ++ text⟩ = text := by
  have hsplit : spaces indent ++ (spaces n ++ text) = spaces (indent + n) ++ text := by
    simp [spaces, ← List.append_assoc]
  have hdrop := Text.dropBytes?_append (spaces (indent + n)) text
  rw [byteSize_spaces] at hdrop
  rw [Row.content, Row.chars, hsplit, hdrop, Option.getD_some]

/-- The lines of a literal or a folded scalar, joined. -/
def joined (literal : Bool) (content : List (List Char)) : List Char :=
  if literal then Text.joinWith ['\n'] content else foldLines content

/-- What a joined text has between a line and the line above it. -/
def joinGap (literal : Bool) (l : TextLine) : List Char :=
  if literal then '\n' :: feeds l.blanks.length
  else if l.blanks.length = 0 then [' '] else feeds l.blanks.length

/-- Blank lines in front are line feeds. -/
theorem joinWith_blanks (n : Nat) (line : List Char) (content : List (List Char)) :
    Text.joinWith ['\n'] (List.replicate n [] ++ line :: content) =
      feeds n ++ Text.joinWith ['\n'] (line :: content) := by
  induction n with
  | zero => rfl
  | succ n ih =>
    rw [List.replicate_succ, feeds_succ, List.cons_append, List.cons_append, ← ih]
    cases n <;> rfl

theorem foldLinesFrom_blanks (n : Nat) (content : List (List Char)) :
    foldLinesFrom true (List.replicate n [] ++ content) = feeds n ++ foldLinesFrom true content := by
  induction n with
  | zero => rfl
  | succ n ih =>
    rw [List.replicate_succ, feeds_succ, List.cons_append, List.cons_append, ← ih]
    rfl

theorem foldLinesFrom_text (fresh : Bool) {line : List Char} (h : line ≠ [])
    (content : List (List Char)) : foldLinesFrom fresh (line :: content) =
      (if fresh then [] else [' ']) ++ line ++ foldLinesFrom false content := by
  cases line with
  | nil => exact absurd rfl h
  | cons c cs => rfl

/-- The blank lines above a line, and the line. -/
def TextLine.content (l : TextLine) : List (List Char) :=
  List.replicate l.blanks.length [] ++ [l.text]

theorem foldLinesFrom_content {l : TextLine} (h : l.text ≠ []) (content : List (List Char)) :
    foldLinesFrom false (l.content ++ content) =
      joinGap false l ++ l.text ++ foldLinesFrom false content := by
  rw [TextLine.content, List.append_assoc, List.singleton_append, joinGap]
  cases l.blanks.length with
  | zero => exact foldLinesFrom_text false h content
  | succ n =>
    have hblank : foldLinesFrom false (List.replicate (n + 1) [] ++ l.text :: content) =
        '\n' :: foldLinesFrom true (List.replicate n [] ++ l.text :: content) := rfl
    rw [hblank, foldLinesFrom_blanks, foldLinesFrom_text true h]
    simp [feeds_succ]

/-- The joined text starts with the blank lines and the first line. -/
theorem joined_blanks (literal : Bool) (n : Nat) {line : List Char} (h : line ≠ [])
    (content : List (List Char)) : ∃ more,
      joined literal (List.replicate n [] ++ line :: content) = feeds n ++ (line ++ more) := by
  cases literal with
  | true =>
    refine ⟨(Text.joinWith ['\n'] (line :: content)).drop line.length, ?_⟩
    rw [joined, if_pos rfl, joinWith_blanks]
    cases content <;> simp [Text.joinWith]
  | false =>
    refine ⟨foldLinesFrom false content, ?_⟩
    rw [joined, if_neg Bool.false_ne_true, foldLines, foldLinesFrom_blanks,
      foldLinesFrom_text true h]
    rfl

/-- The joined text of lines. -/
theorem joined_content (literal : Bool) {l : TextLine} {lines : List TextLine}
    (h : ∀ l' ∈ l :: lines, l'.text ≠ []) : joined literal ((l :: lines).flatMap TextLine.content) =
      feeds l.blanks.length ++ l.text ++ joinLines (fun _ => joinGap literal) l.text lines := by
  obtain ⟨hl, hlines⟩ := List.forall_mem_cons.1 h
  rw [List.flatMap_cons, TextLine.content, List.append_assoc, List.singleton_append, joined]
  cases literal with
  | true =>
    rw [if_pos rfl, joinWith_blanks, List.append_assoc]
    congr 1
    clear h hl
    induction lines generalizing l with
    | nil => simp [joinLines, Text.joinWith]
    | cons l' lines ih =>
      obtain ⟨-, hlines⟩ := List.forall_mem_cons.1 hlines
      have hnext : Text.joinWith ['\n'] (l.text :: (l' :: lines).flatMap TextLine.content) =
          l.text ++ '\n' :: Text.joinWith ['\n'] ((l' :: lines).flatMap TextLine.content) := by
        rw [List.flatMap_cons, TextLine.content]
        cases l'.blanks.length <;> simp [Text.joinWith, List.replicate_succ]
      rw [hnext, List.flatMap_cons, TextLine.content, List.append_assoc, List.singleton_append,
        joinWith_blanks, ih hlines]
      simp [joinLines, joinGap]
  | false =>
    have hmore : foldLinesFrom false (lines.flatMap TextLine.content) =
        joinLines (fun _ => joinGap false) l.text lines := by
      clear h hl
      induction lines generalizing l with
      | nil => rfl
      | cons l' lines ih =>
        obtain ⟨hl', hlines⟩ := List.forall_mem_cons.1 hlines
        rw [List.flatMap_cons, foldLinesFrom_content hl', ih hlines, joinLines]
    rw [if_neg Bool.false_ne_true, foldLines, foldLinesFrom_blanks, foldLinesFrom_text true hl, hmore]
    simp

/-! ### Gaps -/

theorem length_joinLines_le {gap gap' : List Char → TextLine → List Char}
    (hle : ∀ above l, (gap above l).length ≤ (gap' above l).length) (above : List Char)
    (lines : List TextLine) :
    (joinLines gap above lines).length ≤ (joinLines gap' above lines).length := by
  induction lines generalizing above with
  | nil => exact le_refl _
  | cons l lines ih =>
    have hl := hle above l
    have hlines := ih l.text
    simp only [joinLines, List.length_append]
    omega

/-- Texts of the same lines, where one has no longer gaps and no longer end than the other, agree
where all their gaps and their ends do. -/
theorem joinLines_append_eq_iff {gap gap' : List Char → TextLine → List Char}
    (hle : ∀ above l, (gap above l).length ≤ (gap' above l).length) {last last' : List Char}
    (hlast : last.length ≤ last'.length) (first : TextLine) (lines : List TextLine) :
    joinLines gap first.text lines ++ last = joinLines gap' first.text lines ++ last' ↔
      (first :: lines).IsChain (fun above l => gap above.text l = gap' above.text l) ∧
        last = last' := by
  induction lines generalizing first with
  | nil => simp [joinLines]
  | cons l lines ih =>
    rw [List.isChain_cons_cons, and_assoc, ← ih l]
    simp only [joinLines, List.append_assoc]
    constructor
    · intro heq
      have hl := hle first.text l
      have hlines := length_joinLines_le hle l.text lines
      have hlength := congrArg List.length heq
      simp only [List.length_append] at hlength
      obtain ⟨hgap, hmore⟩ := List.append_inj heq (by omega)
      exact ⟨hgap, List.append_cancel_left hmore⟩
    · rintro ⟨hgap, hmore⟩
      rw [hgap, hmore]

theorem length_joinGap_le (literal : Bool) (above : List Char) (l : TextLine) :
    (joinGap literal l).length ≤ (lineGap literal above l).length := by
  unfold joinGap lineGap lineEnd
  cases literal
  · cases l.blanks.length with
    | zero =>
      simp [feeds]
      split <;> simp
    | succ n => simp [feeds]
  · simp

/-- What stands between two lines is the same unless one of them starts with a blank. -/
theorem joinGap_eq_lineGap_iff (literal : Bool) (above : List Char) (l : TextLine) :
    joinGap literal l = lineGap literal above l ↔
      literal = true ∨ startsBlank above = false ∧ startsBlank l.text = false := by
  unfold joinGap lineGap lineEnd
  cases literal
  · cases startsBlank above <;> cases startsBlank l.text <;> cases l.blanks.length <;>
      simp [feeds, List.replicate_succ]
  · simp

/-! ### The value -/

/-- The lines without the blank lines behind them. -/
def BlockSource.shownRows (b : BlockSource) : List Row := b.lines.flatMap (TextLine.rows b.indent)

/-- The indentation that the layout finds: that of the first line, with the spaces it starts
with. -/
def BlockSource.shownIndent (b : BlockSource) : Nat :=
  b.lines.head?.elim 0 fun l => b.indent + leadSpaces l.text

section

variable {b : BlockSource} {outer : Int} {parent : Nat}

/-- The rows of a scalar have no line breaks. -/
theorem BlockSource.Fits.oneLine_rows (h : b.Fits outer) :
    ∀ r ∈ b.rows, ∀ c ∈ r.text, isBreak c = false := by
  intro r hr
  simp only [BlockSource.rows, bodyRows, List.mem_append, List.mem_flatMap, TextLine.rows, blankRows,
    List.mem_map, List.mem_singleton] at hr
  rcases hr with ⟨l, hl, ⟨w, -, rfl⟩ | rfl⟩ | ⟨w, -, rfl⟩
  · simp
  · exact (h.lines l hl).oneLine
  · simp

theorem BlockSource.Fits.notMem_rows (h : b.Fits outer) {c : Char} (hc : isBreak c = true) :
    ∀ r ∈ b.rows, c ∉ r.text := by
  intro r hr hmem
  rw [h.oneLine_rows r hr c hmem] at hc
  cases hc

theorem BlockSource.Fits.notMem_shownRows (h : b.Fits outer) : ∀ r ∈ b.shownRows, '\r' ∉ r.text :=
  fun r hr => h.notMem_rows rfl r (List.mem_append_left _ hr)

theorem kind_of_mem_blankRows {ws : List Nat} {number : Nat} {line : Line}
    (h : line ∈ numberLines number ((blankRows ws).map Row.chars)) : line.kind = .blank := by
  obtain ⟨r, hr, hline⟩ := exists_isLineOf (by simp [blankRows]) h
  obtain ⟨w, -, rfl⟩ := List.mem_map.1 hr
  exact hline.kind.2 (by simp)

/-- A visible line is no blank line. -/
theorem kind_ne_blank {l : TextLine} (h : l.IsVisible) {line : Line} {indent : Nat}
    (hline : IsLineOf line ⟨indent, l.text⟩) : line.kind ≠ .blank := by
  obtain ⟨c, hc, hblank⟩ := h
  intro hkind
  rw [hline.kind.1 hkind c hc] at hblank
  cases hblank

/-- The layout takes the lines of the scalar without the blank lines behind them. -/
theorem blockLines_rows (h : b.Fits outer) (hparent : parent < b.indent) (number : Nat)
    {below : List Line} (hbelow : EndsBlock parent below) :
    blockLines parent (numberLines number (b.rows.map Row.chars) ++ below) =
      numberLines number (b.shownRows.map Row.chars) := by
  obtain ⟨blanks, after, rfl, hblanks, hafter⟩ := hbelow
  rw [BlockSource.rows, bodyRows, List.map_append, numberLines_append, List.append_assoc,
    ← List.append_assoc (numberLines _ ((blankRows b.trail).map Row.chars))]
  refine blockLines_eq ?_ ?_ ⟨_, after, rfl, ?_, hafter⟩
  · intro line hline
    obtain ⟨r, hr, hline⟩ := exists_isLineOf h.notMem_shownRows hline
    simp only [BlockSource.shownRows, List.mem_flatMap, TextLine.rows, blankRows, List.mem_append,
      List.mem_map, List.mem_singleton] at hr
    rcases hr with ⟨l, -, ⟨w, -, rfl⟩ | rfl⟩
    · simp [isBlockLine, hline.kind.2 (by simp)]
    · have hindent : line.indent = b.indent + leadSpaces l.text := hline.indent
      have hlt : parent < line.indent := by omega
      simp [isBlockLine, hlt]
  · rcases List.eq_nil_or_concat b.lines with hnil | ⟨lines, l, hconcat⟩
    · simp [hnil, numberLines]
    · have hl : '\r' ∉ l.text := h.notMem_shownRows ⟨b.indent, l.text⟩
        (by simp [BlockSource.shownRows, hconcat, TextLine.rows])
      have hvisible : l.IsVisible := h.visible l (.inr (by simp [hconcat]))
      have hrows : b.lines.flatMap (TextLine.rows b.indent) =
          (lines.flatMap (TextLine.rows b.indent) ++ blankRows l.blanks) ++ [⟨b.indent, l.text⟩] := by
        simp [hconcat, TextLine.rows]
      rw [hrows, List.map_append, numberLines_append]
      simp only [List.map_cons, List.map_nil, numberLines, List.getLast?_append, List.getLast?_singleton]
      rintro line ⟨⟩
      exact kind_ne_blank hvisible (isLineOf_of _ hl)
  · intro line hline
    exact (List.mem_append.1 hline).elim kind_of_mem_blankRows (hblanks line)

/-- The indentation that the layout finds. -/
theorem indent_find?_shown (h : b.Fits outer) (number : Nat) :
    ((numberLines number (b.shownRows.map Row.chars)).find? (·.kind != .blank)).elim 0 Line.indent =
      b.shownIndent := by
  have hrows := h.notMem_shownRows
  unfold BlockSource.shownRows at hrows ⊢
  unfold BlockSource.shownIndent
  cases hlines : b.lines with
  | nil => rfl
  | cons l lines =>
    have hl : '\r' ∉ l.text := hrows ⟨b.indent, l.text⟩ (by simp [hlines, TextLine.rows])
    have hvisible : l.IsVisible := h.visible l (.inl (by simp [hlines]))
    have hrows : (l :: lines).flatMap (TextLine.rows b.indent) = blankRows l.blanks ++
        ⟨b.indent, l.text⟩ :: lines.flatMap (TextLine.rows b.indent) := by
      simp [TextLine.rows]
    have hblanks : (numberLines number ((blankRows l.blanks).map Row.chars)).find?
        (·.kind != .blank) = none := by
      rw [List.find?_eq_none]
      intro line hline
      simp [kind_of_mem_blankRows hline]
    rw [hrows, List.map_append, numberLines_append, List.find?_append, hblanks, Option.none_or,
      List.map_cons, numberLines, List.find?_cons_of_pos]
    · exact (isLineOf_of _ hl).indent
    · simpa using kind_ne_blank hvisible (isLineOf_of _ hl)

theorem head?_header (b : BlockSource) : (b.header.head? == some '|') = b.literal := by
  unfold BlockSource.header
  cases b.literal <;> rfl

theorem contains_header (b : BlockSource) : b.header.contains '-' = (b.chomping == .strip) := by
  have hsign : ('-' == if b.literal then '|' else '>') = false := by cases b.literal <;> rfl
  have hincrement : '-' ∉ incrementText b.increment := by
    cases b.increment with
    | none => simp [incrementText]
    | some i => simp [incrementText, (digitChar_spec i).2.2.symm]
  have hchomping : decide ('-' ∈ chompingText b.chomping) = (b.chomping == .strip) := by
    cases b.chomping <;> rfl
  rw [BlockSource.header, BlockSource.indicators, List.contains_cons, hsign, Bool.false_or]
  cases b.chompingFirst <;> simp [hincrement, hchomping]

theorem fst_blockScalar (header : List Char) (parent : Nat) (lines : List Line) :
    (blockScalar header parent lines).1 =
      let block := blockLines parent lines
      let indent := (block.find? (·.kind != .blank)).elim 0 Line.indent
      let content := block.map fun l => (Text.dropBytes? l.raw indent).getD []
      let value := joined (header.head? == some '|') content
      if !header.contains '-' && !content.isEmpty then value ++ ['\n'] else value := by
  unfold blockScalar
  dsimp only
  cases hfind : (blockLines parent lines).find? (·.kind != .blank) with
  | none => rfl
  | some l => rfl

/-- The value that the layout makes of a block scalar. -/
theorem value_blockScalar (h : b.Fits outer) (hparent : parent < b.indent) (number : Nat)
    {below : List Line} (hbelow : EndsBlock parent below) :
    (blockScalar b.header parent (numberLines number (b.rows.map Row.chars) ++ below)).1 =
      joined b.literal (b.shownRows.map (Row.content b.shownIndent)) ++
        if b.chomping ≠ .strip ∧ b.lines ≠ [] then ['\n'] else [] := by
  have hcontent : (numberLines number (b.shownRows.map Row.chars)).map
      (fun l => (Text.dropBytes? l.raw b.shownIndent).getD []) =
      b.shownRows.map (Row.content b.shownIndent) := by
    have hraw := congrArg (List.map fun cs => (Text.dropBytes? cs b.shownIndent).getD [])
      (@map_raw_numberLines _ number h.notMem_shownRows)
    rw [List.map_map, List.map_map] at hraw
    exact hraw
  have hempty : b.shownRows = [] ↔ b.lines = [] := by
    unfold BlockSource.shownRows
    cases b.lines <;> simp [TextLine.rows]
  rw [fst_blockScalar]
  simp only [blockLines_rows h hparent number hbelow, indent_find?_shown h number, hcontent,
    head?_header, contains_header]
  by_cases hstrip : b.chomping = .strip
  · simp [hstrip]
  · by_cases hnil : b.lines = []
    · simp [hnil, hempty.2 hnil]
    · simp [hnil, hempty, hstrip]

/-! ### Agreement -/

/-- The layout has its own rules for nothing in the scalar: `+` finds no blank lines behind the last
line, the first line does not start with a space, and none of several lines of a folded scalar
starts with a blank. -/
structure BlockSource.IsEven (b : BlockSource) : Prop where
  trail : b.chomping = .keep → b.trail = []
  first : ∀ l ∈ b.lines.head?, l.text.head? ≠ some ' '
  lines : b.literal = true ∨ b.lines.IsChain fun above l =>
    startsBlank above.text = false ∧ startsBlank l.text = false

theorem map_content_blankRows {ws : List Nat} {indent : Nat} (h : ∀ w ∈ ws, w ≤ indent) :
    (blankRows ws).map (Row.content indent) = List.replicate ws.length [] := by
  rw [List.eq_replicate_iff]
  refine ⟨by simp [blankRows], fun content hcontent => ?_⟩
  simp only [blankRows, List.map_map, List.mem_map] at hcontent
  obtain ⟨w, hw, rfl⟩ := hcontent
  exact content_blank (h w hw)

/-- Rows of lines have the content of the lines behind their indentation. -/
theorem map_content_rows {indent : Nat} {lines : List TextLine} (h : ∀ l ∈ lines, l.Fits indent) :
    (lines.flatMap (TextLine.rows indent)).map (Row.content indent) =
      lines.flatMap TextLine.content := by
  induction lines with
  | nil => rfl
  | cons l lines ih =>
    obtain ⟨hl, hlines⟩ := List.forall_mem_cons.1 h
    have htext : Row.content indent ⟨indent, l.text⟩ = l.text := content_text indent 0 l.text
    rw [List.flatMap_cons, List.map_append, ih hlines, TextLine.rows, List.map_append,
      map_content_blankRows hl.blanks, List.map_singleton, htext]
    rfl

theorem ending_eq_iff (b : BlockSource) :
    (if b.chomping ≠ .strip then ['\n'] else []) = b.ending ↔ (b.chomping = .keep → b.trail = []) := by
  unfold BlockSource.ending
  cases b.chomping with
  | strip => simp
  | clip => simp
  | keep => cases b.trail <;> simp [feeds, List.replicate_succ]

theorem length_ending_le (b : BlockSource) :
    (if b.chomping ≠ .strip then ['\n'] else []).length ≤ b.ending.length := by
  unfold BlockSource.ending
  cases b.chomping <;> simp

/-- Without a space in front of the first line, all gaps and the end have to be the same. -/
theorem value_eq_text_of_cons (h : b.Fits outer) {l : TextLine} {lines : List TextLine}
    (hlines : b.lines = l :: lines) (hfirst : l.text.head? ≠ some ' ') :
    joined b.literal (b.shownRows.map (Row.content b.shownIndent)) ++
        (if b.chomping ≠ .strip then ['\n'] else []) = b.text ↔
      (b.literal = true ∨ (l :: lines).IsChain fun above l =>
        startsBlank above.text = false ∧ startsBlank l.text = false) ∧
      (b.chomping = .keep → b.trail = []) := by
  have hfits := h.lines
  have hindent : b.shownIndent = b.indent := by
    have hspaces : l.text.takeWhile (· == ' ') = [] := by
      cases htext : l.text with
      | nil => rfl
      | cons c cs =>
        rw [htext] at hfirst
        have hc : (c == ' ') = false := by simpa using hfirst
        simp [hc]
    simp [BlockSource.shownIndent, hlines, leadSpaces, hspaces]
  rw [hlines] at hfits
  rw [hindent, BlockSource.shownRows, hlines, map_content_rows hfits,
    joined_content b.literal fun l' hl' => (hfits l' hl').ne_nil, BlockSource.text, hlines]
  simp only [List.append_assoc, List.append_cancel_left_eq]
  rw [joinLines_append_eq_iff (length_joinGap_le b.literal) (length_ending_le b), ending_eq_iff]
  simp only [joinGap_eq_lineGap_iff]
  cases b.literal with
  | true =>
    have hchain : (l :: lines).IsChain fun _ _ => True :=
      (List.pairwise_of_forall fun _ _ => trivial).isChain
    simp [hchain]
  | false => simp

/-- The layout drops the spaces in front of the first line. -/
theorem value_ne_text_of_space (h : b.Fits outer) {l : TextLine} {lines : List TextLine}
    (hlines : b.lines = l :: lines) (hfirst : l.text.head? = some ' ') (last : List Char) :
    joined b.literal (b.shownRows.map (Row.content b.shownIndent)) ++ last ≠ b.text := by
  have hl := h.lines l (by simp [hlines])
  obtain ⟨c, cs, hcs⟩ : ∃ c cs, l.text.dropWhile (· == ' ') = c :: cs := by
    obtain ⟨c, hc, hblank⟩ := h.visible l (.inl (by simp [hlines]))
    refine List.exists_cons_of_ne_nil fun hnil => ?_
    have hspace := List.dropWhile_eq_nil_iff.1 hnil c hc
    obtain rfl : c = ' ' := by simpa using hspace
    cases hblank
  have hc : c ≠ ' ' := by
    have hhead := List.head?_dropWhile_not (· == ' ') l.text
    rw [hcs] at hhead
    simpa using hhead
  obtain ⟨n, hn⟩ : ∃ n, leadSpaces l.text = n := ⟨_, rfl⟩
  have hspaces : l.text = spaces n ++ (c :: cs) := by
    have htake : l.text.takeWhile (· == ' ') = spaces n := by
      rw [spaces, List.eq_replicate_iff]
      exact ⟨hn, fun d hd => by simpa using List.mem_takeWhile_imp hd⟩
    rw [← htake, ← hcs, List.takeWhile_append_dropWhile]
  have hcontent : b.shownRows.map (Row.content b.shownIndent) =
      List.replicate l.blanks.length [] ++ (c :: cs) ::
        (lines.flatMap (TextLine.rows b.indent)).map (Row.content b.shownIndent) := by
    have hindent : b.shownIndent = b.indent + n := by
      simp [BlockSource.shownIndent, hlines, hn]
    have hblanks : ∀ w ∈ l.blanks, w ≤ b.shownIndent := by
      intro w hw
      have hle := hl.blanks w hw
      omega
    have htext : Row.content b.shownIndent ⟨b.indent, l.text⟩ = c :: cs := by
      rw [hindent, hspaces, content_text]
    rw [BlockSource.shownRows, hlines, List.flatMap_cons, List.map_append, TextLine.rows,
      List.map_append, map_content_blankRows hblanks, List.map_singleton, htext]
    simp
  obtain ⟨more, hmore⟩ := joined_blanks b.literal l.blanks.length (List.cons_ne_nil c cs)
    ((lines.flatMap (TextLine.rows b.indent)).map (Row.content b.shownIndent))
  obtain ⟨cs', hcs'⟩ : ∃ cs', l.text = ' ' :: cs' := by
    cases htext : l.text with
    | nil => simp [htext] at hfirst
    | cons d ds =>
      obtain rfl : d = ' ' := by simpa [htext] using hfirst
      exact ⟨ds, rfl⟩
  rw [hcontent, hmore, BlockSource.text, hlines]
  simp only [List.append_assoc]
  intro heq
  have hhead := List.append_cancel_left heq
  rw [hcs'] at hhead
  exact hc (List.cons.inj hhead).1

/-- The value of the layout is the text of the scalar exactly when the scalar is even. -/
theorem value_eq_text_iff (h : b.Fits outer) :
    joined b.literal (b.shownRows.map (Row.content b.shownIndent)) ++
        (if b.chomping ≠ .strip ∧ b.lines ≠ [] then ['\n'] else []) = b.text ↔ b.IsEven := by
  cases hlines : b.lines with
  | nil =>
    have hjoined : joined b.literal [] = [] := by cases b.literal <;> rfl
    have htext : b.text = if b.chomping = .keep then feeds b.trail.length else [] := by
      rw [BlockSource.text, hlines]
    rw [BlockSource.shownRows, hlines, List.flatMap_nil, List.map_nil, hjoined, htext]
    constructor
    · intro heq
      refine ⟨fun hkeep => ?_, by simp [hlines], .inr (by simp [hlines])⟩
      simpa [hkeep, feeds] using heq
    · intro heven
      by_cases hkeep : b.chomping = .keep
      · simp [hkeep, heven.trail hkeep, feeds]
      · simp [hkeep]
  | cons l lines =>
    simp only [ne_eq, reduceCtorEq, not_false_eq_true, and_true]
    by_cases hfirst : l.text.head? = some ' '
    · refine iff_of_false (value_ne_text_of_space h hlines hfirst _) fun heven => ?_
      exact heven.first l (by simp [hlines]) hfirst
    · refine (value_eq_text_of_cons h hlines hfirst).trans ?_
      constructor
      · rintro ⟨hgaps, htrail⟩
        exact ⟨htrail, by simpa [hlines] using hfirst, hlines ▸ hgaps⟩
      · intro heven
        exact ⟨hlines ▸ heven.lines, heven.trail⟩

/-! ### Reading -/

/-- A character that is no blank is neither a line break nor a space or tab. -/
theorem isBreak_of_isBlank {c : Char} (h : Text.isBlank c = false) :
    isBreak c = false ∧ isSpaceOrTab c = false := by
  constructor
  · by_contra hbreak
    rw [Bool.not_eq_false, isBreak] at hbreak
    simp only [Bool.or_eq_true, beq_iff_eq] at hbreak
    rcases hbreak with (((rfl | rfl) | hc) | hc) | hc
    · cases h
    · cases h
    all_goals simp [Text.isBlank, hc] at h
  · by_contra hblank
    rw [Bool.not_eq_false, isSpaceOrTab] at hblank
    simp only [Bool.or_eq_true, beq_iff_eq] at hblank
    rcases hblank with rfl | rfl <;> cases h

theorem exists_dropCarriageReturn (lead : List Char) {c : Char} (hc : c ≠ '\r') (cs : List Char) :
    ∃ cs', dropCarriageReturn (lead ++ c :: cs) = lead ++ c :: cs' := by
  rcases List.eq_nil_or_concat cs with rfl | ⟨cs, d, rfl⟩
  · refine ⟨[], ?_⟩
    unfold dropCarriageReturn
    simp [hc]
  · by_cases hd : d = '\r'
    · exact ⟨cs, by simp [dropCarriageReturn, hd]⟩
    · exact ⟨cs ++ [d], by simp [dropCarriageReturn, hd]⟩

/-- A line that starts with a visible character at the given column. -/
theorem of_visible (number j : Nat) {c : Char} (hc : Text.isBlank c = false) (cs : List Char) :
    (Line.of number (spaces j ++ c :: cs)).kind ≠ .blank ∧
      (Line.of number (spaces j ++ c :: cs)).indent = j := by
  have hreturn : c ≠ '\r' := by
    rintro rfl
    cases hc
  have hspace : (c == ' ') = false := by
    rw [beq_eq_false_iff_ne]
    rintro rfl
    cases hc
  obtain ⟨cs', hraw⟩ := exists_dropCarriageReturn (spaces j) hreturn cs
  have hindented : (spaces j ++ c :: cs').dropWhile (· == ' ') = c :: cs' := by
    rw [List.dropWhile_append_of_pos]
    · simp [hspace]
    · intro d hd
      simpa using List.eq_of_mem_replicate hd
  constructor
  · simp only [Line.of, hraw, hindented, ne_eq, lineKind_eq_blank_iff, trimEnd_eq_nil_iff]
    intro hblank
    rw [hblank c (by simp)] at hc
    cases hc
  · have hchars : (spaces j ++ c :: cs').length = j + (c :: cs').length := by simp [spaces]
    simp only [Line.of, hraw, hindented, hchars, Nat.add_sub_cancel]

theorem exists_splitOn_append {d c : Char} (hc : c ≠ d) {lead : List Char} (hlead : d ∉ lead)
    (cs : List Char) :
    ∃ part parts, Text.splitOn d (lead ++ c :: cs) = (lead ++ c :: part) :: parts := by
  induction lead with
  | nil =>
    obtain ⟨part, parts, hparts⟩ := List.exists_cons_of_ne_nil (Text.splitOn_ne_nil d cs)
    exact ⟨part, parts, by simp [Text.splitOn, hc, hparts]⟩
  | cons e lead ih =>
    have he : e ≠ d := fun heq => hlead (by simp [heq])
    obtain ⟨part, parts, hparts⟩ := ih fun hd => hlead (by simp [hd])
    exact ⟨part, parts, by simp [Text.splitOn, he, hparts]⟩

/-- A scalar ends at the end of the text, and before a line that is no deeper than its parent. -/
theorem endsBlock_lines {j : Nat} (hj : j ≤ parent) {rest : List Char} (hend : rest = [] → j = 0)
    (hrest : ∀ c ∈ rest.head?, Text.isBlank c = false) (number : Nat) :
    EndsBlock parent (numberLines number (Text.lines (spaces j ++ rest))) := by
  cases rest with
  | nil =>
    obtain rfl := hend rfl
    exact ⟨[.of number []], [], rfl, by simp; rfl, by simp⟩
  | cons c cs =>
    have hc : Text.isBlank c = false := hrest c rfl
    have hfeed : c ≠ '\n' := by
      rintro rfl
      cases hc
    have hspaces : '\n' ∉ spaces j := by simp [spaces]
    obtain ⟨part, parts, hparts⟩ := exists_splitOn_append hfeed hspaces cs
    refine ⟨[], _, rfl, by simp, ?_⟩
    rw [Text.lines, hparts, numberLines]
    rintro line ⟨⟩
    obtain ⟨hkind, hindent⟩ := of_visible number j hc part
    simp [isBlockLine, hkind, hindent, hj]

/-- The layout and the scanner read a block scalar with the same text exactly when it is even. -/
theorem scalarNode_block_iff (h : b.Fits outer) (hparent : outer ≤ parent ∧ parent < b.indent)
    {v : InlineValue} (hv : v.text = b.header) (line : Line) (column number : Nat) {j : Nat}
    {rest : List Char} (hj : (j : Int) ≤ outer ∨ j = 0) (hend : rest = [] → j = 0)
    (hrest : ∀ c ∈ rest.head?, Text.isBlank c = false) {s : Spot}
    (hs : s.rest = b.indicators ++ (trailText b.comment ++ '\n' :: (rowsText b.rows ++
      (spaces j ++ rest)))) :
    ∃ n below text s', scalarNode v line parent column
        (numberLines number (Text.lines (rowsText b.rows ++ (spaces j ++ rest)))) =
          .ok (n, below) ∧
      Yaml.readBlock b.literal outer s = some (text, s') ∧ (n.value.toList = text ↔ b.IsEven) := by
  obtain ⟨s', hread, -, -⟩ := BlockSource.exists_readBlock h hj
    (fun c hc => isBreak_of_isBlank (hrest c hc)) hs
  have hbelow : EndsBlock parent
      (numberLines (number + b.rows.length) (Text.lines (spaces j ++ rest))) :=
    endsBlock_lines (by omega) hend hrest _
  have hvalue := value_blockScalar h hparent.2 number hbelow
  rw [lines_rowsText (h.notMem_rows rfl), numberLines_append, List.length_map]
  generalize numberLines number (b.rows.map Row.chars) ++
    numberLines (number + b.rows.length) (Text.lines (spaces j ++ rest)) = lines at hvalue ⊢
  rcases hscalar : blockScalar b.header parent lines with ⟨value, raw, below⟩
  have hiff := value_eq_text_iff h
  rw [← hvalue, hscalar] at hiff
  obtain ⟨n, hn, hnode⟩ : ∃ n : Node, n.value = String.ofList value ∧
      scalarNode v line parent column lines = .ok (n, below) := by
    have hstyle : styleOf b.header = if b.literal then .literal else .folded := by
      rw [BlockSource.header]
      cases b.literal <;> rfl
    unfold scalarNode
    cases hliteral : b.literal with
    | true =>
      rw [hliteral, if_pos rfl] at hstyle
      simp only [hv, hstyle, hscalar]
      exact ⟨_, rfl, rfl⟩
    | false =>
      rw [hliteral, if_neg Bool.false_ne_true] at hstyle
      simp only [hv, hstyle, hscalar]
      exact ⟨_, rfl, rfl⟩
  refine ⟨n, below, b.text, s', hnode, hread, ?_⟩
  rw [hn, String.toList_ofList]
  exact hiff

end

/-- Two lines, with a blank one between them, in a folded scalar. -/
theorem scalarNode_block_paragraphs : ∃ n below text s',
    scalarNode { text := ">-".toList } (.of 1 "a: >-".toList) 0 4
      (numberLines 2 (Text.lines "  x\n\n  y\n".toList)) = .ok (n, below) ∧
    Yaml.readBlock false 0 ⟨"-\n  x\n\n  y\n".toList, 4, 0, 4⟩ = some (text, s') ∧
    n.value.toList = text := by
  let b : BlockSource := ⟨false, .strip, none, false, none, 2, [⟨[], ['x']⟩, ⟨[0], ['y']⟩], []⟩
  have hvisible : ∀ l ∈ b.lines, l.IsVisible := by
    intro l hl
    rcases List.mem_pair.1 hl with rfl | rfl
    · exact ⟨'x', by simp, rfl⟩
    · exact ⟨'y', by simp, rfl⟩
  have hfits : b.Fits 0 := by
    refine ⟨by decide, by simp [b, BlockSource.incrementOf], by simp [b, trailComment], ?_, ?_, ?_, ?_⟩
    · intro l hl
      rcases List.mem_pair.1 hl with rfl | rfl <;> exact ⟨by simp, by simp, by simp [isBreak]⟩
    · rintro - l ⟨⟩
      rfl
    · rintro l (hl | hl)
      · exact hvisible l (List.mem_of_mem_head? hl)
      · exact hvisible l (List.mem_of_mem_getLast? hl)
    · simp [b]
  have hparent : (0 : Int) ≤ (0 : Nat) ∧ 0 < b.indent := by decide
  have hsource : (⟨"-\n  x\n\n  y\n".toList, 4, 0, 4⟩ : Spot).rest = b.indicators ++
      (trailText b.comment ++ '\n' :: (rowsText b.rows ++ (spaces 0 ++ []))) := rfl
  obtain ⟨n, below, text, s', hnode, hread, hiff⟩ := scalarNode_block_iff hfits hparent
    (show ({ text := ">-".toList } : InlineValue).text = b.header from rfl)
    (.of 1 "a: >-".toList) 4 2 (.inr rfl) (fun _ => rfl) (by simp) hsource
  refine ⟨n, below, text, s', hnode, hread, hiff.2 ⟨by simp [b], ?_, .inr ?_⟩⟩
  · simp [b]
  · simp [b, startsBlank, isSpaceOrTab]

/-- A deeper line of a folded scalar stands on a line of its own, but the layout joins it to the
line above. -/
theorem folded_deeper_line : ∃ m n w, parse "a: >\n  x\n   y\n" = .ok m ∧ m.nodes[2]? = some n ∧
    n.style = .folded ∧ n.value = "x  y\n" ∧
    Yaml.decode? "a: >\n  x\n   y\n".toList = some w ∧
    w.same (.mapping [(.string "a", .string "x\n y\n")]) = true := by
  have h : ((parse "a: >\n  x\n   y\n").toOption.bind fun m => m.nodes[2]?.bind fun n =>
      (Yaml.decode? "a: >\n  x\n   y\n".toList).map fun w =>
        (n.style, n.value, w.same (.mapping [(.string "a", .string "x\n y\n")]))) =
      some (.folded, "x  y\n", true) := by
    decide +kernel
  obtain ⟨m, hm, h⟩ := Option.bind_eq_some_iff.1 h
  obtain ⟨n, hn, h⟩ := Option.bind_eq_some_iff.1 h
  obtain ⟨w, hw, h⟩ := Option.map_eq_some_iff.1 h
  obtain ⟨hstyle, hvalue, hsame⟩ : n.style = .folded ∧ n.value = "x  y\n" ∧ _ := by simpa using h
  exact ⟨m, n, w, eq_ok_of_toOption hm, hn, hstyle, hvalue, hw, hsame⟩

end ManifestMarkers.Manifest.Canonical
