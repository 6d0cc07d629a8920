import ManifestMarkers.Proofs.CheckedSplitting
import ManifestMarkers.Proofs.ManifestTree

/-!
# Scalars behind a cursor

A scalar that goes on over lines is read by a cursor that moves over all lines of the document. It
also moves back, and bytes that are counted on the whole scalar cut its last line. Here both are
checked.

* `Checked.blockScalar` gives trailing blank lines back, one step of the cursor each. It has gone
  over them before (`Checked.giveBack_eq`).
* `Checked.quotedLines` finds the closing quote in the scalar so far and cuts the last line behind
  it. The quote is on that line, because the scalar was open before (`exists_splitQuoted?_append`).
* `Checked.scalarNode` reads any scalar. It does what `Manifest.scalarNode` does with the lines
  behind the cursor (`Checked.scalarNode_mirrors`).
-/

namespace ManifestMarkers

namespace Manifest

/-! ### Quotes that stay open -/

/-- More text does not close a double-quoted scalar before the end it had. -/
theorem exists_splitDouble_append {escaped : Bool} {cs more q rest : List Char} {c : Char}
    (hc : c ≠ '"') (hopen : splitDouble escaped cs = none)
    (h : splitDouble escaped (cs ++ c :: more) = some (q, rest)) :
    ∃ tail, q = cs ++ c :: tail ∧ more = tail ++ rest := by
  induction cs generalizing escaped q with
  | nil =>
    rw [List.nil_append, splitDouble, if_neg fun h => hc h.1] at h
    obtain ⟨⟨q', rest'⟩, hmore, heq⟩ := Option.map_eq_some_iff.1 h
    cases heq
    exact ⟨q', rfl, (quotes_splitDouble hmore).1⟩
  | cons d cs ih =>
    rw [splitDouble] at hopen
    rw [List.cons_append, splitDouble] at h
    split at hopen
    · cases hopen
    · next hd =>
      rw [if_neg hd] at h
      obtain ⟨⟨q', rest'⟩, hq, heq⟩ := Option.map_eq_some_iff.1 h
      cases heq
      obtain ⟨tail, rfl, rfl⟩ := ih (Option.map_eq_none_iff.1 hopen) hq
      exact ⟨tail, rfl, rfl⟩

/-- More text does not close a single-quoted scalar before the end it had: no quote in it stands
alone, and the last one is not the first of two. -/
theorem exists_splitSingle_append {cs more q rest : List Char} {c : Char} (hc : c ≠ '\'')
    (hopen : splitSingle cs = none) (h : splitSingle (cs ++ c :: more) = some (q, rest)) :
    ∃ tail, q = cs ++ c :: tail ∧ more = tail ++ rest := by
  fun_induction splitSingle cs generalizing q with
  | case1 =>
    rw [List.nil_append, splitSingle_cons hc] at h
    obtain ⟨⟨q', rest'⟩, hmore, heq⟩ := Option.map_eq_some_iff.1 h
    cases heq
    exact ⟨q', rfl, (quotes_splitSingle hmore).1⟩
  | case2 => cases hopen
  | case3 cs ih =>
    rw [List.cons_append, List.cons_append, splitSingle] at h
    obtain ⟨⟨q', rest'⟩, hq, heq⟩ := Option.map_eq_some_iff.1 h
    cases heq
    obtain ⟨tail, rfl, rfl⟩ := ih (Option.map_eq_none_iff.1 hopen) hq
    exact ⟨tail, rfl, rfl⟩
  | case4 cs hne hsingle => cases hopen
  | case5 d cs hne hsingle hd ih =>
    rw [List.cons_append, splitSingle_cons hd] at h
    obtain ⟨⟨q', rest'⟩, hq, heq⟩ := Option.map_eq_some_iff.1 h
    cases heq
    obtain ⟨tail, rfl, rfl⟩ := ih (Option.map_eq_none_iff.1 hopen) hq
    exact ⟨tail, rfl, rfl⟩

/-- A quoted scalar that is open at the end of a line is closed on a later one. -/
theorem exists_splitQuoted?_append {cs more q rest : List Char} (hcs : startsQuoted cs = true)
    (hopen : splitQuoted? cs = none) (h : splitQuoted? (cs ++ '\n' :: more) = some (q, rest)) :
    ∃ tail, q = cs ++ '\n' :: tail ∧ more = tail ++ rest := by
  unfold startsQuoted at hcs
  split at hcs
  · rw [splitQuoted?] at hopen
    rw [List.cons_append, splitQuoted?] at h
    obtain ⟨⟨q', rest'⟩, hq, heq⟩ := Option.map_eq_some_iff.1 h
    cases heq
    obtain ⟨tail, rfl, rfl⟩ :=
      exists_splitDouble_append (by decide) (Option.map_eq_none_iff.1 hopen) hq
    exact ⟨tail, rfl, rfl⟩
  · rw [splitQuoted?] at hopen
    rw [List.cons_append, splitQuoted?] at h
    obtain ⟨⟨q', rest'⟩, hq, heq⟩ := Option.map_eq_some_iff.1 h
    cases heq
    obtain ⟨tail, rfl, rfl⟩ :=
      exists_splitSingle_append (by decide) (Option.map_eq_none_iff.1 hopen) hq
    exact ⟨tail, rfl, rfl⟩
  · cases hcs

end Manifest

namespace Checked

open Text Manifest

/-! ### Lines behind a cursor -/

/-- The fault is one of decoding or of the layout. -/
def IsYaml (e : Fault) : Prop := e.code = "markers::yaml"

/-- The checked computation `x` ends as `y` does: with the same fault of decoding or layout, or with
a value that has the property `P` and that `view` takes to the value of `y`. -/
def Mirrors {α β : Type} (P : α → Prop) (view : α → β) (x : Checked α) (y : Except Fault β) :
    Prop :=
  (∃ e, IsYaml e ∧ x = .fault e ∧ y = .error e) ∨
    ∃ value, P value ∧ x = .ok value ∧ y = .ok (view value)

/-- What comes behind computations that end in the same way ends in the same way. -/
theorem Mirrors.bind {α β γ δ : Type} {P : α → Prop} {view : α → β} {Q : γ → Prop} {view' : γ → δ}
    {x : Checked α} {y : Except Fault β} {f : α → Checked γ} {g : β → Except Fault δ}
    (h : Mirrors P view x y)
    (hf : ∀ value, P value → y = .ok (view value) → Mirrors Q view' (f value) (g (view value))) :
    Mirrors Q view' (x >>= f) (y.bind g) := by
  rcases h with ⟨e, he, rfl, rfl⟩ | ⟨value, hvalue, rfl, rfl⟩
  · exact .inl ⟨e, he, rfl, rfl⟩
  · exact hf value hvalue rfl

theorem Mirrors.mono {α β : Type} {P Q : α → Prop} {view : α → β} {x : Checked α}
    {y : Except Fault β} (h : Mirrors P view x y) (hPQ : ∀ value, P value → Q value) :
    Mirrors Q view x y := by
  rcases h with hfault | ⟨value, hvalue, hx, hy⟩
  · exact .inl hfault
  · exact .inr ⟨value, hPQ value hvalue, hx, hy⟩

theorem isYaml_of_decodeQuoted {text : List Char} {e : Fault} (h : decodeQuoted text = .error e) :
    IsYaml e := by
  unfold decodeQuoted at h
  split at h
  · cases h
  · cases h
    rfl

theorem isYaml_of_decodeSingle {text : List Char} {number : Nat} {e : Fault}
    (h : decodeSingle text number = .error e) : IsYaml e := by
  unfold decodeSingle layoutFault at h
  repeat' split at h
  all_goals
    cases h
    try rfl

theorem isYaml_of_decodeScalar {text : List Char} {number : Nat} {e : Fault}
    (h : decodeScalar text number = .error e) : IsYaml e := by
  unfold decodeScalar at h
  split at h
  · exact isYaml_of_decodeQuoted h
  · split at h
    · exact isYaml_of_decodeQuoted h
    · exact isYaml_of_decodeSingle h
  · cases h

theorem drop_eq_cons {lines : List Line} {i : Nat} {l : Line} (h : lines[i]? = some l) :
    lines.drop i = l :: lines.drop (i + 1) := by
  obtain ⟨hi, rfl⟩ := List.getElem?_eq_some_iff.1 h
  exact List.drop_eq_getElem_cons hi

theorem drop_eq_nil {lines : List Line} {i : Nat} (h : lines[i]? = none) : lines.drop i = [] :=
  List.drop_eq_nil_iff.2 (List.getElem?_eq_none_iff.1 h)

theorem lt_length_of_eq_some {lines : List Line} {i : Nat} {l : Line} (h : lines[i]? = some l) :
    i < lines.length := (List.getElem?_eq_some_iff.1 h).1

/-! ### Plain, flow and block scalars -/

/-- Go over the lines that continue a plain scalar. -/
def plainLines (parent : Nat) (lines : List Line) (cursor : Nat) (value raw : List Char) :
    List Char × List Char × Nat :=
  match _h : lines[cursor]? with
  | none => (value, raw, cursor)
  | some l =>
    if l.kind ≠ .content ∨ l.indent ≤ parent then (value, raw, cursor)
    else plainLines parent lines (cursor + 1) (value ++ ' ' :: l.text) (raw ++ '\n' :: l.raw)
termination_by lines.length - cursor
decreasing_by
  have hlt := lt_length_of_eq_some _h
  omega

/-- Go over lines until all brackets are closed. -/
def flowLines (number : Nat) (lines : List Line) (cursor : Nat) (depth : Int) (raw : List Char) :
    Checked (List Char × Nat) :=
  if depth > 0 then
    match _h : lines[cursor]? with
    | none => .fault (.layout number .unterminatedFlow)
    | some l =>
      flowLines number lines (cursor + 1) (depth + flowDepth l.text) (raw ++ '\n' :: l.raw)
  else return (raw, cursor)
termination_by lines.length - cursor
decreasing_by
  have hlt := lt_length_of_eq_some _h
  omega

/-- Go over the lines of a block scalar, which are collected with the last one first. -/
def blockFrom (parent : Nat) (lines : List Line) (cursor : Nat) (block : List Line) :
    List Line × Nat :=
  match _h : lines[cursor]? with
  | none => (block, cursor)
  | some l =>
    if l.kind ≠ .blank ∧ l.indent ≤ parent then (block, cursor)
    else blockFrom parent lines (cursor + 1) (l :: block)
termination_by lines.length - cursor
decreasing_by
  have hlt := lt_length_of_eq_some _h
  omega

/-- Give the blank lines at the end back. -/
def giveBack : List Line → Nat → Checked (List Line × Nat)
  | [], cursor => return ([], cursor)
  | l :: block, cursor =>
    if l.kind = .blank then do giveBack block (← sub cursor 1) else return (l :: block, cursor)

/-- The content and the text of a block scalar, with the cursor behind it. -/
def blockScalar (header : List Char) (parent : Nat) (lines : List Line) (cursor : Nat) :
    Checked (List Char × List Char × Nat) := do
  let (block, cursor) := blockFrom parent lines cursor []
  let (block, cursor) ← giveBack block cursor
  let block := block.reverse
  let indent := match block.find? (·.kind != .blank) with
    | some l => l.indent
    | none => 0
  let content := block.map fun l => (dropBytes? l.raw indent).getD []
  let value := if header.head? == some '|' then joinWith ['\n'] content else foldLines content
  let value := if !header.contains '-' && !content.isEmpty then value ++ ['\n'] else value
  return (value, header ++ block.flatMap fun l => '\n' :: l.raw, cursor)

theorem plainLines_eq (parent : Nat) (lines : List Line) (cursor : Nat) (value raw : List Char) :
    plainLines parent lines cursor value raw =
      let more := (lines.drop cursor).takeWhile (isContinuation parent)
      (value ++ more.flatMap (fun l => ' ' :: l.text), raw ++ more.flatMap (fun l => '\n' :: l.raw),
        cursor + more.length) := by
  fun_induction plainLines parent lines cursor value raw with
  | case1 cursor value raw hnone => simp [drop_eq_nil hnone]
  | case2 cursor value raw l hsome hend =>
    have hl : isContinuation parent l = false := by
      rcases hend with hkind | hindent
      · simp [isContinuation, hkind]
      · simp [isContinuation, Nat.not_lt.2 hindent]
    simp [drop_eq_cons hsome, hl]
  | case3 cursor value raw l hsome hmore ih =>
    obtain ⟨hkind, hindent⟩ := not_or.1 hmore
    have hl : isContinuation parent l = true := by
      simp [isContinuation, not_not.1 hkind, Nat.not_le.1 hindent]
    rw [ih]
    simp [drop_eq_cons hsome, hl, Nat.add_assoc, Nat.add_comm 1]

theorem flowLines_mirrors (number : Nat) (lines : List Line) (cursor : Nat) (depth : Int)
    (raw : List Char) :
    Mirrors (cursor ≤ ·.2) (fun p => (p.1, lines.drop p.2))
      (flowLines number lines cursor depth raw)
      (flowScalar number depth raw (lines.drop cursor)) := by
  fun_induction flowLines number lines cursor depth raw with
  | case1 cursor depth raw hdepth hnone =>
    refine .inl ⟨.layout number .unterminatedFlow, rfl, rfl, ?_⟩
    rw [drop_eq_nil hnone, flowScalar, if_pos hdepth]
    rfl
  | case2 cursor depth raw hdepth l hsome ih =>
    have hstep : flowScalar number depth raw (lines.drop cursor) =
        flowScalar number (depth + flowDepth l.text) (raw ++ '\n' :: l.raw)
          (lines.drop (cursor + 1)) := by
      rw [drop_eq_cons hsome, flowScalar, if_pos hdepth]
    rw [hstep]
    exact ih.mono fun p hp => Nat.le_of_succ_le hp
  | case3 cursor depth raw hdepth =>
    refine .inr ⟨(raw, cursor), Nat.le_refl _, rfl, ?_⟩
    show _ = Except.ok (raw, lines.drop cursor)
    cases lines.drop cursor <;> rw [flowScalar, if_neg hdepth]

theorem blockFrom_eq (parent : Nat) (lines : List Line) (cursor : Nat) (block : List Line) :
    blockFrom parent lines cursor block =
      let more := (lines.drop cursor).takeWhile (isBlockLine parent)
      (more.reverse ++ block, cursor + more.length) := by
  fun_induction blockFrom parent lines cursor block with
  | case1 cursor block hnone => simp [drop_eq_nil hnone]
  | case2 cursor block l hsome hend =>
    have hl : isBlockLine parent l = false := by
      simp [isBlockLine, hend.1, Nat.not_lt.2 hend.2]
    simp [drop_eq_cons hsome, hl]
  | case3 cursor block l hsome hmore ih =>
    have hl : isBlockLine parent l = true := by
      by_cases hkind : l.kind = .blank
      · simp [isBlockLine, hkind]
      · have hindent : ¬ l.indent ≤ parent := fun h => hmore ⟨hkind, h⟩
        simp [isBlockLine, Nat.not_le.1 hindent]
    rw [ih]
    simp [drop_eq_cons hsome, hl, Nat.add_assoc, Nat.add_comm 1]

/-- The cursor is at least as many steps from the start as there are lines to give back. -/
theorem giveBack_eq (start : Nat) (block : List Line) :
    giveBack block (start + block.length) =
      let kept := block.dropWhile (·.kind == .blank)
      .ok (kept, start + kept.length) := by
  induction block with
  | nil => rfl
  | cons l block ih =>
    rw [giveBack]
    by_cases hl : l.kind = .blank
    · have hlength : (l :: block).length = block.length + 1 := List.length_cons
      have hback : start + (l :: block).length - 1 = start + block.length := by omega
      rw [if_pos hl, sub_of_le (by omega), ok_bind, hback, ih]
      simp [hl]
    · rw [if_neg hl]
      simp [hl]

theorem blockScalar_eq_ok (header : List Char) (parent : Nat) (lines : List Line) (cursor : Nat) :
    blockScalar header parent lines cursor =
      .ok ((Manifest.blockScalar header parent (lines.drop cursor)).1,
        (Manifest.blockScalar header parent (lines.drop cursor)).2.1,
        cursor + (blockLines parent (lines.drop cursor)).length) := by
  have hback := giveBack_eq cursor ((lines.drop cursor).takeWhile (isBlockLine parent)).reverse
  rw [List.length_reverse] at hback
  unfold blockScalar
  simp only [blockFrom_eq, List.append_nil, hback, ok_bind]
  rw [Manifest.blockScalar, blockLines, List.length_reverse]
  rfl

theorem blockScalar_eq (header : List Char) (parent : Nat) (lines : List Line) (cursor : Nat) :
    ∃ n, blockScalar header parent lines cursor =
      .ok ((Manifest.blockScalar header parent (lines.drop cursor)).1,
        (Manifest.blockScalar header parent (lines.drop cursor)).2.1, cursor + n) ∧
      (Manifest.blockScalar header parent (lines.drop cursor)).2.2 = lines.drop (cursor + n) := by
  refine ⟨(blockLines parent (lines.drop cursor)).length, blockScalar_eq_ok .., ?_⟩
  rw [Manifest.blockScalar]
  simp

/-- A block scalar is what the cursor goes over without the blank lines at the end. -/
theorem exists_blockLines_append (parent : Nat) (lines : List Line) :
    ∃ blanks, lines.takeWhile (isBlockLine parent) = blockLines parent lines ++ blanks ∧
      ∀ l ∈ blanks, l.kind = .blank := by
  generalize hover : lines.takeWhile (isBlockLine parent) = taken
  refine ⟨(taken.reverse.takeWhile (·.kind == .blank)).reverse, ?_, fun l hl => ?_⟩
  · rw [blockLines, hover, ← List.reverse_append, List.takeWhile_append_dropWhile,
      List.reverse_reverse]
  · simpa using List.mem_takeWhile_imp (List.mem_reverse.1 hl)

/-- Where the cursor stops behind a block scalar: it may have gone further, but only blank lines are
given back. -/
theorem exists_blockScalar_stop (header : List Char) (parent : Nat) (lines : List Line)
    (cursor : Nat) : ∃ value raw stop, blockScalar header parent lines cursor =
        .ok (value, raw, stop) ∧ cursor ≤ stop ∧ stop ≤ (blockFrom parent lines cursor []).2 ∧
      ∀ l ∈ (lines.take (blockFrom parent lines cursor []).2).drop stop, l.kind = .blank := by
  obtain ⟨blanks, hover, hblanks⟩ := exists_blockLines_append parent (lines.drop cursor)
  have hpast : (blockFrom parent lines cursor []).2 =
      cursor + (blockLines parent (lines.drop cursor) ++ blanks).length := by
    rw [blockFrom_eq, hover]
  refine ⟨_, _, _, blockScalar_eq_ok header parent lines cursor, Nat.le_add_right _ _, ?_, ?_⟩
  · rw [hpast, List.length_append]
    omega
  · -- between both places of the cursor there are just the blank lines
    have htake : (lines.drop cursor).take (blockLines parent (lines.drop cursor) ++ blanks).length =
        blockLines parent (lines.drop cursor) ++ blanks := by
      rw [← hover]
      exact (List.prefix_iff_eq_take.1 (List.takeWhile_prefix _)).symm
    rw [hpast, ← List.drop_drop, List.drop_take, Nat.add_sub_cancel_left, htake, List.drop_left]
    exact hblanks

/-! ### Quoted scalars -/

/-- What stands behind a scalar that ends on a line: nothing or a comment. -/
def behindQuote (l : Line) (quoted trailing : List Char) (cursor : Nat) :
    Checked (List Char × Option (List Char) × Nat) :=
  match trailing with
  | [] => return (quoted, none, cursor)
  | '#' :: _ => return (quoted, some trailing, cursor)
  | _ => .fault (.layout l.number .textAfterQuoted)

/-- Go over lines until the quote is closed, which is found in the scalar so far. Gives its text and
the comment behind it on the line before the cursor. -/
def quotedLines (number : Nat) (lines : List Line) (cursor : Nat) (raw : List Char) :
    Checked (List Char × Option (List Char) × Nat) :=
  match _h : lines[cursor]? with
  | none => .fault (.layout number .unterminatedQuoted)
  | some l => do
    let start := byteSize raw + 1
    let whole := raw ++ '\n' :: l.raw
    match ← quotedEnd whole with
    | none => quotedLines number lines (cursor + 1) whole
    | some stop =>
      let trailing := trim (← sliceFrom l.raw (← sub stop start))
      let quoted ← sliceTo whole stop
      behindQuote l quoted trailing (cursor + 1)
termination_by lines.length - cursor
decreasing_by
  have hlt := lt_length_of_eq_some _h
  omega

/-- A quoted scalar. -/
def quotedScalar (number : Nat) (text : List Char) (lines : List Line) (cursor : Nat) :
    Checked (List Char × Option (List Char) × Nat) := do
  match ← quotedEnd text with
  | some _ => return (text, none, cursor)
  | none => quotedLines number lines cursor text

/-- The comment behind a quoted scalar, with the line before the cursor, and the lines behind it. -/
def quotedView (lines : List Line) (p : List Char × Option (List Char) × Nat) :
    List Char × Option (Line × List Char) × List Line :=
  (p.1, p.2.1.bind fun comment => (lines[p.2.2 - 1]?).map fun l => (l, comment),
    lines.drop p.2.2)

/-- The cursor has moved from `cursor` on, and over a line if there is a comment. -/
def QuotedAt (lines : List Line) (cursor : Nat) (p : List Char × Option (List Char) × Nat) : Prop :=
  cursor ≤ p.2.2 ∧ (p.2.1.isSome = true → 1 ≤ p.2.2 ∧ p.2.2 ≤ lines.length)

section

variable {number cursor : Nat} {lines : List Line} {raw : List Char} {l : Line}

/-- The scalar goes on over the line. -/
theorem quotedLines_open (hline : lines[cursor]? = some l)
    (hsplit : splitQuoted? (raw ++ '\n' :: l.raw) = none) :
    quotedLines number lines cursor raw =
      quotedLines number lines (cursor + 1) (raw ++ '\n' :: l.raw) := by
  rw [quotedLines]
  split
  · next hl =>
    rw [hline] at hl
    cases hl
  · next l' hl =>
    rw [hline] at hl
    obtain rfl := Option.some.inj hl
    dsimp only
    rw [quotedEnd_eq, ok_bind, hsplit]
    rfl

/-- The scalar ends on the line: it was open before, so that the quote is on this line. -/
theorem quotedLines_closed {quoted rest : List Char} (hquoted : startsQuoted raw = true)
    (hopen : splitQuoted? raw = none) (hline : lines[cursor]? = some l)
    (hsplit : splitQuoted? (raw ++ '\n' :: l.raw) = some (quoted, rest)) :
    quotedLines number lines cursor raw = behindQuote l quoted (trim rest) (cursor + 1) := by
  rw [quotedLines]
  split
  · next hl =>
    rw [hline] at hl
    cases hl
  · next l' hl =>
    rw [hline] at hl
    obtain rfl := Option.some.inj hl
    obtain ⟨tail, htail, hrest⟩ := exists_splitQuoted?_append hquoted hopen hsplit
    have hsize : byteSize quoted = byteSize raw + 1 + byteSize tail := by
      rw [htail, byteSize_append, byteSize_cons, Nat.add_assoc]
      rfl
    have hcut : sliceFrom l.raw (byteSize tail) = .ok rest := by
      rw [hrest, sliceFrom_append]
    have hto : sliceTo (raw ++ '\n' :: l.raw) (byteSize quoted) = .ok quoted := by
      rw [(quotes_splitQuoted? hsplit).1, sliceTo_append]
    have hsub : sub (byteSize quoted) (byteSize raw + 1) = .ok (byteSize tail) := by
      rw [sub_of_le (by omega), hsize]
      congr 1
      omega
    dsimp only
    rw [quotedEnd_eq, ok_bind, hsplit]
    simp only [Option.map_some, hsub, ok_bind, hcut, hto]

end

theorem quotedLines_mirrors (number : Nat) (lines : List Line) (cursor : Nat) (raw : List Char)
    (hquoted : startsQuoted raw = true) (hopen : splitQuoted? raw = none) :
    Mirrors (QuotedAt lines cursor) (quotedView lines) (quotedLines number lines cursor raw)
      (Manifest.quotedLines number raw (lines.drop cursor)) := by
  cases hline : lines[cursor]? with
  | none =>
    refine .inl ⟨.layout number .unterminatedQuoted, rfl, ?_, ?_⟩
    · unfold quotedLines
      split
      · rfl
      · next l hl => rw [hline] at hl; cases hl
    · rw [drop_eq_nil hline]
      rfl
  | some l =>
    have hlt := lt_length_of_eq_some hline
    rw [drop_eq_cons hline, Manifest.quotedLines]
    dsimp only
    cases hsplit : splitQuoted? (raw ++ '\n' :: l.raw) with
    | none =>
      have hquoted' : startsQuoted (raw ++ '\n' :: l.raw) = true :=
        startsQuoted_mono (List.prefix_append _ _) hquoted
      have hmore := quotedLines_mirrors number lines (cursor + 1) (raw ++ '\n' :: l.raw) hquoted'
        hsplit
      rw [quotedLines_open hline hsplit]
      exact hmore.mono fun p hp => ⟨Nat.le_of_succ_le hp.1, hp.2⟩
    | some split =>
      obtain ⟨quoted, rest⟩ := split
      rw [quotedLines_closed hquoted hopen hline hsplit]
      dsimp only
      cases trim rest with
      | nil => exact .inr ⟨(quoted, none, cursor + 1), ⟨Nat.le_succ _, by simp⟩, rfl, rfl⟩
      | cons c more =>
        by_cases hc : c = '#'
        · subst hc
          refine .inr ⟨(quoted, some ('#' :: more), cursor + 1), ⟨Nat.le_succ _, ?_⟩, rfl, ?_⟩
          · intro _
            exact ⟨Nat.le_add_left _ _, hlt⟩
          · rw [quotedView, Option.bind_some, Nat.add_sub_cancel, hline]
            rfl
        · refine .inl ⟨.layout l.number .textAfterQuoted, rfl, ?_, ?_⟩
          · simp [behindQuote, hc]
          · simp [hc, layoutFault]
termination_by lines.length - cursor

theorem quotedScalar_mirrors (number : Nat) (text : List Char) (lines : List Line) (cursor : Nat)
    (hquoted : startsQuoted text = true) :
    Mirrors (QuotedAt lines cursor) (quotedView lines) (quotedScalar number text lines cursor)
      (Manifest.quotedScalar number text (lines.drop cursor)) := by
  rw [quotedScalar, Manifest.quotedScalar, quotedEnd_eq, ok_bind]
  cases hsplit : splitQuoted? text with
  | none => exact quotedLines_mirrors number lines cursor text hquoted hsplit
  | some split => exact .inr ⟨(text, none, cursor), ⟨Nat.le_refl _, by simp⟩, rfl, rfl⟩

/-! ### Any scalar -/

/-- A scalar that starts on the line before the cursor, with the cursor behind it. -/
def scalarNode (v : InlineValue) (number parent column : Nat) (lines : List Line) (cursor : Nat) :
    Checked (Node × Nat) := do
  let first ← ofOption lines[← sub cursor 1]?
  let base : Node :=
    { kind := .scalar
      line := number
      column
      style := styleOf v.text
      tag := v.tag.map String.ofList
      anchor := v.anchor.map String.ofList
      lineComment := String.ofList v.comment
      linePosition := ← commentPoint first v.comment }
  let finish (value raw : List Char) (n : Node) : Node :=
    { n with value := String.ofList value, raw := some (String.ofList raw) }
  match base.style with
  | .literal | .folded =>
    let (value, raw, cursor) ← blockScalar v.text parent lines cursor
    return (finish value raw base, cursor)
  | .flow =>
    let (raw, cursor) ← flowLines number lines cursor (flowDepth v.text) v.text
    return (finish raw raw base, cursor)
  | .plain =>
    let (value, raw, cursor) := plainLines parent lines cursor v.text v.text
    return (finish value raw base, cursor)
  | .singleQuoted | .doubleQuoted =>
    let (raw, comment, cursor) ← quotedScalar number v.text lines cursor
    let n ← match comment with
      | none => pure base
      | some comment => do
        let last ← ofOption lines[← sub cursor 1]?
        let linePosition ← commentPoint last comment
        pure { base with lineComment := String.ofList comment, linePosition }
    let value ← ofExcept (decodeScalar raw number)
    return (finish value raw n, cursor)

/-- Reading a scalar behind the cursor is reading it from the lines there. -/
theorem scalarNode_mirrors (v : InlineValue) (line : Line) (parent column : Nat)
    (lines : List Line) (cursor : Nat) (hcursor : 1 ≤ cursor)
    (hline : lines[cursor - 1]? = some line) :
    Mirrors (cursor ≤ ·.2) (fun p => (p.1, lines.drop p.2))
      (scalarNode v line.number parent column lines cursor)
      (Manifest.scalarNode v line parent column (lines.drop cursor)) := by
  unfold scalarNode Manifest.scalarNode
  rw [sub_of_le hcursor, ok_bind, hline, ofOption_some, ok_bind, commentPoint_eq, ok_bind]
  dsimp only
  cases hstyle : styleOf v.text with
  | plain =>
    dsimp only
    rw [plainLines_eq]
    refine .inr ⟨_, ?_, rfl, ?_⟩
    · exact Nat.le_add_right _ _
    · simp [Manifest.plainScalar]
  | literal | folded =>
    obtain ⟨n, hx, hy⟩ := blockScalar_eq v.text parent lines cursor
    dsimp only
    rw [hx, ok_bind]
    refine .inr ⟨_, ?_, rfl, ?_⟩
    · exact Nat.le_add_right _ _
    · rw [hy]
  | flow =>
    dsimp only
    rcases flowLines_mirrors line.number lines cursor (flowDepth v.text) v.text with
      ⟨e, he, hx, hy⟩ | ⟨p, hp, hx, hy⟩
    · rw [hx, hy]
      exact .inl ⟨e, he, rfl, rfl⟩
    · rw [hx, hy, ok_bind]
      exact .inr ⟨_, hp, rfl, rfl⟩
  | singleQuoted | doubleQuoted =>
    have hquoted : startsQuoted v.text = true := by rw [startsQuoted_eq, hstyle]; rfl
    dsimp only
    rcases quotedScalar_mirrors line.number v.text lines cursor hquoted with
      ⟨e, he, hx, hy⟩ | ⟨⟨raw, comment, stop⟩, ⟨hstop, hlast⟩, hx, hy⟩
    · rw [hx, hy]
      exact .inl ⟨e, he, rfl, rfl⟩
    · rw [hx, hy, ok_bind, quotedView]
      cases comment with
      | none =>
        dsimp only [Option.bind_none]
        rw [pure_eq, ok_bind]
        cases hdecode : decodeScalar raw line.number with
        | error e => exact .inl ⟨e, isYaml_of_decodeScalar hdecode, rfl, rfl⟩
        | ok value => exact .inr ⟨_, hstop, rfl, rfl⟩
      | some comment =>
        -- the comment is on the line before the cursor
        have hpos : 1 ≤ stop := (hlast rfl).1
        have hle : stop ≤ lines.length := (hlast rfl).2
        have hlt : stop - 1 < lines.length := by omega
        dsimp only [Option.bind_some]
        rw [sub_of_le hpos, ok_bind, List.getElem?_eq_getElem hlt, ofOption_some, ok_bind,
          commentPoint_eq, ok_bind, pure_eq, ok_bind]
        cases hdecode : decodeScalar raw line.number with
        | error e => exact .inl ⟨e, isYaml_of_decodeScalar hdecode, rfl, rfl⟩
        | ok value => exact .inr ⟨_, hstop, rfl, rfl⟩

end Checked

end ManifestMarkers
