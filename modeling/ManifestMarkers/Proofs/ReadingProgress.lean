import ManifestMarkers.Proofs.ManifestOrder

/-!
# Reading goes forward

The lines that the builder leaves are the last ones of those it got. A node uses up its line, and so
does a collection at its first pair or item; the line is read again only behind a dash, where its
text is shorter.

* `Manifest.suffix_of_reads`: every task leaves lines at the end, and one that starts at a line
  leaves that line behind.
* `Manifest.linesWeight_le_of_suffix`, `Manifest.linesWeight_tail` and `Manifest.linesWeight_dash`
  bound the weight of what is left.
-/

namespace ManifestMarkers.Manifest

/-! ### The weight of lines -/

theorem linesWeight_le_of_suffix {lines lines' : List Line} (h : lines' <:+ lines) :
    linesWeight lines' ≤ linesWeight lines := by
  obtain ⟨before, rfl⟩ := h
  induction before with
  | nil => exact Nat.le_refl _
  | cons l before ih =>
    rw [List.cons_append, linesWeight]
    omega

/-- A line that is used up counts for two at least. -/
theorem linesWeight_tail (line : Line) {lines rest : List Line} (h : rest <:+ lines) :
    linesWeight rest + 2 ≤ linesWeight (line :: lines) := by
  have hle := linesWeight_le_of_suffix h
  rw [linesWeight]
  omega

/-- What stands behind a dash is shorter than the item. -/
theorem linesWeight_dash {line : Line} (hitem : isItem line.text = true) (lines : List Line)
    (indent : Nat) :
    linesWeight ({ line with indent, text := Text.trimStart (line.text.drop 1) } :: lines) + 1 ≤
      linesWeight (line :: lines) := by
  have hne : line.text ≠ [] := by
    rintro hnil
    rw [hnil] at hitem
    cases hitem
  have hpos := List.length_pos_iff.2 hne
  have hle : (Text.trimStart (line.text.drop 1)).length ≤ (line.text.drop 1).length :=
    (List.dropWhile_suffix _).length_le
  rw [List.length_drop] at hle
  simp only [linesWeight]
  omega

/-! ### What a task leaves -/

/-- The task uses up the current line. -/
def Task.Starts (b : Build) : Task → Prop
  | .node indent => b.IsAt indent fun _ => True
  | .pairs _ indent _ => b.IsAt indent fun text => (splitKey? text).isSome = true
  | .items _ indent _ => b.IsAt indent fun text => isItem text = true
  | .nested _ _ _ _ => False

theorem Task.Starts.isAt {task : Task} {b : Build} (h : task.Starts b) :
    ∃ indent, b.IsAt indent fun _ => True := by
  cases task with
  | node indent => exact ⟨indent, h⟩
  | pairs mapping indent last | items sequence indent last =>
    obtain ⟨line, lines, hlines, hkind, hindent, -⟩ := h
    exact ⟨indent, line, lines, hlines, hkind, hindent, trivial⟩
  | nested => exact h.elim

/-- A collection without content is at its first line. -/
theorem Build.IsAt.of_push {b : Build} {n : Node} {indent : Nat} {line : Line} {lines : List Line}
    (h : b.IsAt indent fun _ => True) (hlines : b.lines = line :: lines)
    (sort : List Char → Prop) (hsort : sort line.text) : (b.push n).2.IsAt indent sort := by
  obtain ⟨first, rest, hfirst, hkind, hindent, -⟩ := h
  obtain ⟨rfl, rfl⟩ := List.cons.inj (hlines.symm.trans hfirst)
  exact ⟨line, lines, hlines, hkind, hindent, hsort⟩

/-- A task that starts at the current line does not end there. -/
theorem not_end_of_isAt {b : Build} {indent : Nat} {sort : List Char → Prop}
    (h : b.IsAt indent sort)
    (hend : ∀ line ∈ b.toContent.lines.head?, line.indent < indent ∨ ¬ sort line.text) : False := by
  rw [h.toContent_eq] at hend
  obtain ⟨line, lines, hlines, -, hindent, hsort⟩ := h
  rcases hend line (by rw [hlines]; rfl) with hlt | hno
  · omega
  · exact hno hsort

/-- What is left behind the first line, for a task that reads on from behind it. -/
theorem suffix_of_toContent {b : Build} {line : Line} {lines rest : List Line}
    (hlines : b.toContent.lines = line :: lines) (h : rest <:+ lines) :
    rest <:+ b.lines ∧ ∀ indent sort, b.IsAt indent sort → rest <:+ b.lines.tail := by
  refine ⟨?_, fun indent sort hat => ?_⟩
  · have hall := b.toContent_suffix
    rw [hlines] at hall
    exact (h.trans (List.suffix_cons line lines)).trans hall
  · rw [hat.toContent_eq] at hlines
    rw [hlines]
    exact h

/-- Every task leaves the last of the lines, and one that starts at a line leaves it behind. -/
theorem suffix_of_reads {task : Task} {b b' : Build} {t : Tally} {id : Nat}
    (h : Reads task b t id b') :
    b'.lines <:+ b.lines ∧ (task.Starts b → b'.lines <:+ b.lines.tail) := by
  -- the lines that are left behind a pair or an item, and then behind the whole task
  have hbehind {task : Task} {b : Build} {line : Line} {lines rest : List Line}
      (hlines : b.toContent.lines = line :: lines) (hrest : rest <:+ lines) :
      rest <:+ b.lines ∧ (task.Starts b → rest <:+ b.lines.tail) := by
    obtain ⟨hsuffix, htail⟩ := suffix_of_toContent hlines hrest
    refine ⟨hsuffix, fun hstarts => ?_⟩
    obtain ⟨indent, hat⟩ := hstarts.isAt
    exact htail indent _ hat
  induction h with
  | @sequence indent line lines b b' t hlines hitem h ih =>
    refine ⟨ih.1, fun hstarts => ih.2 ?_⟩
    exact Build.IsAt.of_push hstarts hlines (isItem · = true) hitem
  | @mapping indent line lines b b' t hlines hkey h ih =>
    refine ⟨ih.1, fun hstarts => ih.2 ?_⟩
    exact Build.IsAt.of_push hstarts hlines (fun text => (splitKey? text).isSome = true) hkey
  | @scalarLine indent line lines rest n b hlines hitem hkey hn =>
    have hrest := scalarNode_suffix hn
    rw [hlines]
    exact ⟨hrest.trans (List.suffix_cons line lines), fun _ => hrest⟩
  | @pairsEnd mapping indent last b hend =>
    refine ⟨by simpa using b.toContent_suffix, fun hstarts => ?_⟩
    replace hstarts : b.IsAt indent fun text => (splitKey? text).isSome = true := hstarts
    exact (not_end_of_isAt hstarts (by simpa using hend)).elim
  | @inlinePair mapping indent last line lines lines' keyText keyValue rest n b b' t hlines hindent
      hkey hn h ih =>
    exact hbehind hlines (ih.1.trans (scalarNode_suffix hn))
  | @nestedPair mapping indent value last line lines keyText keyValue rest b c b' s t hlines hindent
      hkey hempty hvalue h ihvalue ih =>
    have hdrop : (b.toContent.addKey line indent keyText keyValue).lines = lines := by
      show b.toContent.lines.drop 1 = lines
      rw [hlines]
      rfl
    have hvalueLines : c.lines <:+ lines := by
      rw [← hdrop]
      exact ihvalue.1
    exact hbehind hlines (ih.1.trans hvalueLines)
  | @itemsEnd sequence indent last b hend =>
    refine ⟨by simpa using b.toContent_suffix, fun hstarts => ?_⟩
    replace hstarts : b.IsAt indent fun text => isItem text = true := hstarts
    exact (not_end_of_isAt hstarts (by simpa using hend)).elim
  | @nestedItem sequence indent id last line lines b c b' s t hlines hindent hitem hempty hvalue h
      ihvalue ih =>
    have hdrop : b.toContent.dropLine.clearPending.lines = lines := by
      show b.toContent.lines.drop 1 = lines
      rw [hlines]
      rfl
    have hvalueLines : c.lines <:+ lines := by
      rw [← hdrop]
      exact ihvalue.1
    exact hbehind hlines (ih.1.trans hvalueLines)
  | @compactItem sequence indent id last line lines b c b' s t hlines hindent hitem hvalue h ihvalue
      ih =>
    -- the line is there again, as content behind the dash
    have hkind : line.kind = .content := Build.kind_of_collect (Prod.ext rfl hlines)
    have hvalueLines := ihvalue.2 ⟨_, lines, rfl, hkind, rfl, trivial⟩
    exact hbehind hlines (ih.1.trans hvalueLines)
  | @deeper indent number column id allowSequence line lines b b' t hlines hindent h ih =>
    exact ⟨ih.1.trans b.toContent_suffix, False.elim⟩
  | @missing indent number column allowSequence b hnone =>
    exact ⟨b.toContent_suffix, False.elim⟩

/-- The value of a key leaves the last of the lines. -/
theorem suffix_of_readsValue {indent : Nat} {line : Line} {key : Nat} {keyText rest : List Char}
    {b b' : Build} {t : Tally} {id : Nat} (h : ReadsValue indent line key keyText rest b t id b') :
    b'.lines <:+ b.lines := by
  cases h with
  | inline hn => exact scalarNode_suffix hn
  | nested hempty h => exact (suffix_of_reads h).1

end ManifestMarkers.Manifest
