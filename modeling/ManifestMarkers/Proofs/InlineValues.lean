import Mathlib.Data.List.Infix
import ManifestMarkers.Manifest.Line

/-!
# Values and the comments behind them

What stands behind a key or a dash is split into a value and a comment, and a quoted scalar may hold
what would be a comment elsewhere.

* `quotes_splitQuoted?`: a quoted scalar is found again when less stands behind it.
* `isSome_splitQuoted?_splitValue`: when a comment is split off a value that is quoted, the quotes
  are closed. So a scalar that goes on over lines has no comment on its first line.
* `infix_splitValue` and `suffix_splitKey?`: what is split off is part of the text, and
  `exists_lastIndexOf?` finds it there again.
-/

namespace ManifestMarkers.Manifest

/-! ### Quoted scalars -/

/-- `split` finds the text `quoted` before `rest`, and it still does when less follows. -/
structure Quotes (split : List Char → Option (List Char × List Char)) (quoted rest : List Char) :
    Prop where
  closed : ∃ lead c, quoted = lead ++ [c] ∧ Text.isBlank c = false
  stays : ∀ less, less <+: rest → split (quoted ++ less) = some (quoted, less)

section

variable {split split' : List Char → Option (List Char × List Char)}
  {cs quoted rest : List Char}

theorem Quotes.mono {less : List Char} (h : Quotes split quoted rest) (hless : less <+: rest) :
    Quotes split quoted less :=
  ⟨h.closed, fun _ hshort => h.stays _ (hshort.trans hless)⟩

theorem Quotes.append (h : Quotes split quoted rest) (lead : List Char)
    (hsplit : ∀ cs, split' (lead ++ cs) = (split cs).map fun (q, r) => (lead ++ q, r)) :
    Quotes split' (lead ++ quoted) rest := by
  obtain ⟨⟨before, c, hquoted, hc⟩, hstays⟩ := h
  refine ⟨⟨lead ++ before, c, by rw [hquoted, List.append_assoc], hc⟩, fun less hless => ?_⟩
  rw [List.append_assoc, hsplit, hstays less hless]
  rfl

theorem quotes_splitDouble {escaped : Bool} (h : splitDouble escaped cs = some (quoted, rest)) :
    cs = quoted ++ rest ∧ Quotes (splitDouble escaped) quoted rest := by
  induction cs generalizing escaped quoted with
  | nil => cases h
  | cons c cs ih =>
    rw [splitDouble] at h
    split at h
    · next hclose =>
      cases h
      refine ⟨rfl, ⟨[], c, rfl, hclose.1 ▸ by decide⟩, fun less _ => ?_⟩
      rw [List.singleton_append, splitDouble, if_pos hclose]
    · next hopen =>
      obtain ⟨⟨q, r⟩, hq, heq⟩ := Option.map_eq_some_iff.1 h
      cases heq
      obtain ⟨hcs, hquotes⟩ := ih hq
      refine ⟨congrArg (c :: ·) hcs, hquotes.append [c] fun xs => ?_⟩
      rw [List.singleton_append, splitDouble, if_neg hopen]
      rfl

theorem splitSingle_cons {c : Char} (hc : c ≠ '\'') (cs : List Char) :
    splitSingle (c :: cs) = (splitSingle cs).map fun (q, r) => (c :: q, r) := by
  rw [splitSingle]
  · rw [if_neg hc]
  · exact fun h => absurd h hc
  · exact fun _ h => absurd h hc

theorem quotes_splitSingle (h : splitSingle cs = some (quoted, rest)) :
    cs = quoted ++ rest ∧ Quotes splitSingle quoted rest := by
  fun_induction splitSingle cs generalizing quoted with
  | case1 => cases h
  | case2 =>
    cases h
    refine ⟨rfl, ⟨[], '\'', rfl, by decide⟩, fun less hless => ?_⟩
    rw [List.prefix_nil.1 hless]
    rfl
  | case3 cs ih =>
    obtain ⟨⟨q, r⟩, hq, heq⟩ := Option.map_eq_some_iff.1 h
    cases heq
    obtain ⟨hcs, hquotes⟩ := ih hq
    exact ⟨congrArg ('\'' :: '\'' :: ·) hcs, hquotes.append ['\'', '\''] fun _ => rfl⟩
  | case4 cs hne hsingle =>
    cases h
    refine ⟨rfl, ⟨[], '\'', rfl, by decide⟩, fun less hless => ?_⟩
    cases less with
    | nil => rfl
    | cons c less =>
      obtain ⟨more, rfl⟩ := hless
      -- a second quote would be an escape
      have hc : c ≠ '\'' := fun hc => hsingle (less ++ more) rfl (by rw [hc]; rfl)
      rw [List.singleton_append, splitSingle]
      · rfl
      · simp
      · simp [hc]
  | case5 c cs hne hsingle hc ih =>
    obtain ⟨⟨q, r⟩, hq, heq⟩ := Option.map_eq_some_iff.1 h
    cases heq
    obtain ⟨hcs, hquotes⟩ := ih hq
    exact ⟨congrArg (c :: ·) hcs, hquotes.append [c] (splitSingle_cons hc)⟩

theorem quotes_splitQuoted? (h : splitQuoted? cs = some (quoted, rest)) :
    cs = quoted ++ rest ∧ Quotes splitQuoted? quoted rest := by
  unfold splitQuoted? at h
  split at h
  · obtain ⟨⟨q, r⟩, hq, heq⟩ := Option.map_eq_some_iff.1 h
    cases heq
    obtain ⟨hcs, hquotes⟩ := quotes_splitDouble hq
    exact ⟨congrArg ('"' :: ·) hcs, hquotes.append ['"'] fun _ => rfl⟩
  · obtain ⟨⟨q, r⟩, hq, heq⟩ := Option.map_eq_some_iff.1 h
    cases heq
    obtain ⟨hcs, hquotes⟩ := quotes_splitSingle hq
    exact ⟨congrArg ('\'' :: ·) hcs, hquotes.append ['\''] fun _ => rfl⟩
  · cases h

/-- Trailing blanks are not quoted. -/
theorem Quotes.trimEnd (h : Quotes split quoted rest) :
    ∃ less, Text.trimEnd (quoted ++ rest) = quoted ++ less ∧
      split (quoted ++ less) = some (quoted, less) := by
  obtain ⟨⟨lead, c, rfl, hc⟩, hstays⟩ := h
  have hkept : lead ++ [c] <+: Text.trimEnd (lead ++ [c] ++ rest) := by
    simpa using Text.prefix_trimEnd lead rest hc
  obtain ⟨less, hless⟩ := hkept
  have hprefix : less <+: rest := by
    have htrim := Text.trimEnd_prefix (lead ++ [c] ++ rest)
    rw [← hless] at htrim
    exact (List.prefix_append_right_inj _).1 htrim
  exact ⟨less, hless.symm, hstays less hprefix⟩

end

/-! ### Splitting a value -/

/-- Taking properties off leaves no blanks in front. -/
theorem isBlank_head?_takeProperties (fuel : Nat) (v : InlineValue) {cs : List Char}
    (h : ∀ c ∈ cs.head?, Text.isBlank c = false) :
    ∀ c ∈ (takeProperties fuel v cs).2.head?, Text.isBlank c = false := by
  induction fuel generalizing v cs with
  | zero => exact h
  | succ fuel ih =>
    unfold takeProperties
    dsimp only
    split
    · split
      · exact h
      · exact ih _ (Text.isBlank_head?_trimStart _)
    · split
      · exact h
      · exact ih _ (Text.isBlank_head?_trimStart _)
    · exact h

theorem comment_takeProperties (fuel : Nat) (v : InlineValue) (cs : List Char) :
    (takeProperties fuel v cs).1.comment = v.comment := by
  induction fuel generalizing v cs with
  | zero => rfl
  | succ fuel ih =>
    unfold takeProperties
    dsimp only
    split
    · split
      · rfl
      · exact ih _ _
    · split
      · rfl
      · exact ih _ _
    · rfl

theorem prefix_splitHash (before : Option Char) (cs : List Char) :
    (splitHash before cs).1 <+: cs := by
  induction cs generalizing before with
  | nil => exact List.prefix_refl _
  | cons c cs ih =>
    have hmore : c :: (splitHash (some c) cs).1 <+: c :: cs := List.cons_prefix_cons.2 ⟨rfl, ih _⟩
    unfold splitHash
    dsimp only
    split <;> split <;> first | exact List.nil_prefix | exact hmore

theorem splitTag_append (cs : List Char) : (splitTag cs).1 ++ (splitTag cs).2 = cs := by
  unfold splitTag
  dsimp only
  rw [List.append_assoc, List.takeWhile_append_dropWhile]
  refine List.prefix_iff_eq_append.1 ?_
  split
  · next more =>
    have htake := List.takeWhile_prefix (l := '!' :: more) fun c => !Text.isInlineBlank c
    have hsplit := List.prefix_iff_eq_append.1 htake
    conv_rhs => rw [← hsplit]
    exact (List.prefix_append_right_inj _).2 (List.take_prefix _ _)
  · exact List.nil_prefix

theorem splitTag_quoted {cs : List Char} (h : startsQuoted cs = true) : splitTag cs = ([], cs) := by
  unfold startsQuoted at h
  split at h
  · rfl
  · rfl
  · cases h

/-- A text is quoted as its first character says. -/
theorem startsQuoted_mono {a b : List Char} (h : a <+: b) (ha : startsQuoted a = true) :
    startsQuoted b = true := by
  obtain ⟨more, rfl⟩ := h
  unfold startsQuoted at ha
  split at ha
  · rfl
  · rfl
  · cases ha

/-- The quoted scalar that a text starts with, or nothing, and the rest of the text. -/
theorem getD_splitQuoted?_append (cs : List Char) :
    ((splitQuoted? cs).getD ([], cs)).1 ++ ((splitQuoted? cs).getD ([], cs)).2 = cs := by
  cases h : splitQuoted? cs with
  | none => rfl
  | some parts => exact (quotes_splitQuoted? h).1.symm

/-- A comment behind a quoted scalar leaves the scalar closed. -/
theorem isSome_splitQuoted?_splitComment {cs : List Char}
    (hclosed : startsQuoted (Text.trim cs) = true → (splitQuoted? (Text.trim cs)).isSome = true)
    (hcomment : (splitComment cs).2 ≠ []) (hquoted : startsQuoted (splitComment cs).1 = true) :
    (splitQuoted? (splitComment cs).1).isSome = true := by
  unfold splitComment at hcomment hquoted ⊢
  dsimp only at hcomment hquoted ⊢
  split at hcomment
  · exact absurd rfl hcomment
  · next hne =>
    rw [if_neg hne] at hquoted ⊢
    dsimp only at hquoted ⊢
    -- a quote in front can only come from the text itself: a tag would stand before it
    have hstart : startsQuoted (Text.trim cs) = true := by
      refine startsQuoted_mono ?_ (startsQuoted_mono (Text.trimEnd_prefix _) hquoted)
      conv_rhs =>
        rw [← splitTag_append (Text.trim cs),
          ← getD_splitQuoted?_append (splitTag (Text.trim cs)).2]
      rw [← List.append_assoc]
      exact (List.prefix_append_right_inj _).2 (prefix_splitHash _ _)
    rw [splitTag_quoted hstart]
    obtain ⟨⟨quoted, rest⟩, hsplit⟩ := Option.isSome_iff_exists.1 (hclosed hstart)
    dsimp only
    rw [hsplit]
    have hquotes := (quotes_splitQuoted? hsplit).2.mono (prefix_splitHash quoted.getLast? rest)
    obtain ⟨less, htrim, hless⟩ := hquotes.trimEnd
    simp [htrim, hless]

/-- A value that has a comment is no open quoted scalar. -/
theorem isSome_splitQuoted?_splitValue {text : List Char}
    (hcomment : (splitValue text).comment ≠ [])
    (hquoted : startsQuoted (splitValue text).text = true) :
    (splitQuoted? (splitValue text).text).isSome = true := by
  have hhead := isBlank_head?_takeProperties 2 {} (Text.isBlank_head?_trim text)
  have hplain := comment_takeProperties 2 {} (Text.trim text)
  unfold splitValue at hcomment hquoted ⊢
  generalize takeProperties 2 {} (Text.trim text) = taken at hcomment hquoted hhead hplain ⊢
  obtain ⟨value, rest⟩ := taken
  dsimp only at hcomment hquoted hhead hplain ⊢
  split at hcomment
  · exact absurd hplain hcomment
  · next hopen =>
    rw [if_neg hopen] at hquoted ⊢
    refine isSome_splitQuoted?_splitComment (fun hstart => ?_) hcomment hquoted
    -- there are no blanks in front, so trimming only reaches what is behind the quotes
    rw [Text.trim, Text.trimStart_eq hhead] at hstart ⊢
    have hrest : startsQuoted rest = true := startsQuoted_mono (Text.trimEnd_prefix rest) hstart
    obtain ⟨⟨quoted, after⟩, hsplit⟩ : ∃ parts, splitQuoted? rest = some parts := by
      simpa [hrest, Option.ne_none_iff_exists'] using hopen
    obtain ⟨hcs, hquotes⟩ := quotes_splitQuoted? hsplit
    obtain ⟨less, htrim, hless⟩ := hquotes.trimEnd
    rw [hcs, htrim, hless]
    rfl

/-! ### Where comments stand -/

theorem suffix_splitHash (before : Option Char) (cs : List Char) :
    (splitHash before cs).2 <:+ cs := by
  induction cs generalizing before with
  | nil => exact List.suffix_refl _
  | cons c cs ih =>
    have hmore : (splitHash (some c) cs).2 <:+ c :: cs := (ih _).trans (List.suffix_cons c cs)
    unfold splitHash
    dsimp only
    split <;> split <;> first | exact List.suffix_refl _ | exact hmore

theorem suffix_takeProperties (fuel : Nat) (v : InlineValue) (cs : List Char) :
    (takeProperties fuel v cs).2 <:+ cs := by
  induction fuel generalizing v cs with
  | zero => exact List.suffix_refl _
  | succ fuel ih =>
    have hmore (v : InlineValue) (n : Nat) :
        (takeProperties fuel v (Text.trimStart (cs.drop n))).2 <:+ cs :=
      ((ih v _).trans (List.dropWhile_suffix _)).trans (List.drop_suffix n cs)
    unfold takeProperties
    dsimp only
    split
    · split
      · exact List.suffix_refl _
      · exact hmore _ _
    · split
      · exact List.suffix_refl _
      · exact hmore _ _
    · exact List.suffix_refl _

theorem infix_trim (cs : List Char) : Text.trim cs <:+: cs :=
  (Text.trimEnd_prefix _).isInfix.trans (List.dropWhile_suffix _).isInfix

/-- The comment behind a value is part of the text. -/
theorem infix_splitComment (cs : List Char) : (splitComment cs).2 <:+: cs := by
  unfold splitComment
  dsimp only
  split
  · exact List.nil_infix
  · have hhash := suffix_splitHash ((splitTag (Text.trim cs)).1 ++
        ((splitQuoted? (splitTag (Text.trim cs)).2).getD
          ([], (splitTag (Text.trim cs)).2)).1).getLast?
      ((splitQuoted? (splitTag (Text.trim cs)).2).getD ([], (splitTag (Text.trim cs)).2)).2
    have hrest : ((splitQuoted? (splitTag (Text.trim cs)).2).getD
        ([], (splitTag (Text.trim cs)).2)).2 <:+ (splitTag (Text.trim cs)).2 :=
      ⟨_, getD_splitQuoted?_append _⟩
    have htag : (splitTag (Text.trim cs)).2 <:+ Text.trim cs := ⟨_, splitTag_append _⟩
    have htext := ((hhash.trans hrest).trans htag).isInfix.trans (infix_trim cs)
    exact (Text.trimEnd_prefix _).isInfix.trans htext

theorem infix_splitValue (text : List Char) : (splitValue text).comment <:+: text := by
  have hrest := (suffix_takeProperties 2 {} (Text.trim text)).isInfix.trans (infix_trim text)
  have hplain := comment_takeProperties 2 {} (Text.trim text)
  unfold splitValue
  generalize takeProperties 2 {} (Text.trim text) = taken at hrest hplain ⊢
  obtain ⟨value, rest⟩ := taken
  dsimp only at hrest hplain ⊢
  split
  · rw [hplain]
    exact List.nil_infix
  · exact (infix_splitComment rest).trans hrest

/-! ### Parts of a text -/

theorem prefix_dropCarriageReturn (cs : List Char) : dropCarriageReturn cs <+: cs := by
  unfold dropCarriageReturn
  split
  · next rest hreverse =>
    refine ⟨['\r'], ?_⟩
    rw [← List.reverse_reverse cs, hreverse, List.reverse_cons]
  · exact List.prefix_refl _

/-- The anchor and the tag of a value are parts of its text. -/
theorem infix_takeProperties {text : List Char} (fuel : Nat) {v : InlineValue} {cs : List Char}
    (hv : ∀ property ∈ v.anchor.toList ++ v.tag.toList, property <:+: text) (hcs : cs <:+: text) :
    ∀ property ∈ (takeProperties fuel v cs).1.anchor.toList ++
      (takeProperties fuel v cs).1.tag.toList, property <:+: text := by
  induction fuel generalizing v cs with
  | zero => exact hv
  | succ fuel ih =>
    have hproperty : cs.takeWhile (fun c => !Text.isInlineBlank c) <:+: text :=
      (List.takeWhile_prefix _).isInfix.trans hcs
    have hafter : Text.trimStart
        (cs.drop (cs.takeWhile fun c => !Text.isInlineBlank c).length) <:+: text :=
      (((List.dropWhile_suffix _).trans (List.drop_suffix _ _)).isInfix).trans hcs
    unfold takeProperties
    dsimp only
    split
    · split
      · exact hv
      · refine ih (fun property hmem => ?_) hafter
        rcases List.mem_cons.1 hmem with rfl | hmem
        · exact hproperty
        · exact hv property (List.mem_append_right _ hmem)
    · split
      · exact hv
      · refine ih (fun property hmem => ?_) hafter
        rcases List.mem_append.1 hmem with hmem | hmem
        · exact hv property (List.mem_append_left _ hmem)
        · obtain rfl := List.mem_singleton.1 hmem
          exact hproperty
    · exact hv

theorem infix_property_splitValue (text : List Char) :
    ∀ property ∈ (splitValue text).anchor.toList ++ (splitValue text).tag.toList,
      property <:+: text := by
  have htaken := infix_takeProperties (v := {}) 2 (by simp) (infix_trim text)
  unfold splitValue
  generalize takeProperties 2 {} (Text.trim text) = taken at htaken ⊢
  dsimp only
  split <;> exact htaken

theorem infix_text_splitComment (cs : List Char) : (splitComment cs).1 <:+: cs := by
  unfold splitComment
  dsimp only
  split
  · exact infix_trim cs
  · refine (Text.trimEnd_prefix _).isInfix.trans (List.IsInfix.trans ?_ (infix_trim cs))
    conv_rhs => rw [← splitTag_append (Text.trim cs),
      ← getD_splitQuoted?_append (splitTag (Text.trim cs)).2]
    rw [← List.append_assoc]
    exact ((List.prefix_append_right_inj _).2 (prefix_splitHash _ _)).isInfix

theorem infix_text_splitValue (text : List Char) : (splitValue text).text <:+: text := by
  have hrest := (suffix_takeProperties 2 {} (Text.trim text)).isInfix.trans (infix_trim text)
  unfold splitValue
  generalize takeProperties 2 {} (Text.trim text) = taken at hrest ⊢
  obtain ⟨value, rest⟩ := taken
  dsimp only at hrest ⊢
  split
  · exact hrest
  · exact (infix_text_splitComment rest).trans hrest

theorem eq_of_splitColon {cs before after : List Char} (h : splitColon cs = some (before, after)) :
    cs = before ++ ':' :: after := by
  fun_induction splitColon cs generalizing before with
  | case1 => cases h
  | case2 c cs ends =>
    rename_i hends
    cases h
    simp only [Bool.and_eq_true, beq_iff_eq] at hends
    rw [hends.1]
    rfl
  | case3 c cs ends hends =>
    rename_i ih
    obtain ⟨⟨b, a⟩, hsplit, heq⟩ := Option.map_eq_some_iff.1 h
    cases heq
    rw [ih hsplit, List.cons_append]

/-- A key stands before a colon, and what follows the colon is the end of the text. -/
theorem exists_of_splitKey? {text key rest : List Char} (h : splitKey? text = some (key, rest)) :
    ∃ before, key <+: before ∧ text = before ++ ':' :: rest := by
  have hstart : ∀ parts, (if startsQuoted text then splitQuoted? text else some ([], text)) =
      some parts → text = parts.1 ++ parts.2 := by
    intro parts hparts
    split at hparts
    · exact (quotes_splitQuoted? hparts).1
    · cases hparts
      rfl
  unfold splitKey? at h
  split at h
  · cases h
  · dsimp only at h
    split at h
    · cases h
    · next quoted rest' hparts =>
      split at h
      · cases h
      · next before after hcolon =>
        split at h
        · cases h
        · cases h
          refine ⟨quoted ++ before, Text.trimEnd_prefix _, ?_⟩
          rw [hstart _ hparts, eq_of_splitColon hcolon, List.append_assoc]

theorem suffix_splitKey? {text key rest : List Char} (h : splitKey? text = some (key, rest)) :
    rest <:+ text := by
  obtain ⟨before, -, rfl⟩ := exists_of_splitKey? h
  exact (List.suffix_cons ':' rest).trans (List.suffix_append before _)

theorem prefix_splitKey? {text key rest : List Char} (h : splitKey? text = some (key, rest)) :
    key <+: text := by
  obtain ⟨before, hkey, rfl⟩ := exists_of_splitKey? h
  exact hkey.trans (List.prefix_append before _)

theorem prefix_of_lastIndexOf? {needle cs : List Char} {n : Nat}
    (h : lastIndexOf? needle cs = some n) : needle <+: cs.drop n := by
  induction cs generalizing n with
  | nil =>
    unfold lastIndexOf? at h
    split at h
    · next hempty =>
      rw [List.isEmpty_iff.1 hempty]
      exact List.nil_prefix
    · cases h
  | cons c cs ih =>
    unfold lastIndexOf? at h
    split at h
    · next n hn =>
      cases h
      exact ih hn
    · split at h
      · next hhere =>
        cases h
        exact List.isPrefixOf_iff_prefix.1 hhere
      · cases h

/-- The last occurrence of a part of a text is found. -/
theorem exists_lastIndexOf? {needle cs : List Char} (h : needle <:+: cs) :
    ∃ n, lastIndexOf? needle cs = some n ∧ needle <+: cs.drop n := by
  have hsome : ∃ n, lastIndexOf? needle cs = some n := by
    induction cs with
    | nil =>
      obtain rfl : needle = [] := List.infix_nil.1 h
      exact ⟨0, rfl⟩
    | cons c cs ih =>
      rw [lastIndexOf?]
      rcases List.infix_cons_iff.1 h with hhere | hlater
      · split
        · next n _ => exact ⟨n + 1, rfl⟩
        · exact ⟨0, if_pos (List.isPrefixOf_iff_prefix.2 hhere)⟩
      · obtain ⟨n, hn⟩ := ih hlater
        rw [hn]
        exact ⟨n + 1, rfl⟩
  obtain ⟨n, hn⟩ := hsome
  exact ⟨n, hn, prefix_of_lastIndexOf? hn⟩

end ManifestMarkers.Manifest
