import Mathlib.Data.List.DropRight
import ManifestMarkers.Proofs.BlockValues
import ManifestMarkers.Proofs.JoinedValues
import ManifestMarkers.Proofs.WrittenParts

/-!
# Lines whose blanks are spaces

What the reader splits a line into, with the blanks between the pieces, if the line has no blanks
but spaces.

* `Line.IsCut`, `Line.IsWhole`: a line with its indentation and trailing blanks.
* `exists_splitValue`, `exists_splitKey?` and `exists_splitItem` put the pieces together again.
* `scalarNode_eq`: a scalar without line breaks uses up no further lines.
-/

namespace ManifestMarkers.Manifest

open Yaml

/-- A character of a line that is a space or no blank. -/
def isTextChar (c : Char) : Bool := isLineChar c && (c == ' ' || !Text.isBlank c)

section

variable {c : Char} {cs text : List Char}

theorem eq_space_of_isTextChar (h : isTextChar c = true) (hblank : Text.isBlank c = true) :
    c = ' ' := by
  simp only [isTextChar, hblank, Bool.and_eq_true, Bool.or_eq_true, beq_iff_eq] at h
  simpa using h.2

theorem isLineChar_of_isTextChar (h : isTextChar c = true) : isLineChar c = true := by
  simp only [isTextChar, Bool.and_eq_true] at h
  exact h.1

theorem isAllowed_of_isTextChar (h : isTextChar c = true) : isAllowed c = true :=
  isAllowed_of_isLineChar (isLineChar_of_isTextChar h)

theorem isBreak_of_isTextChar (h : isTextChar c = true) : isBreak c = false :=
  isBreak_of_isLineChar (isLineChar_of_isTextChar h)

theorem eq_space_of_isInlineBlank (h : isTextChar c = true) (hblank : Text.isInlineBlank c = true) :
    c = ' ' := by
  refine eq_space_of_isTextChar h ?_
  simp only [Text.isInlineBlank, Bool.or_eq_true, beq_iff_eq] at hblank
  rcases hblank with rfl | rfl <;> rfl

/-! ### Trimming -/

theorem exists_trimStart (h : ∀ c ∈ cs, isTextChar c = true) :
    ∃ k, cs = List.replicate k ' ' ++ Text.trimStart cs := by
  have hblanks : ∀ c ∈ cs.takeWhile Text.isBlank, c = ' ' := fun c hc =>
    eq_space_of_isTextChar (h c (List.takeWhile_subset _ hc)) (List.mem_takeWhile_imp hc)
  refine ⟨(cs.takeWhile Text.isBlank).length, ?_⟩
  rw [← List.eq_replicate_of_mem hblanks]
  exact List.takeWhile_append_dropWhile.symm

theorem exists_trimEnd (h : ∀ c ∈ cs, isTextChar c = true) :
    ∃ k, cs = Text.trimEnd cs ++ List.replicate k ' ' := by
  obtain ⟨k, hk⟩ := exists_trimStart (show ∀ c ∈ cs.reverse, isTextChar c = true by simpa using h)
  refine ⟨k, ?_⟩
  have hreverse := congrArg List.reverse hk
  rwa [List.reverse_reverse, List.reverse_append, List.reverse_replicate] at hreverse

theorem exists_trim (h : ∀ c ∈ cs, isTextChar c = true) :
    ∃ i j, cs = List.replicate i ' ' ++ (Text.trim cs ++ List.replicate j ' ') := by
  obtain ⟨i, hi⟩ := exists_trimStart h
  have hstart : ∀ c ∈ Text.trimStart cs, isTextChar c = true := fun c hc =>
    h c ((List.dropWhile_suffix _).subset hc)
  obtain ⟨j, hj⟩ := exists_trimEnd hstart
  exact ⟨i, j, by rw [Text.trim, ← hj, ← hi]⟩

theorem trim_trim (cs : List Char) : Text.trim (Text.trim cs) = Text.trim cs := by
  rw [Text.trim, Text.trimStart_eq (Text.isBlank_head?_trim cs), Text.trim, Text.trimEnd,
    Text.dropWhileEnd, Text.trimEnd, Text.dropWhileEnd, List.reverse_reverse,
    List.dropWhile_idempotent]

/-- Blanks at the end are trimmed. -/
theorem trimEnd_ne_self (h : ∃ c ∈ cs.getLast?, Text.isBlank c = true) : Text.trimEnd cs ≠ cs := by
  obtain ⟨c, hc, hblank⟩ := h
  intro heq
  have hsuffix := List.head?_dropWhile_not Text.isBlank cs.reverse
  rw [Text.trimEnd, Text.dropWhileEnd] at heq
  rw [show cs.reverse.dropWhile Text.isBlank = cs.reverse by
    rw [← List.reverse_inj, heq, List.reverse_reverse], List.head?_reverse, Option.mem_def.1 hc]
    at hsuffix
  simp [hblank] at hsuffix

/-! ### Values -/

theorem splitHash_spec {before : Option Char} (h : (splitHash before cs).2 ≠ []) :
    (splitHash before cs).2.head? = some '#' ∧
      (((splitHash before cs).1.getLast?.or before).all Text.isInlineBlank) = true := by
  induction cs generalizing before with
  | nil => exact absurd rfl h
  | cons c cs ih =>
    rw [Checked.splitHash_cons] at h ⊢
    split
    · next hhash =>
      rw [Bool.and_eq_true, beq_iff_eq] at hhash
      rw [hhash.1]
      exact ⟨rfl, hhash.2⟩
    · next hhash =>
      rw [if_neg hhash] at h
      obtain ⟨hhead, hlast⟩ := ih h
      refine ⟨hhead, ?_⟩
      dsimp only
      rw [List.getLast?_cons]
      cases hmore : (splitHash (some c) cs).1.getLast? with
      | none => simpa [hmore] using hlast
      | some d => simpa [hmore] using hlast

/-- Properties that are there stay. -/
theorem isSome_takeProperties (fuel : Nat) (v : InlineValue) (cs : List Char) :
    (v.anchor.isSome = true → (takeProperties fuel v cs).1.anchor.isSome = true) ∧
      (v.tag.isSome = true → (takeProperties fuel v cs).1.tag.isSome = true) := by
  induction fuel generalizing v cs with
  | zero => exact ⟨id, id⟩
  | succ fuel ih =>
    unfold takeProperties
    dsimp only
    split
    · split
      · exact ⟨id, id⟩
      · exact ⟨fun _ => (ih _ _).1 rfl, fun htag => (ih _ _).2 htag⟩
    · split
      · exact ⟨id, id⟩
      · exact ⟨fun hanchor => (ih _ _).1 hanchor, fun _ => (ih _ _).2 rfl⟩
    · exact ⟨id, id⟩

/-- A text without properties does not start with their signs. -/
theorem ne_sign_of_takeProperties (hanchor : (takeProperties 2 {} cs).1.anchor = none)
    (htag : (takeProperties 2 {} cs).1.tag = none) : ∀ c ∈ cs.head?, c ≠ '&' ∧ c ≠ '!' := by
  intro c hc
  obtain ⟨cs, rfl⟩ : ∃ ds, cs = c :: ds := by
    cases cs with
    | nil => cases hc
    | cons d ds => exact ⟨ds, by rw [Option.some.inj hc]⟩
  constructor
  · rintro rfl
    rw [takeProperties] at hanchor
    dsimp only at hanchor
    rw [if_neg (by simp)] at hanchor
    exact Option.isSome_iff_ne_none.1 ((isSome_takeProperties 1 _ _).1 rfl) hanchor
  · rintro rfl
    rw [takeProperties] at htag
    dsimp only at htag
    rw [if_neg (by simp)] at htag
    exact Option.isSome_iff_ne_none.1 ((isSome_takeProperties 1 _ _).2 rfl) htag

/-- A text without blanks around it is its value and its comment, with blanks between them. -/
theorem exists_splitComment (h : ∀ c ∈ cs, isTextChar c = true) (htrim : Text.trim cs = cs)
    (hbang : ∀ c ∈ cs.head?, c ≠ '!') : ∃ i remark,
      cs = (splitComment cs).1 ++ (List.replicate i ' ' ++ remark) ∧
        (∀ c ∈ remark.head?, c = '#') ∧ ((splitComment cs).1 ≠ [] → remark ≠ [] → 0 < i) := by
  have htag : splitTag cs = ([], cs) := by
    have hblank := Text.isBlank_head?_trim cs
    rw [htrim] at hblank
    cases cs with
    | nil => rfl
    | cons c cs => exact splitTag_eq_self cs (hblank c rfl) (hbang c rfl)
  obtain ⟨quoted, rest, hquoted⟩ : ∃ quoted rest,
      (splitQuoted? cs).getD ([], cs) = (quoted, rest) := ⟨_, _, rfl⟩
  obtain ⟨value, comment, hsplit⟩ : ∃ value comment, splitHash quoted.getLast? rest =
      (value, comment) := ⟨_, _, rfl⟩
  have hcs := getD_splitQuoted?_append cs
  rw [hquoted] at hcs
  have happend := Checked.splitHash_append_eq quoted.getLast? rest
  have hspec := @splitHash_spec rest quoted.getLast?
  rw [hsplit] at happend hspec
  dsimp only at hcs happend hspec
  unfold splitComment
  simp only [htrim, htag, hquoted, hsplit, List.nil_append]
  by_cases hnone : comment = []
  · exact ⟨0, [], by simp [hnone], by simp, by simp⟩
  · obtain ⟨hhead, hlast⟩ := hspec hnone
    have hchars : ∀ c ∈ quoted ++ value, isTextChar c = true := fun c hc => h c (by
      rw [← hcs, ← happend, ← List.append_assoc]
      exact List.mem_append_left _ hc)
    obtain ⟨i, hi⟩ := exists_trimEnd hchars
    rw [if_neg (by simpa using hnone)]
    refine ⟨i, comment, ?_, fun c hc => ?_, fun hvalue _ => ?_⟩
    · rw [← List.append_assoc, ← hi, List.append_assoc, happend, hcs]
    · exact Option.some.inj (hc.symm.trans hhead)
    · -- the blank in front of the comment is trimmed
      by_contra hzero
      obtain rfl : i = 0 := by omega
      rw [List.replicate_zero, List.append_nil] at hi
      dsimp only at hvalue
      rw [← hi] at hvalue
      obtain ⟨c, hc⟩ := Option.ne_none_iff_exists'.1 (mt List.getLast?_eq_none_iff.1 hvalue)
      refine trimEnd_ne_self ⟨c, hc, ?_⟩ hi.symm
      rw [List.getLast?_append] at hc
      rw [hc, Option.all_some, Text.isInlineBlank, Bool.or_eq_true, beq_iff_eq, beq_iff_eq] at hlast
      rcases hlast with rfl | rfl <;> rfl

/-- A comment of spaces and text. -/
theorem isRemark_of_isTextChar {remark : List Char} (hhead : ∀ c ∈ remark.head?, c = '#')
    (h : ∀ c ∈ remark, isTextChar c = true) : IsRemark remark :=
  ⟨hhead, fun c hc => ⟨isAllowed_of_isTextChar (h c hc), isBreak_of_isTextChar (h c hc)⟩⟩

/-- A value without properties and the blanks behind it. -/
theorem exists_splitValue (h : ∀ c ∈ text, isTextChar c = true)
    (hanchor : (splitValue text).anchor = none) (htag : (splitValue text).tag = none) (k : Nat) :
    ∃ i j remark, text ++ List.replicate k ' ' =
        List.replicate i ' ' ++ ((splitValue text).text ++ (List.replicate j ' ' ++ remark)) ∧
      IsRemark remark ∧ ((splitValue text).text ≠ [] → remark ≠ [] → 0 < j) := by
  obtain ⟨i, l, htext⟩ := exists_trim h
  have htrim : ∀ c ∈ Text.trim text, isTextChar c = true := fun c hc => h c (by
    rw [htext]
    simp [hc])
  have htaken : (splitValue text).anchor = (takeProperties 2 {} (Text.trim text)).1.anchor ∧
      (splitValue text).tag = (takeProperties 2 {} (Text.trim text)).1.tag := by
    unfold splitValue
    dsimp only
    split <;> exact ⟨rfl, rfl⟩
  have hsign := ne_sign_of_takeProperties (htaken.1.symm.trans hanchor) (htaken.2.symm.trans htag)
  have hself := takeProperties_eq_self 2 {} (Text.trim text) hsign
  -- the value, with the comment and all blanks behind it
  obtain ⟨j, remark, hcut, hhead, hgap⟩ : ∃ j remark,
      Text.trim text = (splitValue text).text ++ (List.replicate j ' ' ++ remark) ∧
        (∀ c ∈ remark.head?, c = '#') ∧ ((splitValue text).text ≠ [] → remark ≠ [] → 0 < j) := by
    unfold splitValue
    rw [hself]
    dsimp only
    split
    · exact ⟨0, [], by simp, by simp, by simp⟩
    · exact exists_splitComment htrim (trim_trim text) fun c hc => (hsign c hc).2
  by_cases hnone : remark = []
  · refine ⟨i, j + (l + k), [], ?_, isRemark_nil, fun _ hne => absurd rfl hne⟩
    conv_lhs => rw [htext, hcut, hnone]
    simp only [List.append_assoc, List.append_nil, List.replicate_append_replicate, Nat.add_assoc]
  · refine ⟨i, j, remark ++ List.replicate (l + k) ' ', ?_, ?_, fun hne _ => hgap hne hnone⟩
    · conv_lhs => rw [htext, hcut]
      simp only [List.append_assoc, List.replicate_append_replicate]
    · refine isRemark_of_isTextChar (fun c hc => ?_) fun c hc => ?_
      · obtain ⟨d, ds, rfl⟩ := List.exists_cons_of_ne_nil hnone
        exact hhead c hc
      · rcases List.mem_append.1 hc with hc | hc
        · refine htrim c ?_
          rw [hcut]
          simp [hc]
        · rw [List.eq_of_mem_replicate hc]
          decide

/-! ### Keys and items -/

theorem isInlineBlank_of_splitColon {before after : List Char}
    (h : splitColon cs = some (before, after)) :
    ∀ c ∈ after.head?, Text.isInlineBlank c = true := by
  fun_induction splitColon cs generalizing before with
  | case1 => cases h
  | case2 c cs ends =>
    rename_i hends
    cases h
    rw [Bool.and_eq_true] at hends
    cases after with
    | nil => simp
    | cons d ds =>
      rintro _ ⟨⟩
      exact hends.2
  | case3 c cs ends hends =>
    rename_i ih
    obtain ⟨⟨b, a⟩, hsplit, heq⟩ := Option.map_eq_some_iff.1 h
    cases heq
    exact ih hsplit

/-- A key, the blanks behind it and the colon. -/
theorem exists_splitKey? {key rest : List Char} (h : ∀ c ∈ text, isTextChar c = true)
    (hkey : splitKey? text = some (key, rest)) :
    ∃ j, text = key ++ (List.replicate j ' ' ++ ':' :: rest) ∧ ∀ c ∈ rest.head?, c = ' ' := by
  obtain ⟨before, rfl, htext, hblank⟩ : ∃ before, key = Text.trimEnd before ∧
      text = before ++ ':' :: rest ∧ ∀ c ∈ rest.head?, Text.isInlineBlank c = true := by
    unfold splitKey? at hkey
    split at hkey
    · cases hkey
    · dsimp only at hkey
      split at hkey
      · cases hkey
      · next quoted more hparts =>
        split at hkey
        · cases hkey
        · next before after hcolon =>
          split at hkey
          · cases hkey
          · cases hkey
            refine ⟨quoted ++ before, rfl, ?_, isInlineBlank_of_splitColon hcolon⟩
            rw [List.append_assoc, ← eq_of_splitColon hcolon]
            split at hparts
            · exact (quotes_splitQuoted? hparts).1
            · cases hparts
              rfl
  have hbefore : ∀ c ∈ before, isTextChar c = true := fun c hc => h c (by simp [htext, hc])
  obtain ⟨j, hj⟩ := exists_trimEnd hbefore
  refine ⟨j, ?_, fun c hc => eq_space_of_isInlineBlank (h c ?_) (hblank c hc)⟩
  · rw [htext, ← List.append_assoc, ← hj]
  · rw [htext]
    exact List.mem_append_right _ (List.mem_cons_of_mem _ (List.mem_of_mem_head? hc))

/-- An item is a dash and what stands behind it. -/
theorem exists_of_isItem (h : ∀ c ∈ text, isTextChar c = true) (hitem : isItem text = true) :
    ∃ more, text = '-' :: more ∧ ∀ c ∈ more.head?, c = ' ' := by
  unfold isItem at hitem
  split at hitem
  · exact ⟨[], rfl, by simp⟩
  · next c more =>
    refine ⟨c :: more, rfl, ?_⟩
    rintro d ⟨⟩
    exact eq_space_of_isInlineBlank (h c (by simp)) hitem
  · cases hitem

end

/-! ### Lines -/

/-- A line from its indentation on, where its text may start behind a dash. -/
structure Line.IsCut (l : Line) : Prop where
  chars : ∀ c ∈ l.raw, isTextChar c = true
  cut : ∃ k, l.raw.drop l.indent = l.text ++ List.replicate k ' '

/-- A line as it is read, which is no document indicator. -/
structure Line.IsWhole (l : Line) : Prop extends l.IsCut where
  indented : l.raw = List.replicate l.indent ' ' ++ l.raw.drop l.indent
  blank : l.kind = .blank → l.text = []
  comment : l.kind = .comment → l.text.head? = some '#'
  noStart : l.kind ≠ .documentStart
  noEnd : l.kind ≠ .documentEnd

theorem Line.IsCut.isTextChar_text {l : Line} (h : l.IsCut) :
    ∀ c ∈ l.text, isTextChar c = true := by
  obtain ⟨k, hk⟩ := h.cut
  refine fun c hc => h.chars c (List.mem_of_mem_drop (i := l.indent) ?_)
  rw [hk]
  exact List.mem_append_left _ hc

theorem lineKind_cases (indent : Nat) (text : List Char) :
    (lineKind indent text = .blank → text = []) ∧
      (lineKind indent text = .comment → text.head? = some '#') ∧
      (lineKind indent text = .documentStart ∨ lineKind indent text = .documentEnd →
        indent = 0 ∧ startsMarker text = true) := by
  unfold lineKind
  split
  · simp
  · simp
  · next hnil hhash =>
    split
    · next hstart =>
      refine ⟨by simp, by simp, fun _ => ⟨hstart.1, ?_⟩⟩
      rcases hstart.2 with rfl | hstarts
      · rfl
      · obtain ⟨more, rfl⟩ := List.isPrefixOf_iff_prefix.1 hstarts
        rfl
    · split
      · next hend => exact ⟨by simp, by simp, fun _ => ⟨hend.1, by rw [hend.2]; rfl⟩⟩
      · simp

theorem startsMarker_append {a : List Char} (h : startsMarker a = true) (b : List Char) :
    startsMarker (a ++ b) = true := by
  have hlength : 3 ≤ a.length := by
    by_contra hshort
    have htake : a.take 3 = a := List.take_of_length_le (by omega)
    rw [startsMarker, htake, Bool.or_eq_true, beq_iff_eq, beq_iff_eq] at h
    rcases h with rfl | rfl <;> simp at hshort
  rw [startsMarker, List.take_append_of_le_length hlength]
  exact h

theorem isWhole_of (number : Nat) {cs : List Char} (h : ∀ c ∈ cs, isTextChar c = true)
    (hmarker : startsMarker cs = false) : (Line.of number cs).IsWhole := by
  have hraw : dropCarriageReturn cs = cs := Canonical.dropCarriageReturn_of_notMem fun hmem => by
    have hreturn := h '\r' hmem
    revert hreturn
    decide
  have hblanks : cs.takeWhile (· == ' ') =
      List.replicate (cs.takeWhile (· == ' ')).length ' ' :=
    List.eq_replicate_of_mem fun c hc => by simpa using List.mem_takeWhile_imp hc
  have hsplit := List.takeWhile_append_dropWhile (p := (· == ' ')) (l := cs)
  have hindent : (Line.of number cs).indent = (cs.takeWhile (· == ' ')).length := by
    have hlength := congrArg List.length hsplit
    rw [List.length_append] at hlength
    simp only [Line.of, hraw]
    omega
  have hdrop : cs.drop (Line.of number cs).indent = cs.dropWhile (· == ' ') := by
    have hleft : List.drop (cs.takeWhile (· == ' ')).length
        (cs.takeWhile (· == ' ') ++ cs.dropWhile (· == ' ')) = cs.dropWhile (· == ' ') :=
      List.drop_left
    rwa [hsplit, ← hindent] at hleft
  have hchars : ∀ c ∈ cs.dropWhile (· == ' '), isTextChar c = true := fun c hc =>
    h c ((List.dropWhile_suffix _).subset hc)
  have htext : (Line.of number cs).text = Text.trimEnd (cs.dropWhile (· == ' ')) := by
    simp only [Line.of, hraw]
  have hkind : (Line.of number cs).kind =
    lineKind (Line.of number cs).indent (Line.of number cs).text := rfl
  obtain ⟨k, hk⟩ := exists_trimEnd hchars
  obtain ⟨hblank, hcomment, hindicator⟩ :=
    lineKind_cases (Line.of number cs).indent (Line.of number cs).text
  have hno : ¬((Line.of number cs).kind = .documentStart ∨
      (Line.of number cs).kind = .documentEnd) := by
    rw [hkind]
    intro hmark
    obtain ⟨hzero, hstarts⟩ := hindicator hmark
    rw [hzero, List.drop_zero] at hdrop
    have hcs := startsMarker_append hstarts (List.replicate k ' ')
    rw [htext, ← hk, ← hdrop, hmarker] at hcs
    cases hcs
  have hrawEq : (Line.of number cs).raw = cs := hraw
  exact
    { chars := by rwa [hrawEq]
      cut := ⟨k, by rw [hrawEq, hdrop, htext, ← hk]⟩
      indented := by
        rw [hrawEq, hdrop, hindent, ← hblanks, hsplit]
      blank := by rwa [hkind]
      comment := by rwa [hkind]
      noStart := fun hstart => hno (.inl hstart)
      noEnd := fun hend => hno (.inr hend) }

theorem byteSize_spaces (k : Nat) : Text.byteSize (List.replicate k ' ') = k := by
  induction k with
  | zero => rfl
  | succ k ih =>
    rw [List.replicate_succ, Text.byteSize_cons, ih, Nat.add_comm]
    rfl

/-- What stands behind a dash is a line as well. -/
theorem Line.IsCut.behindDash {l : Line} (h : l.IsCut) (hitem : isItem l.text = true) :
    ∃ i, l.raw.drop l.indent = '-' :: (List.replicate i ' ' ++ l.raw.drop (dashIndent l l.indent)) ∧
      dashIndent l l.indent = l.indent + 1 + i ∧
      (∀ c ∈ (l.text.drop 1).head?, c = ' ') ∧
      { l with
        indent := dashIndent l l.indent
        text := Text.trimStart (l.text.drop 1) : Line }.IsCut := by
  obtain ⟨k, hk⟩ := h.cut
  obtain ⟨more, htext, hhead⟩ := exists_of_isItem h.isTextChar_text hitem
  have hmore : ∀ c ∈ more, isTextChar c = true := fun c hc =>
    h.isTextChar_text c (by simp [htext, hc])
  obtain ⟨i, hi⟩ := exists_trimStart hmore
  have hdrop : l.text.drop 1 = more := by rw [htext]; rfl
  have hindent : dashIndent l l.indent = l.indent + 1 + i := by
    have hsize := congrArg Text.byteSize hi
    rw [Text.byteSize_append, byteSize_spaces] at hsize
    rw [dashIndent, hdrop]
    omega
  have hbehind : l.raw.drop (dashIndent l l.indent) =
      Text.trimStart more ++ List.replicate k ' ' := by
    rw [hindent, Nat.add_assoc, ← List.drop_drop, hk, htext, Nat.add_comm 1 i, List.cons_append,
      List.drop_succ_cons]
    conv_lhs => rw [hi, List.append_assoc]
    exact List.drop_left' (by simp)
  refine ⟨i, ?_, hindent, by rwa [hdrop], h.chars, k, ?_⟩
  · rw [hbehind, hk, htext, ← List.append_assoc, ← hi]
    rfl
  · rw [hdrop]
    exact hbehind

/-! ### Scalars -/

theorem scalarParts_spec {raw : List Char} {parts : List Part} (h : ScalarParts raw parts) :
    '\n' ∉ raw ∧ (styleOf raw = .plain ∨ startsQuoted raw = true) := by
  cases h with
  | empty => exact ⟨by simp, .inl rfl⟩
  | line h =>
    refine ⟨fun hmem => ?_, ?_⟩
    · have hfeed := h.isLineChar '\n' hmem
      revert hfeed
      decide
    · cases h with
      | plain h =>
        left
        rw [isPlainLine, Bool.and_eq_true] at h
        obtain ⟨c, cs, rfl⟩ : ∃ c cs, raw = c :: cs := by
          cases raw with
          | nil => simp [isPlainStart] at h
          | cons c cs => exact ⟨c, cs, rfl⟩
        have hstart := h.1
        unfold styleOf
        split <;> simp_all [isPlainStart]
      | @quoted single =>
        right
        cases single <;> rfl

theorem prefix_flowScalar {number : Nat} {depth : Int} {text raw : List Char}
    {lines rest : List Line} (h : flowScalar number depth text lines = .ok (raw, rest)) :
    text <+: raw := by
  induction lines generalizing depth text with
  | nil =>
    rw [flowScalar] at h
    split at h
    · cases h
    · cases h
      exact List.prefix_refl _
  | cons l lines ih =>
    rw [flowScalar] at h
    split at h
    · exact (List.prefix_append _ _).trans (ih h)
    · cases h
      exact List.prefix_refl _

/-- A quote that is not closed on its line is closed behind a line break. -/
theorem newline_mem_of_quotedLines {number : Nat} {text raw : List Char}
    {closing : Option (Line × List Char)} {lines rest : List Line}
    (h : quotedLines number text lines = .ok (raw, closing, rest))
    (hopen : splitQuoted? text = none) : '\n' ∈ raw := by
  induction lines generalizing text with
  | nil => cases h
  | cons l lines ih =>
    unfold quotedLines at h
    dsimp only at h
    split at h
    · next hmore => exact ih h hmore
    · next quoted after hsplit =>
      have hraw : raw = quoted := by
        split at h
        · cases h
          rfl
        · cases h
          rfl
        · cases h
      obtain ⟨happend, hquoted, hrest⟩ := splitQuoted?_eq_some_iff.1 hsplit
      rw [hraw]
      by_contra hno
      -- otherwise the quote is closed in the text in front of the line break
      obtain ⟨less, rfl, hafter⟩ : ∃ less, text = quoted ++ less ∧
          after = less ++ '\n' :: l.raw := by
        rcases List.append_eq_append_iff.1 happend with ⟨more, hmore, htail⟩ | ⟨less, hless⟩
        · cases more with
          | nil => exact ⟨[], by simpa using hmore.symm, by simpa using htail.symm⟩
          | cons c more =>
            obtain ⟨rfl, -⟩ := List.cons.inj htail
            exact absurd (by simp [hmore]) hno
        · exact ⟨less, hless⟩
      have hclosed : splitQuoted? (quoted ++ less) = some (quoted, less) := by
        refine splitQuoted?_append hquoted fun hsingle hhead => hrest hsingle ?_
        rw [hafter, List.head?_append, hhead]
        rfl
      rw [hopen] at hclosed
      cases hclosed

/-- The style of a text is that of its first character. -/
theorem styleOf_eq_of_starts {a b : List Char} (h : a <+: b) (ha : styleOf a ≠ .plain) :
    styleOf b = styleOf a := by
  obtain ⟨more, rfl⟩ := h
  revert ha
  cases a with
  | nil => exact fun ha => absurd rfl ha
  | cons c cs =>
    rw [List.cons_append, styleOf.eq_def (c :: cs)]
    split
    all_goals first | (rename_i heq; cases heq; exact fun _ => rfl) | exact fun ha => absurd rfl ha

/-- A scalar without line breaks is on its line, and no further lines are used up. -/
theorem scalarNode_eq {v : InlineValue} {line : Line} {parent column : Nat} {lines rest : List Line}
    {n : Node} {raw : String} {parts : List Part}
    (h : scalarNode v line parent column lines = .ok (n, rest)) (hraw : n.raw = some raw)
    (hparts : ScalarParts raw.toList parts) : raw.toList = v.text ∧ rest = lines := by
  obtain ⟨hline, hstyle⟩ := scalarParts_spec hparts
  rw [startsQuoted_eq, Bool.or_eq_true, beq_iff_eq, beq_iff_eq] at hstyle
  -- block scalars and flow collections have a style of their own
  have hother (hstarts : v.text <+: raw.toList)
      (hne : styleOf v.text ∉ [.plain, .singleQuoted, .doubleQuoted]) : False := by
    simp only [List.mem_cons, List.not_mem_nil, or_false, not_or] at hne
    rw [styleOf_eq_of_starts hstarts hne.1] at hstyle
    tauto
  have hquoted {closing : Option (Line × List Char)} {cs : List Char}
      (hquoted : quotedScalar line.number v.text lines = .ok (cs, closing, rest))
      (hno : '\n' ∉ cs) : cs = v.text ∧ rest = lines := by
    unfold quotedScalar at hquoted
    split at hquoted
    · cases hquoted
      exact ⟨rfl, rfl⟩
    · next hopen =>
      exact absurd (newline_mem_of_quotedLines hquoted (by simpa using hopen)) hno
  unfold scalarNode at h
  dsimp only at h
  split at h
  · next hliteral =>
    cases h
    cases hraw
    rw [String.toList_ofList] at hother
    exact (hother (List.prefix_append _ _) (by simp [hliteral])).elim
  · next hfolded =>
    cases h
    cases hraw
    rw [String.toList_ofList] at hother
    exact (hother (List.prefix_append _ _) (by simp [hfolded])).elim
  · next hflow =>
    split at h
    · next cs _ hread =>
      cases h
      cases hraw
      rw [String.toList_ofList] at hother
      exact (hother (prefix_flowScalar hread) (by simp [hflow])).elim
    · cases h
  · cases h
    cases hraw
    rw [String.toList_ofList] at hline ⊢
    have hnone : lines.takeWhile (isContinuation parent) = [] := by
      by_contra hne
      obtain ⟨l, more, hmore⟩ := List.exists_cons_of_ne_nil hne
      exact hline (by simp [plainScalar, hmore])
    simp [plainScalar, hnone]
  · split at h
    · cases h
    · next hread =>
      split at h
      · cases h
      · cases h
        obtain rfl := Option.some.inj hraw
        rw [String.toList_ofList] at hline ⊢
        exact hquoted hread hline
  · split at h
    · cases h
    · next hread =>
      split at h
      · cases h
      · cases h
        obtain rfl := Option.some.inj hraw
        rw [String.toList_ofList] at hline ⊢
        exact hquoted hread hline

end ManifestMarkers.Manifest
