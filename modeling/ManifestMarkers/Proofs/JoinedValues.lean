import Mathlib.Data.List.Permutation
import ManifestMarkers.Proofs.CheckedSplitting
import ManifestMarkers.Proofs.ManifestCanonical
import ManifestMarkers.Proofs.MarkerMention
import ManifestMarkers.Proofs.References

/-!
# Values and keys that are joined

Values and keys are split where they were joined, whatever a quoted scalar holds.

* `IsQuoted` says what a closed quoted scalar is, without a scanner. `splitQuoted?_append` finds its
  end in front of any text, and `splitQuoted?_eq_some_iff` says that nothing else is found.
* `WrittenValue` has the parts of a value. Properties come off one after the other
  (`takeProperties_append`), and what is left is split into the scalar and the comment
  (`WrittenValue.splits_scalarText`).
* `splitKey?_quoted` and `splitKey?_plain` are about keys.
* `splits_joined` puts this together.
-/

namespace ManifestMarkers

namespace Text

/-! ### Trimming behind a text -/

theorem isInlineBlank_eq_false {c : Char} (h : isBlank c = false) : isInlineBlank c = false := by
  rw [isInlineBlank, Bool.or_eq_false_iff, beq_eq_false_iff_ne, beq_eq_false_iff_ne]
  constructor <;> (rintro rfl; cases h)

/-- Trimming only reaches what is behind a text that does not end with a blank. -/
theorem trimEnd_append {lead : List Char} (h : ∀ c ∈ lead.getLast?, isBlank c = false)
    (cs : List Char) : trimEnd (lead ++ cs) = lead ++ trimEnd cs := by
  have hlead : lead.reverse.dropWhile isBlank = lead.reverse := trimStart_eq (by simpa using h)
  rw [trimEnd, dropWhileEnd, List.reverse_append, List.dropWhile_append, hlead]
  split
  · next hnone => simp [trimEnd, dropWhileEnd, List.isEmpty_iff.1 hnone]
  · simp [trimEnd, dropWhileEnd]

/-- Blanks can be removed at the end first. -/
theorem trimStart_trimEnd (cs : List Char) : trimStart (trimEnd cs) = trim cs := by
  have hsplit : cs.takeWhile isBlank ++ trimStart cs = cs := List.takeWhile_append_dropWhile
  have hblanks : ∀ c ∈ cs.takeWhile isBlank, isBlank c = true := fun c hc =>
    List.mem_takeWhile_imp hc
  rw [trim]
  generalize cs.takeWhile isBlank = blanks at hsplit hblanks
  cases hstart : trimStart cs with
  | nil =>
    rw [hstart, List.append_nil] at hsplit
    have hnone : trimEnd cs = [] := by
      simpa [trimEnd, dropWhileEnd, List.dropWhile_eq_nil_iff, ← hsplit] using hblanks
    rw [hnone]
    rfl
  | cons c rest =>
    have hc : isBlank c = false := isBlank_head?_trimStart cs c (by rw [hstart]; rfl)
    have hcut : cs = blanks ++ [c] ++ rest := by rw [← hsplit, hstart, List.append_assoc]; rfl
    have hlast : ∀ d ∈ [c].getLast?, isBlank d = false := by simpa using hc
    have hend : trimEnd (c :: rest) = c :: trimEnd rest := trimEnd_append hlast rest
    rw [hend, hcut, trimEnd_append (by simpa using hc), List.append_assoc, trimStart,
      List.dropWhile_append_of_pos hblanks]
    simp [hc]

end Text

namespace Manifest

open Text (isBlank isInlineBlank)

/-! ### Quoted scalars -/

/-- A text between double quotes: a backslash takes the next character with it, and no other
character is a double quote. -/
inductive IsEscaped : List Char → Prop
  | nil : IsEscaped []
  | plain {c : Char} {cs : List Char} (hquote : c ≠ '"') (hslash : c ≠ '\\') (h : IsEscaped cs) :
      IsEscaped (c :: cs)
  | escape (c : Char) {cs : List Char} (h : IsEscaped cs) : IsEscaped ('\\' :: c :: cs)

/-- A text with its single quotes doubled. -/
def doubled (cs : List Char) : List Char :=
  cs.flatMap fun c => if c = '\'' then ['\'', '\''] else [c]

/-- A text as a single-quoted scalar. -/
def singleQuoted (cs : List Char) : List Char := '\'' :: (doubled cs ++ ['\''])

/-- A closed quoted scalar. -/
inductive IsQuoted : List Char → Prop
  | single (cs : List Char) : IsQuoted (singleQuoted cs)
  | double {cs : List Char} (h : IsEscaped cs) : IsQuoted ('"' :: (cs ++ ['"']))

theorem doubled_cons (c : Char) (cs : List Char) :
    doubled (c :: cs) = (if c = '\'' then ['\'', '\''] else [c]) ++ doubled cs := by
  rw [doubled, List.flatMap_cons, ← doubled]

theorem splitDouble_append {cs : List Char} (h : IsEscaped cs) (rest : List Char) :
    splitDouble false (cs ++ '"' :: rest) = some (cs ++ ['"'], rest) := by
  induction h with
  | nil => rfl
  | plain hquote hslash _ ih => simp [splitDouble, hquote, hslash, ih]
  | escape c _ ih => simp [splitDouble, ih]

theorem splitSingle_doubled (cs : List Char) {rest : List Char} (hrest : rest.head? ≠ some '\'') :
    splitSingle (doubled cs ++ '\'' :: rest) = some (doubled cs ++ ['\''], rest) := by
  induction cs with
  | nil =>
    cases rest with
    | nil => rfl
    | cons c rest =>
      have hc : c ≠ '\'' := by simpa using hrest
      simp [doubled, splitSingle, hc]
  | cons c cs ih =>
    rw [doubled_cons]
    by_cases hc : c = '\''
    · simp [hc, splitSingle, ih]
    · simp [hc, splitSingle_cons hc, ih]

/-- A quoted scalar ends where it is closed, unless one more single quote would be a doubled one. -/
theorem splitQuoted?_append {quoted rest : List Char} (h : IsQuoted quoted)
    (hrest : quoted.head? = some '\'' → rest.head? ≠ some '\'') :
    splitQuoted? (quoted ++ rest) = some (quoted, rest) := by
  cases h with
  | single cs => simp [singleQuoted, splitQuoted?, splitSingle_doubled cs (hrest rfl)]
  | double h => simp [splitQuoted?, splitDouble_append h]

/-- Behind a backslash the next character is taken, whatever it is. -/
theorem isEscaped_of_splitDouble {escaped : Bool} {cs quoted rest : List Char}
    (h : splitDouble escaped cs = some (quoted, rest)) :
    ∃ body, quoted = body ++ ['"'] ∧ IsEscaped ((if escaped then ['\\'] else []) ++ body) := by
  induction cs generalizing escaped quoted with
  | nil => cases h
  | cons c cs ih =>
    rw [splitDouble] at h
    split at h
    · next hclose =>
      cases h
      refine ⟨[], by rw [hclose.1]; rfl, ?_⟩
      rw [if_neg (by simpa using hclose.2)]
      exact .nil
    · next hopen =>
      obtain ⟨⟨q, r⟩, hq, heq⟩ := Option.map_eq_some_iff.1 h
      cases heq
      obtain ⟨body, rfl, hbody⟩ := ih hq
      refine ⟨c :: body, rfl, ?_⟩
      cases escaped with
      | true =>
        rw [if_neg (by simp)] at hbody
        exact .escape c hbody
      | false =>
        by_cases hslash : c = '\\'
        · rw [if_pos (by simp [hslash])] at hbody
          rw [hslash]
          exact hbody
        · rw [if_neg (by simp [hslash])] at hbody
          exact .plain (by simpa using hopen) hslash hbody

/-- A single quote that is not doubled ends the scalar. -/
theorem exists_doubled_of_splitSingle {cs quoted rest : List Char}
    (h : splitSingle cs = some (quoted, rest)) :
    ∃ body, quoted = doubled body ++ ['\''] ∧ rest.head? ≠ some '\'' := by
  fun_induction splitSingle cs generalizing quoted with
  | case1 => cases h
  | case2 =>
    cases h
    exact ⟨[], rfl, by simp⟩
  | case3 cs ih =>
    obtain ⟨⟨q, r⟩, hq, heq⟩ := Option.map_eq_some_iff.1 h
    cases heq
    obtain ⟨body, rfl, hrest⟩ := ih hq
    exact ⟨'\'' :: body, by simp [doubled_cons], hrest⟩
  | case4 cs hne hsingle =>
    cases h
    refine ⟨[], rfl, fun hhead => ?_⟩
    obtain ⟨more, rfl⟩ := List.head?_eq_some_iff.1 hhead
    exact hsingle more rfl rfl
  | case5 c cs hne hsingle hc ih =>
    obtain ⟨⟨q, r⟩, hq, heq⟩ := Option.map_eq_some_iff.1 h
    cases heq
    obtain ⟨body, rfl, hrest⟩ := ih hq
    exact ⟨c :: body, by simp [doubled_cons, hc], hrest⟩

/-- What is found at the start of a text are the closed quoted scalars. -/
theorem splitQuoted?_eq_some_iff {cs quoted rest : List Char} :
    splitQuoted? cs = some (quoted, rest) ↔ cs = quoted ++ rest ∧ IsQuoted quoted ∧
      (quoted.head? = some '\'' → rest.head? ≠ some '\'') := by
  constructor
  · intro h
    refine ⟨(quotes_splitQuoted? h).1, ?_⟩
    unfold splitQuoted? at h
    split at h
    · obtain ⟨⟨q, r⟩, hq, heq⟩ := Option.map_eq_some_iff.1 h
      cases heq
      obtain ⟨body, rfl, hbody⟩ := isEscaped_of_splitDouble hq
      exact ⟨.double hbody, fun hhead => by simp at hhead⟩
    · obtain ⟨⟨q, r⟩, hq, heq⟩ := Option.map_eq_some_iff.1 h
      cases heq
      obtain ⟨body, rfl, hrest⟩ := exists_doubled_of_splitSingle hq
      exact ⟨.single body, fun _ => hrest⟩
    · cases h
  · rintro ⟨rfl, hquoted, hrest⟩
    exact splitQuoted?_append hquoted hrest

/-- The content of a single-quoted scalar is the text that was quoted. -/
theorem replaceAll_doubled (cs : List Char) :
    Text.replaceAll ['\'', '\''] ['\''] (doubled cs) = cs := by
  induction cs with
  | nil => rfl
  | cons c cs ih =>
    rw [doubled_cons]
    by_cases hc : c = '\''
    · rw [if_pos hc, Text.replaceAll_append (by simp), ih, hc]
      rfl
    · have hstart : ¬ ['\'', '\''] <+: c :: doubled cs := fun h =>
        hc (List.cons_prefix_cons.1 h).1.symm
      rw [if_neg hc, List.singleton_append, Text.replaceAll_cons hstart, ih]

theorem notMem_singleQuoted {cs : List Char} (h : '\n' ∉ cs) : '\n' ∉ singleQuoted cs := by
  simp only [singleQuoted, doubled, List.mem_cons, List.mem_append, List.mem_flatMap]
  rintro (hc | ⟨c, hc, hmem⟩ | hc | hc)
  · cases hc
  · split at hmem
    · simp at hmem
    · exact h (List.mem_singleton.1 hmem ▸ hc)
  · cases hc
  · cases hc

/-- What is quoted on one line is decoded again. -/
theorem decodeScalar_singleQuoted {cs : List Char} (h : '\n' ∉ cs) (number : Nat) :
    decodeScalar (singleQuoted cs) number = .ok cs := by
  have hline : (singleQuoted cs).contains '\n' = false := by simpa using notMem_singleQuoted h
  have hstyle : styleOf (singleQuoted cs) = .singleQuoted := rfl
  rw [decodeScalar, hstyle]
  dsimp only
  rw [hline, if_neg (by simp), singleQuoted, decodeSingle]
  simp [replaceAll_doubled]

/-! ### The parts of a value -/

/-- The kinds of properties. -/
inductive PropertyKind
  | anchor
  | tag

/-- The character that a property starts with. -/
def PropertyKind.sign : PropertyKind → Char
  | anchor => '&'
  | tag => '!'

/-- A property: its sign and visible ASCII characters. -/
def IsProperty (kind : PropertyKind) (property : List Char) : Prop :=
  ∃ name, property = kind.sign :: name ∧ ∀ c ∈ name, 0x21 ≤ c.toNat ∧ c.toNat ≤ 0x7e

/-- A plain scalar, which may be empty: there are no blanks around it, it does not start like
another part, and nothing in it starts a comment. -/
structure IsPlain (cs : List Char) : Prop where
  starts : ∀ c ∈ cs.head?, isBlank c = false ∧ c ∉ ['&', '!', '#', '"', '\'']
  isTrimmed : ∀ c ∈ cs.getLast?, isBlank c = false
  noComment : ∀ b, isInlineBlank b = true → ¬ [b, '#'] <:+: cs

/-- A comment behind a value. -/
structure IsTrailing (cs : List Char) : Prop where
  starts : cs.head? = some '#'
  isTrimmed : ∀ c ∈ cs.getLast?, isBlank c = false

/-- The parts of a value, as they are written. -/
structure WrittenValue where
  anchor : Option (List Char)
  tag : Option (List Char)
  scalar : List Char
  comment : Option (List Char)
  isAnchor : ∀ property ∈ anchor, IsProperty .anchor property
  isTag : ∀ property ∈ tag, IsProperty .tag property
  isScalar : IsQuoted scalar ∨ IsPlain scalar
  isComment : ∀ cs ∈ comment, IsTrailing cs

namespace WrittenValue

/-- The anchor and the tag, as far as there are any. -/
def properties (w : WrittenValue) : List (List Char) := w.anchor.toList ++ w.tag.toList

/-- The scalar with the comment behind it. -/
def scalarText (w : WrittenValue) : List Char :=
  Text.joinWith [' '] (w.scalar :: w.comment.toList)

/-- The parts as they are read. -/
def value (w : WrittenValue) : InlineValue :=
  { anchor := w.anchor, tag := w.tag, text := w.scalar, comment := w.comment.getD [] }

end WrittenValue

/-! ### Properties -/

/-- The property of a value, if it has one. -/
def InlineValue.property? (v : InlineValue) : PropertyKind → Option (List Char)
  | .anchor => v.anchor
  | .tag => v.tag

/-- The value with one more property. -/
def InlineValue.withProperty (v : InlineValue) (property : List Char) : PropertyKind → InlineValue
  | .anchor => { v with anchor := some property }
  | .tag => { v with tag := some property }

section

variable {kind : PropertyKind} {property : List Char} (fuel : Nat) (v : InlineValue)
  (cs : List Char)

/-- A property has no blanks of any kind. -/
theorem IsProperty.isBlank (h : IsProperty kind property) :
    ∀ c ∈ property, isBlank c = false := by
  obtain ⟨name, rfl, hname⟩ := h
  intro c hc
  have hvisible : 0x21 ≤ c.toNat ∧ c.toNat ≤ 0x7e := by
    rcases List.mem_cons.1 hc with rfl | hc
    · cases kind <;> decide
    · exact hname c hc
  have hspace : c ≠ ' ' := by
    rintro rfl
    revert hvisible
    decide
  simp only [Text.isBlank, Bool.or_eq_false_iff, Bool.and_eq_false_iff, decide_eq_false_iff_not,
    beq_eq_false_iff_ne, hspace, ne_eq, not_false_eq_true, and_true]
  omega

/-- A property is cut off at the blank behind it, and the blanks behind it go. -/
theorem exists_cut_property (h : IsProperty kind property) : ∃ after,
    Text.trim (property ++ ' ' :: cs) = property ++ after ∧
      (property ++ after).takeWhile (fun c => !isInlineBlank c) = property ∧
      Text.trimStart ((property ++ after).drop property.length) = Text.trim cs := by
  have hblank := h.isBlank
  have hword : ∀ c ∈ property, (!isInlineBlank c) = true := fun c hc => by
    rw [Text.isInlineBlank_eq_false (hblank c hc)]
    rfl
  refine ⟨Text.trimEnd (' ' :: cs), ?_, ?_, ?_⟩
  · obtain ⟨name, rfl, -⟩ := h
    rw [Text.trim, Text.trimStart_eq, Text.trimEnd_append]
    · exact fun c hc => hblank c (List.mem_of_getLast? hc)
    · exact fun c hc => hblank c (List.mem_of_mem_head? hc)
  · obtain ⟨more, hmore⟩ := Text.trimEnd_prefix (' ' :: cs)
    rw [List.takeWhile_append_of_pos hword]
    cases hend : Text.trimEnd (' ' :: cs) with
    | nil => simp
    | cons c rest =>
      rw [hend] at hmore
      obtain rfl : c = ' ' := (List.cons.inj hmore).1
      simp [Text.isInlineBlank]
  · rw [List.drop_left, Text.trimStart_trimEnd]
    rfl

/-- A property that the value does not have yet is taken off. -/
theorem takeProperties_append (h : IsProperty kind property) (hv : v.property? kind = none) :
    takeProperties (fuel + 1) v (Text.trim (property ++ ' ' :: cs)) =
      takeProperties fuel (v.withProperty property kind) (Text.trim cs) := by
  obtain ⟨after, htrim, hword, hrest⟩ := exists_cut_property cs h
  obtain ⟨name, rfl, -⟩ := h
  rw [htrim, ← hrest]
  rw [List.cons_append] at hword ⊢
  cases kind with
  | anchor =>
    have hanchor : v.anchor = none := hv
    simp only [PropertyKind.sign] at hword ⊢
    rw [takeProperties, hword, hanchor]
    rfl
  | tag =>
    have htag : v.tag = none := hv
    simp only [PropertyKind.sign] at hword ⊢
    rw [takeProperties, hword, htag]
    rfl

/-- Without a sign in front nothing is taken off. -/
theorem takeProperties_eq_self (h : ∀ c ∈ cs.head?, c ≠ '&' ∧ c ≠ '!') :
    takeProperties fuel v cs = (v, cs) := by
  cases fuel with
  | zero => rfl
  | succ fuel =>
    cases cs with
    | nil => rfl
    | cons c cs =>
      obtain ⟨hand, hbang⟩ := h c rfl
      simp [takeProperties, hand, hbang]

end

/-! ### Scalars and comments -/

/-- There is the same quote on both sides. -/
theorem IsQuoted.exists_quote {quoted : List Char} (h : IsQuoted quoted) :
    ∃ q inner, (q = '"' ∨ q = '\'') ∧ quoted = q :: (inner ++ [q]) := by
  cases h with
  | single cs => exact ⟨'\'', doubled cs, .inr rfl, rfl⟩
  | @double cs h => exact ⟨'"', cs, .inl rfl, rfl⟩

theorem IsQuoted.isBlank_getLast? {quoted : List Char} (h : IsQuoted quoted) :
    ∀ c ∈ quoted.getLast?, isBlank c = false := by
  obtain ⟨q, inner, hq, rfl⟩ := h.exists_quote
  rw [← List.cons_append, List.getLast?_concat]
  rintro c ⟨⟩
  rcases hq with rfl | rfl <;> rfl

/-- What starts no comment is left where it is. -/
theorem splitHash_append {cs : List Char} (h : ∀ b, isInlineBlank b = true → ¬ [b, '#'] <:+: cs)
    {before : Option Char} (hstart : before.all isInlineBlank = true → cs.head? ≠ some '#')
    (rest : List Char) :
    splitHash before (cs ++ rest) = (cs ++ (splitHash (cs.getLast?.or before) rest).1,
      (splitHash (cs.getLast?.or before) rest).2) := by
  induction cs generalizing before with
  | nil => rfl
  | cons c cs ih =>
    have hmore : ∀ b, isInlineBlank b = true → ¬ [b, '#'] <:+: cs := fun b hb hin =>
      h b hb (hin.trans (List.suffix_cons c cs).isInfix)
    have hnext : (some c).all isInlineBlank = true → cs.head? ≠ some '#' := by
      intro hc hhead
      obtain ⟨more, rfl⟩ := List.head?_eq_some_iff.1 hhead
      exact h c hc (List.prefix_append [c, '#'] more).isInfix
    have hfree : ¬ (c == '#' && before.all isInlineBlank) = true := by
      rw [Bool.and_eq_true, beq_iff_eq]
      rintro ⟨rfl, hbefore⟩
      exact hstart hbefore rfl
    have hlast : (c :: cs).getLast?.or before = cs.getLast?.or (some c) := by
      cases cs with
      | nil => rfl
      | cons d cs => simp [List.getLast?_cons]
    rw [List.cons_append, Checked.splitHash_cons, if_neg hfree, ih hmore hnext, hlast]
    rfl

/-- Without a tag there is nothing in front of the scalar. -/
theorem splitTag_eq_self {c : Char} (cs : List Char) (hblank : isBlank c = false)
    (hbang : c ≠ '!') : splitTag (c :: cs) = ([], c :: cs) := by
  simp [splitTag, hbang, hblank]

/-- A comment starts behind a blank, whatever stands before that. -/
theorem IsTrailing.splitHash_eq {cs : List Char} (h : IsTrailing cs) (before : Option Char) :
    splitHash before (' ' :: cs) = ([' '], cs) := by
  obtain ⟨more, rfl⟩ := List.head?_eq_some_iff.1 h.starts
  simp [splitHash]

namespace WrittenValue

/-- A comment with the blank in front of it. -/
def trail (w : WrittenValue) : List Char := w.comment.elim [] (' ' :: ·)

/-- The blank that is left in front of a comment. -/
def gap (w : WrittenValue) : List Char := if w.comment.isSome then [' '] else []

variable (w : WrittenValue)

theorem scalarText_eq : w.scalarText = w.scalar ++ w.trail := by
  rw [scalarText, trail]
  cases w.comment with
  | none => simp [Text.joinWith]
  | some cs => simp [Text.joinWith]

/-- A comment starts with its `#`, and is behind a blank. -/
theorem comment_cases : (w.comment.getD [] = [] ∧ w.trail = []) ∨
    ∃ more, w.comment.getD [] = '#' :: more ∧ w.trail = ' ' :: '#' :: more := by
  rw [trail]
  cases hcomment : w.comment with
  | none => exact .inl ⟨rfl, rfl⟩
  | some cs =>
    obtain ⟨more, rfl⟩ := List.head?_eq_some_iff.1 (w.isComment cs hcomment).starts
    exact .inr ⟨more, rfl, rfl⟩

theorem splitHash_trail (before : Option Char) :
    splitHash before w.trail = (w.gap, w.comment.getD []) := by
  rw [trail, gap]
  cases hcomment : w.comment with
  | none => rfl
  | some cs => exact (w.isComment cs hcomment).splitHash_eq before

/-- The scalar does not end with a blank. -/
theorem isBlank_getLast?_scalar : ∀ c ∈ w.scalar.getLast?, isBlank c = false := by
  rcases w.isScalar with hquoted | hplain
  · exact hquoted.isBlank_getLast?
  · exact hplain.isTrimmed

theorem trimEnd_comment : Text.trimEnd (w.comment.getD []) = w.comment.getD [] := by
  cases hcomment : w.comment with
  | none => rfl
  | some cs => exact Text.trimEnd_eq (w.isComment cs hcomment).isTrimmed

theorem trimEnd_trail : Text.trimEnd w.trail = w.trail := by
  refine Text.trimEnd_eq ?_
  rw [trail]
  cases hcomment : w.comment with
  | none => simp
  | some cs =>
    have hcs := w.isComment cs hcomment
    obtain ⟨more, rfl⟩ := List.head?_eq_some_iff.1 hcs.starts
    exact hcs.isTrimmed

/-- The blank in front of the comment does not stay with the scalar. -/
theorem trimEnd_gap : Text.trimEnd (w.scalar ++ w.gap) = w.scalar := by
  have hgap : Text.trimEnd w.gap = [] := by
    rw [gap]
    split <;> rfl
  rw [Text.trimEnd_append w.isBlank_getLast?_scalar, hgap, List.append_nil]

/-- What is left of a value when its properties are taken off, and how that is split. -/
structure Splits (w : WrittenValue) (text : List Char) : Prop where
  unsigned : ∀ c ∈ text.head?, c ≠ '&' ∧ c ≠ '!'
  closed : startsQuoted text = true → (splitQuoted? text).isSome = true
  split : splitComment text = (w.scalar, w.comment.getD [])

/-- The scalar and the comment are found, if the scalar is looked for at the right place. -/
theorem splitComment_eq {text quoted rest value : List Char} (htrim : Text.trim text = text)
    (htag : splitTag text = ([], text))
    (hquoted : (splitQuoted? text).getD ([], text) = (quoted, rest))
    (hhash : splitHash quoted.getLast? rest = (value, w.comment.getD []))
    (hvalue : Text.trimEnd (quoted ++ value) = w.scalar)
    (hnone : w.comment.getD [] = [] → text = w.scalar) :
    splitComment text = (w.scalar, w.comment.getD []) := by
  unfold splitComment
  simp only [htrim, htag, hquoted, List.nil_append, hhash]
  split
  · next hempty =>
    have hempty := List.isEmpty_iff.1 hempty
    rw [hempty, hnone hempty]
  · rw [hvalue, w.trimEnd_comment]

/-- Without a comment there is nothing behind the scalar. -/
theorem scalarText_eq_scalar (h : w.comment.getD [] = []) : w.scalarText = w.scalar := by
  rcases w.comment_cases with ⟨-, htrail⟩ | ⟨more, hmore, -⟩
  · rw [scalarText_eq, htrail, List.append_nil]
  · rw [h] at hmore
    cases hmore

theorem trim_scalarText {c : Char} {cs : List Char} (hscalar : w.scalar = c :: cs)
    (hc : isBlank c = false) : Text.trim w.scalarText = w.scalarText := by
  rw [scalarText_eq, Text.trim, Text.trimStart_eq, Text.trimEnd_append w.isBlank_getLast?_scalar,
    trimEnd_trail]
  simp [hscalar, hc]

/-- Behind a quoted scalar only the comment is searched. -/
theorem splits_quoted (h : IsQuoted w.scalar) : Splits w (Text.trim w.scalarText) := by
  obtain ⟨q, inner, hq, hscalar⟩ := h.exists_quote
  have hblank : isBlank q = false := by rcases hq with rfl | rfl <;> rfl
  have htrim := w.trim_scalarText hscalar hblank
  have hstart : startsQuoted w.scalarText = true := by
    rw [scalarText_eq, hscalar]
    rcases hq with rfl | rfl <;> rfl
  have hopen : splitQuoted? w.scalarText = some (w.scalar, w.trail) := by
    rw [scalarText_eq]
    refine splitQuoted?_append h fun _ => ?_
    rcases w.comment_cases with ⟨-, htrail⟩ | ⟨more, -, htrail⟩ <;> simp [htrail]
  rw [htrim]
  refine ⟨?_, fun _ => by rw [hopen]; rfl, ?_⟩
  · rw [scalarText_eq, hscalar]
    rintro c ⟨⟩
    rcases hq with rfl | rfl <;> decide
  · exact w.splitComment_eq htrim (splitTag_quoted hstart) (by rw [hopen]; rfl)
      (w.splitHash_trail _) w.trimEnd_gap w.scalarText_eq_scalar

/-- A plain scalar is searched from its start, where the comment is found behind it. -/
theorem splits_plain {c : Char} {cs : List Char} (hscalar : w.scalar = c :: cs)
    (h : IsPlain w.scalar) : Splits w (Text.trim w.scalarText) := by
  obtain ⟨hblank, hstart⟩ := h.starts c (by rw [hscalar]; rfl)
  simp only [List.mem_cons, List.not_mem_nil, or_false, not_or] at hstart
  obtain ⟨hand, hbang, hhash, hdouble, hsingle⟩ := hstart
  have htrim := w.trim_scalarText hscalar hblank
  have htext : w.scalarText = c :: (cs ++ w.trail) := by rw [scalarText_eq, hscalar]; rfl
  have hopen : (splitQuoted? w.scalarText).getD ([], w.scalarText) = ([], w.scalarText) := by
    simp [htext, splitQuoted?, hdouble, hsingle]
  have htag : splitTag w.scalarText = ([], w.scalarText) := by
    rw [htext]
    exact splitTag_eq_self _ hblank hbang
  have hsearch : splitHash none w.scalarText = (w.scalar ++ w.gap, w.comment.getD []) := by
    rw [scalarText_eq, splitHash_append h.noComment (by simp [hscalar, hhash]), splitHash_trail]
  rw [htrim]
  refine ⟨?_, ?_, ?_⟩
  · rw [htext]
    rintro d ⟨⟩
    exact ⟨hand, hbang⟩
  · simp [htext, startsQuoted, hdouble, hsingle]
  · exact w.splitComment_eq htrim htag hopen hsearch w.trimEnd_gap w.scalarText_eq_scalar

/-- Without a scalar there is only the comment. -/
theorem splits_empty (hscalar : w.scalar = []) : Splits w (Text.trim w.scalarText) := by
  have htrim : Text.trim w.scalarText = w.comment.getD [] := by
    rw [scalarText_eq, hscalar, List.nil_append, Text.trim, ← w.trimEnd_comment]
    rcases w.comment_cases with ⟨hcomment, htrail⟩ | ⟨more, hcomment, htrail⟩
    · rw [hcomment, htrail]
      rfl
    · rw [hcomment, htrail]
      rfl
  have hsame : Text.trim (w.comment.getD []) = w.comment.getD [] := by
    rw [Text.trim, Text.trimStart_eq, w.trimEnd_comment]
    rcases w.comment_cases with ⟨hcomment, -⟩ | ⟨more, hcomment, -⟩ <;> rw [hcomment]
    · simp
    · rintro c ⟨⟩
      rfl
  have hvalue : Text.trimEnd ([] ++ []) = w.scalar := hscalar.symm
  have hnone (h : w.comment.getD [] = []) : w.comment.getD [] = w.scalar := by rw [h, hscalar]
  rw [htrim]
  rcases w.comment_cases with ⟨hcomment, -⟩ | ⟨more, hcomment, -⟩
  all_goals
    have hopen : (splitQuoted? (w.comment.getD [])).getD ([], w.comment.getD []) =
        ([], w.comment.getD []) := by
      rw [hcomment]
      rfl
    refine ⟨by simp [hcomment], by simp [hcomment, startsQuoted], ?_⟩
    refine w.splitComment_eq hsame ?_ hopen ?_ hvalue hnone <;> rw [hcomment] <;> rfl

/-- What is left behind the properties is split into the scalar and the comment. -/
theorem splits_scalarText : Splits w (Text.trim w.scalarText) := by
  rcases w.isScalar with hquoted | hplain
  · exact w.splits_quoted hquoted
  cases hscalar : w.scalar with
  | nil => exact w.splits_empty hscalar
  | cons c cs => exact w.splits_plain hscalar hplain

/-- The properties come off one after the other, in any order. -/
theorem takeProperties_joined {properties : List (List Char)}
    (h : properties.Perm w.properties) :
    takeProperties 2 {} (Text.trim (Text.joinWith [' ']
      (properties ++ w.scalar :: w.comment.toList))) =
        ({ anchor := w.anchor, tag := w.tag }, Text.trim w.scalarText) := by
  have hend (fuel : Nat) (v : InlineValue) :
      takeProperties fuel v (Text.trim w.scalarText) = (v, Text.trim w.scalarText) :=
    takeProperties_eq_self fuel v _ w.splits_scalarText.unsigned
  have hcons (p q : List Char) (parts : List (List Char)) :
      Text.joinWith [' '] (p :: q :: parts) = p ++ ' ' :: Text.joinWith [' '] (q :: parts) := by
    simp [Text.joinWith]
  rw [WrittenValue.properties] at h
  cases hanchor : w.anchor with
  | none =>
    cases htag : w.tag with
    | none =>
      obtain rfl : properties = [] := by simpa [hanchor, htag] using h
      exact hend 2 {}
    | some t =>
      obtain rfl : properties = [t] := by simpa [hanchor, htag] using h
      rw [List.singleton_append, hcons, takeProperties_append 1 {} _ (w.isTag t htag) rfl]
      exact hend 1 _
  | some a =>
    cases htag : w.tag with
    | none =>
      obtain rfl : properties = [a] := by simpa [hanchor, htag] using h
      rw [List.singleton_append, hcons, takeProperties_append 1 {} _ (w.isAnchor a hanchor) rfl]
      exact hend 1 _
    | some t =>
      have ha := w.isAnchor a hanchor
      have ht := w.isTag t htag
      obtain rfl | rfl : properties = [a, t] ∨ properties = [t, a] := by
        simpa [hanchor, htag, List.perm_pair] using h
      · rw [List.cons_append, List.singleton_append, hcons, hcons,
          takeProperties_append 1 {} _ ha rfl, takeProperties_append 0 _ _ ht rfl]
        exact hend 0 _
      · rw [List.cons_append, List.singleton_append, hcons, hcons,
          takeProperties_append 1 {} _ ht rfl, takeProperties_append 0 _ _ ha rfl]
        exact hend 0 _

theorem splitValue_joined {properties : List (List Char)} (h : properties.Perm w.properties) :
    splitValue (Text.joinWith [' '] (properties ++ w.scalar :: w.comment.toList)) = w.value := by
  have hclosed : (startsQuoted (Text.trim w.scalarText) &&
      (splitQuoted? (Text.trim w.scalarText)).isNone) = false := by
    cases hstart : startsQuoted (Text.trim w.scalarText) with
    | false => rfl
    | true => simpa [Option.isSome_iff_ne_none] using w.splits_scalarText.closed hstart
  rw [splitValue, w.takeProperties_joined h]
  simp only [hclosed, w.splits_scalarText.split]
  rfl

end WrittenValue

/-! ### Keys -/

/-- A key without quotes. -/
structure IsPlainKey (cs : List Char) : Prop where
  starts : ∃ c ∈ cs.head?, isBlank c = false ∧ c ∉ ['-', '"', '\''] ∧ isKeyBarrier c = false
  isTrimmed : ∀ c ∈ cs.getLast?, isBlank c = false
  noColon : ':' ∉ cs
  noComment : ¬ [' ', '#'] <:+: cs

/-- A colon in front of a blank, or at the end, ends the key. -/
theorem splitColon_end {rest : List Char} (h : ∀ c ∈ rest.head?, isInlineBlank c = true) :
    splitColon (':' :: rest) = some ([], rest) := by
  have hend : rest.head?.all isInlineBlank = true := by
    cases rest with
    | nil => rfl
    | cons c rest => exact h c rfl
  rw [Checked.splitColon_colon, if_pos hend]

theorem isItem_eq_false {c : Char} (cs : List Char) (hc : c ≠ '-') : isItem (c :: cs) = false := by
  unfold isItem
  split <;> simp_all

/-- A key is what stands in front of its colon, if nothing else speaks against it. -/
theorem splitKey?_eq_some {text key quoted search before after : List Char}
    (hitem : isItem text = false) (hbarrier : text.head?.any isKeyBarrier = false)
    (hstart : (if startsQuoted text then splitQuoted? text else some ([], text)) =
      some (quoted, search))
    (hcolon : splitColon search = some (before, after))
    (hkey : Text.trimEnd (quoted ++ before) = key) (hne : key ≠ [])
    (hcomment : quoted = [] → Text.occursIn [' ', '#'] key = false) :
    splitKey? text = some (key, after) := by
  have hvalid : ¬ (key.isEmpty || (quoted.isEmpty && Text.occursIn [' ', '#'] key)) = true := by
    simpa [hne] using hcomment
  unfold splitKey?
  simp only [hitem, hbarrier, Bool.or_self, Bool.false_eq_true, if_false, hstart, hcolon, hkey]
  rw [if_neg hvalid]

/-- A quoted key may have colons. -/
theorem splitKey?_quoted {key rest : List Char} (hkey : IsQuoted key)
    (hrest : ∀ c ∈ rest.head?, isInlineBlank c = true) :
    splitKey? (key ++ ':' :: rest) = some (key, rest) := by
  obtain ⟨q, inner, hq, hquoted⟩ := hkey.exists_quote
  have htext : key ++ ':' :: rest = q :: (inner ++ [q] ++ ':' :: rest) := by rw [hquoted]; rfl
  have hopen : splitQuoted? (key ++ ':' :: rest) = some (key, ':' :: rest) :=
    splitQuoted?_append hkey fun _ => by simp
  have hstart : startsQuoted (key ++ ':' :: rest) = true := by
    rw [htext]
    rcases hq with rfl | rfl <;> rfl
  refine splitKey?_eq_some ?_ ?_ (by rw [if_pos hstart, hopen]) (splitColon_end hrest) ?_
    (by simp [hquoted]) (by simp [hquoted])
  · rw [htext]
    exact isItem_eq_false _ (by rcases hq with rfl | rfl <;> decide)
  · rw [htext]
    rcases hq with rfl | rfl <;> rfl
  · rw [List.append_nil, Text.trimEnd_eq hkey.isBlank_getLast?]

/-- A key without quotes ends at its colon. -/
theorem splitKey?_plain {key rest : List Char} (hkey : IsPlainKey key)
    (hrest : ∀ c ∈ rest.head?, isInlineBlank c = true) :
    splitKey? (key ++ ':' :: rest) = some (key, rest) := by
  obtain ⟨c, hc, -, hstart, hbarrier⟩ := hkey.starts
  obtain ⟨more, rfl⟩ := List.head?_eq_some_iff.1 hc
  simp only [List.mem_cons, List.not_mem_nil, or_false, not_or] at hstart
  obtain ⟨hdash, hdouble, hsingle⟩ := hstart
  have hplain : startsQuoted (c :: more ++ ':' :: rest) = false := by
    simp [startsQuoted, hdouble, hsingle]
  have hcolon : splitColon (c :: more ++ ':' :: rest) = some (c :: more, rest) := by
    rw [Canonical.splitColon_append hkey.noColon, splitColon_end hrest]
    simp
  refine splitKey?_eq_some (isItem_eq_false _ hdash) (by simpa using hbarrier)
    (by rw [if_neg (Bool.eq_false_iff.1 hplain)]) hcolon ?_ (by simp) fun _ => ?_
  · rw [List.nil_append, Text.trimEnd_eq hkey.isTrimmed]
  · rw [Bool.eq_false_iff, ne_eq, Text.occursIn_eq_true]
    exact hkey.noComment

/-- Values and keys are split where they were joined.

A value is written as its anchor and tag in either order, its scalar and its comment, with single
spaces between them, and these parts are read. A quoted scalar ends with its closing quote, in
characters and in bytes, in front of every text that does not start with a quote. The content of a
single-quoted scalar on one line is the text whose quotes were doubled. A key ends at the colon
behind it. -/
theorem splits_joined :
    (∀ (w : WrittenValue) (properties : List (List Char)), properties.Perm w.properties →
      splitValue (Text.joinWith [' '] (properties ++ w.scalar :: w.comment.toList)) = w.value) ∧
    (∀ quoted rest : List Char, IsQuoted quoted → startsQuoted rest = false →
      splitQuoted? (quoted ++ rest) = some (quoted, rest) ∧
        Checked.quotedEnd (quoted ++ rest) = .ok (some (Text.byteSize quoted))) ∧
    (∀ (cs : List Char) (number : Nat), '\n' ∉ cs →
      decodeScalar (singleQuoted cs) number = .ok cs) ∧
    ∀ key rest : List Char, IsQuoted key ∨ IsPlainKey key →
      (∀ c ∈ rest.head?, isInlineBlank c = true) →
      splitKey? (key ++ ':' :: rest) = some (key, rest) := by
  refine ⟨fun w properties => w.splitValue_joined, ?_, fun cs number h =>
    decodeScalar_singleQuoted h number, ?_⟩
  · intro quoted rest hquoted hrest
    have hopen : splitQuoted? (quoted ++ rest) = some (quoted, rest) := by
      refine splitQuoted?_append hquoted fun _ hhead => ?_
      obtain ⟨more, rfl⟩ := List.head?_eq_some_iff.1 hhead
      cases hrest
    refine ⟨hopen, ?_⟩
    rw [Checked.quotedEnd_eq, hopen]
    rfl
  · rintro key rest (hquoted | hplain) hrest
    · exact splitKey?_quoted hquoted hrest
    · exact splitKey?_plain hplain hrest

/-- A value with all its parts, and a scalar that holds quotes, a colon and what looks like a
comment. -/
def writtenNote : WrittenValue where
  anchor := some "&a".toList
  tag := some "!t".toList
  scalar := singleQuoted "it's: # x".toList
  comment := some "# note".toList
  isAnchor := by
    rintro property ⟨⟩
    exact ⟨['a'], rfl, List.forall_mem_singleton.2 (by decide)⟩
  isTag := by
    rintro property ⟨⟩
    exact ⟨['t'], rfl, List.forall_mem_singleton.2 (by decide)⟩
  isScalar := .inl (.single _)
  isComment := by
    rintro cs ⟨⟩
    exact ⟨rfl, by rintro c ⟨⟩; rfl⟩

/-- A plain value that holds a hash and a colon, with the same comment. -/
def plainNote : WrittenValue where
  anchor := none
  tag := none
  scalar := "a#b: c".toList
  comment := writtenNote.comment
  isAnchor := nofun
  isTag := nofun
  isScalar := .inr {
    starts := by
      rintro c ⟨⟩
      decide
    isTrimmed := by
      rintro c ⟨⟩
      rfl
    noComment := by
      intro b hb
      obtain rfl | rfl : b = ' ' ∨ b = '\t' := by simpa [Text.isInlineBlank] using hb
      all_goals decide }
  isComment := writtenNote.isComment

theorem splits_joined_note :
    splitValue "!t &a 'it''s: # x' # note".toList = writtenNote.value ∧
      splitValue "a#b: c # note".toList = plainNote.value ∧
      Checked.quotedEnd "'it''s: # x'é".toList = .ok (some 12) ∧
      decodeScalar "'it''s: # x'".toList 1 = .ok "it's: # x".toList ∧
      splitKey? "'it''s: # x': y".toList = some ("'it''s: # x'".toList, " y".toList) ∧
      splitKey? "a#b: y".toList = some ("a#b".toList, " y".toList) := by
  have hquoted : IsQuoted "'it''s: # x'".toList := .single "it's: # x".toList
  have hplain : IsPlainKey "a#b".toList :=
    ⟨⟨'a', rfl, by decide⟩, by rintro c ⟨⟩; rfl, by decide, by decide⟩
  have hrest : ∀ c ∈ " y".toList.head?, isInlineBlank c = true := by
    rintro c ⟨⟩
    rfl
  refine ⟨?_, ?_, ?_, ?_, ?_, ?_⟩
  · exact splits_joined.1 writtenNote ["!t".toList, "&a".toList] (List.Perm.swap _ _ [])
  · exact splits_joined.1 plainNote [] (List.Perm.refl [])
  · exact (splits_joined.2.1 _ "é".toList hquoted (by decide)).2
  · exact splits_joined.2.2.1 "it's: # x".toList 1 (by decide)
  · exact splits_joined.2.2.2 _ " y".toList (.inl hquoted) hrest
  · exact splits_joined.2.2.2 _ " y".toList (.inr hplain) hrest

end Manifest
end ManifestMarkers
