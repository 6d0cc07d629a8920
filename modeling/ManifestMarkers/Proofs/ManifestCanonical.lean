import Mathlib.Data.List.DropRight
import ManifestMarkers.Manifest

/-!
# Manifests in canonical layout

A canonical manifest consists of block mappings and block sequences of words, without blank lines.
Comments stand above a line, at its indentation, or behind it.

* `Members` are the pairs of a mapping or the items of a sequence, `Document` one document.
* `Members.rows` are the lines of a layout, `Document.text` and `streamText` are texts.
* `splitKey?_key`, `splitKey?_word`, `splitValue_word` and `splitValue_trailText` say where the
  lines of a layout are split.
* `shows_of` and `Members.isRowText_rows`: every row of a layout is read as it stands.
-/

namespace ManifestMarkers.Manifest.Canonical

/-! ### Words and comments -/

/-- A character of a word. -/
def isWordChar (c : Char) : Bool := c.isAlphanum || c == '_' || c == '.' || c == '-'

/-- Whether a text is a key: a letter and word characters. -/
def isKey : List Char → Bool
  | [] => false
  | c :: cs => c.isAlpha && cs.all isWordChar

/-- Whether a text is a scalar: a letter or digit and word characters or slashes. -/
def isWord : List Char → Bool
  | [] => false
  | c :: cs => c.isAlphanum && cs.all fun d => isWordChar d || d == '/'

/-- The key of a pair. -/
structure Key where
  text : List Char
  isKey : isKey text = true

/-- A scalar. -/
structure Word where
  text : List Char
  isWord : isWord text = true

/-- A comment with its `#`, on one line and without blanks at its end. -/
structure Comment where
  text : List Char
  starts : text.head? = some '#'
  isLine : '\n' ∉ text
  isTrimmed : ∀ c ∈ text.getLast?, Text.isBlank c = false

/-! ### Layouts -/

/-- The shapes of collections. -/
inductive Shape
  | mapping
  | sequence
  deriving DecidableEq

/-- The pairs of a mapping or the items of a sequence; the index says whether there is any. A block
stands `deeper` columns to the right of the least indentation it may have, and `blanks` is the
number of blanks behind a dash in excess of one. -/
inductive Members : Shape → Bool → Type
  | nil (shape : Shape) : Members shape false
  /-- A key with a scalar. -/
  | scalarPair {any : Bool} (head : List Comment) (key : Key) (word : Word) (trail : Option Comment)
      (more : Members .mapping any) : Members .mapping true
  /-- A key with a block below it. -/
  | blockPair {shape : Shape} {any : Bool} (head : List Comment) (key : Key)
      (trail : Option Comment) (deeper : Nat) (block : Members shape true)
      (more : Members .mapping any) : Members .mapping true
  /-- A scalar behind a dash. -/
  | scalarItem {any : Bool} (head : List Comment) (word : Word) (trail : Option Comment)
      (more : Members .sequence any) : Members .sequence true
  /-- A mapping with its first key behind a dash. -/
  | mappingItem {any : Bool} (blanks : Nat) (block : Members .mapping true)
      (more : Members .sequence any) : Members .sequence true

/-- A line without its line end: its indentation and the text behind it. -/
structure Row where
  indent : Nat
  text : List Char

/-- The characters of a row. -/
def Row.chars (r : Row) : List Char := spaces r.indent ++ r.text

/-- The text of rows, each with its line end. -/
def rowsText (rows : List Row) : List Char := rows.flatMap fun r => r.chars ++ ['\n']

/-- Comments as rows at an indentation. -/
def commentRows (indent : Nat) (comments : List Comment) : List Row :=
  comments.map fun c => ⟨indent, c.text⟩

/-- A trailing comment, after a blank. -/
def trailText : Option Comment → List Char
  | none => []
  | some c => ' ' :: c.text

/-- A trailing comment itself. -/
def trailComment : Option Comment → List Char
  | none => []
  | some c => c.text

/-- The indentation of a block below a key: a mapping is indented deeper than the key. -/
def blockIndent (indent deeper : Nat) : Shape → Nat
  | .mapping => indent + 1 + deeper
  | .sequence => indent + deeper

/-- The indentation of a mapping behind a dash. -/
def itemIndent (indent blanks : Nat) : Nat := indent + 2 + blanks

/-- The rows of members from their comments, first line and further rows. -/
def rowsOf (any : Bool) (indent : Nat) (head : List Comment) (first : List Char)
    (rest : List Row) : List Row :=
  if any then commentRows indent head ++ ⟨indent, first⟩ :: rest else []

namespace Members

/-- The comments above the first line. -/
def head {shape : Shape} {any : Bool} : Members shape any → List Comment
  | nil _ => []
  | scalarPair head _ _ _ _ => head
  | blockPair head _ _ _ _ _ => head
  | scalarItem head _ _ _ => head
  | mappingItem _ block _ => block.head

/-- The first line behind its indentation. -/
def first {shape : Shape} {any : Bool} : Members shape any → List Char
  | nil _ => []
  | scalarPair _ key word trail _ => key.text ++ ':' :: ' ' :: (word.text ++ trailText trail)
  | blockPair _ key trail _ _ _ => key.text ++ ':' :: trailText trail
  | scalarItem _ word trail _ => '-' :: ' ' :: (word.text ++ trailText trail)
  | mappingItem blanks block _ => '-' :: ' ' :: (spaces blanks ++ block.first)

/-- The rows below the first line. -/
def rest {shape : Shape} {any : Bool} (indent : Nat) : Members shape any → List Row
  | nil _ => []
  | @scalarPair any _ _ _ _ more => rowsOf any indent more.head more.first (more.rest indent)
  | @blockPair shape any _ _ _ deeper block more =>
    rowsOf true (blockIndent indent deeper shape) block.head block.first
      (block.rest (blockIndent indent deeper shape)) ++
      rowsOf any indent more.head more.first (more.rest indent)
  | @scalarItem any _ _ _ more => rowsOf any indent more.head more.first (more.rest indent)
  | @mappingItem any blanks block more =>
    block.rest (itemIndent indent blanks) ++
      rowsOf any indent more.head more.first (more.rest indent)

/-- The rows of members. -/
def rows {shape : Shape} {any : Bool} (indent : Nat) (m : Members shape any) : List Row :=
  rowsOf any indent m.head m.first (m.rest indent)

end Members

/-- A document: a collection at an indentation. -/
structure Document where
  indent : Nat
  shape : Shape
  block : Members shape true

/-- The text of a document. -/
def Document.text (d : Document) : List Char := rowsText (d.block.rows d.indent)

/-- The text of documents, each after an indicator; the first one may have none. -/
def streamText (isExplicit : Bool) (first : Document) (more : List Document) : List Char :=
  (if isExplicit then "---\n".toList else []) ++ first.text ++
    more.flatMap fun d => "---\n".toList ++ d.text

/-! ### Characters -/

/-- A character of a key or scalar. -/
def isTextChar (c : Char) : Bool := isWordChar c || c == '/'

theorem isBlank_of_isTextChar {c : Char} (h : isTextChar c = true) : Text.isBlank c = false := by
  simp only [isTextChar, isWordChar, Bool.or_eq_true, beq_iff_eq] at h
  rcases h with (((h | rfl) | rfl) | rfl) | rfl
  · delta Char.isAlphanum Char.isAlpha Char.isUpper Char.isLower Char.isDigit at h
    simp only [Bool.or_eq_true, Bool.and_eq_true, decide_eq_true_eq, UInt32.le_iff_toNat_le,
      ge_iff_le] at h
    have hupper : 'A'.val.toNat = 65 ∧ 'Z'.val.toNat = 90 := ⟨rfl, rfl⟩
    have hlower : 'a'.val.toNat = 97 ∧ 'z'.val.toNat = 122 := ⟨rfl, rfl⟩
    have hdigit : '0'.val.toNat = 48 ∧ '9'.val.toNat = 57 := ⟨rfl, rfl⟩
    have hspace : c ≠ ' ' := by
      rintro rfl
      revert h
      decide
    have hval : c.toNat = c.val.toNat := rfl
    simp only [Text.isBlank, Bool.or_eq_false_iff, Bool.and_eq_false_iff, decide_eq_false_iff_not,
      beq_eq_false_iff_ne]
    refine ⟨⟨⟨⟨⟨⟨⟨⟨⟨⟨?_, hspace⟩, ?_⟩, ?_⟩, ?_⟩, ?_⟩, ?_⟩, ?_⟩, ?_⟩, ?_⟩, ?_⟩ <;> omega
  all_goals decide

theorem isTextChar_of_isAlphanum {c : Char} (h : c.isAlphanum = true) : isTextChar c = true := by
  simp [isTextChar, isWordChar, h]

/-- No character satisfies a test that another one fails. -/
theorem ne_of_test {p : Char → Bool} {c d : Char} (hc : p c = true) (hd : p d = false) :
    c ≠ d := by
  rintro rfl
  rw [hc] at hd
  cases hd

/-- A word starts with a letter or digit and has no character that is special in a line. -/
theorem exists_of_isWord {w : List Char} (h : isWord w = true) :
    ∃ c cs, w = c :: cs ∧ c.isAlphanum = true ∧ ∀ d ∈ w, isTextChar d = true := by
  cases w with
  | nil => cases h
  | cons c cs =>
    obtain ⟨hc, hcs⟩ := by simpa [isWord] using h
    refine ⟨c, cs, rfl, hc, ?_⟩
    intro d hd
    rcases List.mem_cons.1 hd with rfl | hd
    · exact isTextChar_of_isAlphanum hc
    · simpa [isTextChar] using hcs d hd

theorem isWord_of_isKey {k : List Char} (h : isKey k = true) : isWord k = true := by
  cases k with
  | nil => cases h
  | cons c cs =>
    obtain ⟨hc, hcs⟩ := by simpa [isKey] using h
    simp only [isWord, Char.isAlphanum, hc, Bool.true_or, Bool.true_and, List.all_eq_true]
    intro d hd
    simp [hcs d hd]

theorem isBlank_of_mem_word {w : List Char} (h : isWord w = true) :
    ∀ c ∈ w, Text.isBlank c = false := by
  obtain ⟨-, -, -, -, hall⟩ := exists_of_isWord h
  exact fun c hc => isBlank_of_isTextChar (hall c hc)

theorem notMem_word {w : List Char} (h : isWord w = true) {d : Char} (hd : isTextChar d = false) :
    d ∉ w := by
  obtain ⟨-, -, -, -, hall⟩ := exists_of_isWord h
  exact fun hmem => ne_of_test (hall d hmem) hd rfl

theorem Comment.exists_eq_cons (c : Comment) : ∃ cs, c.text = '#' :: cs := by
  have hstart := c.starts
  cases hc : c.text with
  | nil => simp [hc] at hstart
  | cons d cs => exact ⟨cs, by simpa [hc] using hstart⟩

theorem Comment.ne_nil (c : Comment) : c.text ≠ [] := by
  obtain ⟨cs, hcs⟩ := c.exists_eq_cons
  simp [hcs]

/-! ### Trimming -/

theorem trim_eq {cs : List Char} (hhead : ∀ c ∈ cs.head?, Text.isBlank c = false)
    (hlast : ∀ c ∈ cs.getLast?, Text.isBlank c = false) : Text.trim cs = cs := by
  rw [Text.trim, Text.trimStart_eq hhead, Text.trimEnd_eq hlast]

theorem trimStart_spaces {n : Nat} {cs : List Char} (h : ∀ c ∈ cs.head?, Text.isBlank c = false) :
    Text.trimStart (spaces n ++ cs) = cs := by
  have hblank : ∀ c ∈ spaces n, Text.isBlank c = true := by
    intro c hc
    rw [List.eq_of_mem_replicate hc]
    rfl
  rw [Text.trimStart, List.dropWhile_append_of_pos hblank]
  exact Text.trimStart_eq h

theorem trimEnd_append_blank {cs : List Char} (h : ∀ c ∈ cs.getLast?, Text.isBlank c = false) :
    Text.trimEnd (cs ++ [' ']) = cs := by
  have hblank : Text.isBlank ' ' = true := rfl
  rw [Text.trimEnd, Text.dropWhileEnd, List.reverse_append]
  simp only [List.reverse_singleton, List.singleton_append, List.dropWhile_cons, hblank, if_true]
  exact Text.trimEnd_eq h

theorem isBlank_getLast?_append (lead : List Char) {cs : List Char} (hne : cs ≠ [])
    (h : ∀ c ∈ cs.getLast?, Text.isBlank c = false) :
    ∀ c ∈ (lead ++ cs).getLast?, Text.isBlank c = false := by
  rwa [List.getLast?_append_of_ne_nil _ hne]

/-- A trailing comment leaves no blank at the end of a line. -/
theorem isBlank_getLast?_trailText {w : List Char}
    (hw : ∀ c ∈ w.getLast?, Text.isBlank c = false) (trail : Option Comment) :
    ∀ c ∈ (w ++ trailText trail).getLast?, Text.isBlank c = false := by
  cases trail with
  | none => simpa [trailText] using hw
  | some comment =>
    refine isBlank_getLast?_append w (by simp [trailText]) ?_
    exact isBlank_getLast?_append [' '] comment.ne_nil comment.isTrimmed

theorem isBlank_getLast?_word {w : List Char} (hw : isWord w = true) :
    ∀ c ∈ w.getLast?, Text.isBlank c = false :=
  fun c hc => isBlank_of_mem_word hw c (List.mem_of_getLast? hc)

/-! ### Texts that start with a letter or digit -/

section

variable {c : Char} (hc : c.isAlphanum = true) (cs : List Char)

include hc

theorem isBlank_of_isAlphanum : Text.isBlank c = false :=
  isBlank_of_isTextChar (isTextChar_of_isAlphanum hc)

theorem isItem_cons : isItem (c :: cs) = false := by
  have hdash : c ≠ '-' := ne_of_test hc (by decide)
  unfold isItem
  split <;> simp_all

theorem startsQuoted_cons : startsQuoted (c :: cs) = false := by
  have hdouble : c ≠ '"' := ne_of_test hc (by decide)
  have hsingle : c ≠ '\'' := ne_of_test hc (by decide)
  simp [startsQuoted, hdouble, hsingle]

theorem splitQuoted?_cons : splitQuoted? (c :: cs) = none := by
  have hdouble : c ≠ '"' := ne_of_test hc (by decide)
  have hsingle : c ≠ '\'' := ne_of_test hc (by decide)
  simp [splitQuoted?, hdouble, hsingle]

theorem splitTag_cons : splitTag (c :: cs) = ([], c :: cs) := by
  have hbang : c ≠ '!' := ne_of_test hc (by decide)
  simp [splitTag, hbang, isBlank_of_isAlphanum hc]

theorem takeProperties_cons : takeProperties 2 {} (c :: cs) = ({}, c :: cs) := by
  have hand : c ≠ '&' := ne_of_test hc (by decide)
  have hbang : c ≠ '!' := ne_of_test hc (by decide)
  simp [takeProperties, hand, hbang]

theorem styleOf_cons : styleOf (c :: cs) = .plain := by
  unfold styleOf
  split
  all_goals first
    | rfl
    | (rename_i heq; obtain ⟨rfl, -⟩ := List.cons.inj heq; revert hc; decide)

theorem isKeyBarrier_eq_false : isKeyBarrier c = false := by
  unfold isKeyBarrier
  rw [Bool.eq_false_iff]
  intro hmem
  have hall : ("[\x7b|>#!&*?%@`".toList.all fun d => !d.isAlphanum) = true := by decide
  have hbarrier := List.all_eq_true.1 hall c (by simpa using hmem)
  rw [hc] at hbarrier
  cases hbarrier

theorem lineKind_cons (indent : Nat) : lineKind indent (c :: cs) = .content := by
  have hhash : c ≠ '#' := ne_of_test hc (by decide)
  have hdash : c ≠ '-' := ne_of_test hc (by decide)
  have hdot : c ≠ '.' := ne_of_test hc (by decide)
  unfold lineKind
  split
  · simp_all
  · simp_all
  · simp [hdash, hdot, Ne.symm hdash]

theorem exists_trim_cons : ∃ ds, Text.trim (c :: cs) = c :: ds := by
  have hblank := isBlank_of_isAlphanum hc
  obtain ⟨ds, hds⟩ := Text.prefix_trimEnd [] cs hblank
  refine ⟨ds, ?_⟩
  rw [Text.trim, Text.trimStart_eq (by simpa using hblank)]
  exact hds.symm

/-- Some of the text is the value, whatever comment is behind it. -/
theorem splitValue_text_ne_nil : (splitValue (c :: cs)).text ≠ [] := by
  obtain ⟨ds, hds⟩ := exists_trim_cons hc cs
  obtain ⟨es, hes⟩ := exists_trim_cons hc ds
  have hhash : c ≠ '#' := ne_of_test hc (by decide)
  have hvalue : ∃ v, (splitHash none (c :: es)).1 = c :: v := by simp [splitHash, hhash]
  obtain ⟨v, hv⟩ := hvalue
  obtain ⟨ws, hws⟩ := Text.prefix_trimEnd [] v (isBlank_of_isAlphanum hc)
  unfold splitValue
  simp only [hds, takeProperties_cons hc, startsQuoted_cons hc, Bool.false_and, Bool.false_eq_true,
    if_false]
  unfold splitComment
  simp only [hes, splitTag_cons hc, splitQuoted?_cons hc, Option.getD_none, List.append_nil,
    List.nil_append, List.getLast?_nil, hv]
  split
  · simp
  · intro hnil
    change Text.trimEnd ([] ++ c :: v) = [] at hnil
    rw [hnil] at hws
    cases hws

end

/-! ### Where lines are split -/

theorem splitHash_append {w cs : List Char} (hw : '#' ∉ w) (before : Option Char) :
    splitHash before (w ++ cs) = (w ++ (splitHash (w.getLast?.or before) cs).1,
      (splitHash (w.getLast?.or before) cs).2) := by
  induction w generalizing before with
  | nil => simp
  | cons c w ih =>
    have hc : c ≠ '#' := fun e => hw (by simp [e])
    have ih := ih (fun h => hw (by simp [h])) (some c)
    have hlast : (c :: w).getLast?.or before = w.getLast?.or (some c) := by
      cases w with
      | nil => rfl
      | cons d w => simp [List.getLast?_cons]
    rw [hlast]
    simp [splitHash, hc, ih]

theorem splitHash_trailText {w : List Char} (hw : '#' ∉ w) (trail : Option Comment) :
    splitHash none (w ++ trailText trail) =
      (w ++ if trail.isSome then [' '] else [], trailComment trail) := by
  rw [splitHash_append hw]
  cases trail with
  | none => simp [trailText, trailComment, splitHash]
  | some comment =>
    obtain ⟨cs, hcs⟩ := comment.exists_eq_cons
    simp [trailText, trailComment, splitHash, hcs]

/-- A scalar with its trailing comment is a text without blanks on either side. -/
theorem trim_word {w : List Char} (hw : isWord w = true) (trail : Option Comment) :
    Text.trim (w ++ trailText trail) = w ++ trailText trail := by
  obtain ⟨c, cs, hcs, hc, -⟩ := exists_of_isWord hw
  refine trim_eq ?_ (isBlank_getLast?_trailText (isBlank_getLast?_word hw) trail)
  simp [hcs, isBlank_of_isAlphanum hc]

/-- A scalar is split from the comment behind it. -/
theorem splitComment_word {w : List Char} (hw : isWord w = true) (trail : Option Comment) :
    splitComment (w ++ trailText trail) = (w, trailComment trail) := by
  obtain ⟨c, cs, hcs, hc, -⟩ := exists_of_isWord hw
  have hhash : '#' ∉ w := notMem_word hw (by decide)
  have htag : splitTag (w ++ trailText trail) = ([], w ++ trailText trail) := by
    rw [hcs]
    exact splitTag_cons hc _
  have hquoted : splitQuoted? (w ++ trailText trail) = none := by
    rw [hcs]
    exact splitQuoted?_cons hc _
  unfold splitComment
  simp only [trim_word hw, htag, hquoted, Option.getD_none, List.append_nil, List.nil_append,
    List.getLast?_nil, splitHash_trailText hhash trail]
  cases trail with
  | none => simp [trailText, trailComment]
  | some comment =>
    simp [trailComment, comment.ne_nil, trimEnd_append_blank (isBlank_getLast?_word hw),
      Text.trimEnd_eq comment.isTrimmed]

/-- A scalar with a trailing comment. -/
theorem splitValue_word {w : List Char} (hw : isWord w = true) (trail : Option Comment) :
    splitValue (w ++ trailText trail) = { text := w, comment := trailComment trail } := by
  obtain ⟨c, cs, hcs, hc, -⟩ := exists_of_isWord hw
  have hproperties : takeProperties 2 {} (w ++ trailText trail) = ({}, w ++ trailText trail) := by
    rw [hcs]
    exact takeProperties_cons hc _
  have hquoted : startsQuoted (w ++ trailText trail) = false := by
    rw [hcs]
    exact startsQuoted_cons hc _
  unfold splitValue
  simp only [trim_word hw, hproperties, hquoted, Bool.false_and, Bool.false_eq_true, if_false,
    splitComment_word hw trail]

theorem splitValue_blank (cs : List Char) : splitValue (' ' :: cs) = splitValue cs := by
  have htrim : Text.trim (' ' :: cs) = Text.trim cs := by
    have hblank : Text.isBlank ' ' = true := rfl
    simp [Text.trim, Text.trimStart, hblank]
  simp only [splitValue, htrim]

/-- A trailing comment alone. -/
theorem splitValue_trailText (trail : Option Comment) :
    splitValue (trailText trail) = { comment := trailComment trail } := by
  cases trail with
  | none => rfl
  | some comment =>
    obtain ⟨cs, hcs⟩ := comment.exists_eq_cons
    have hhash : Text.isBlank '#' = false := rfl
    have htrim : Text.trim comment.text = comment.text :=
      trim_eq (by simp [hcs, hhash]) comment.isTrimmed
    have htag : splitTag comment.text = ([], comment.text) := by simp [splitTag, hcs, hhash]
    have hquoted : splitQuoted? comment.text = none := by simp [splitQuoted?, hcs]
    have hsplit : splitHash none comment.text = ([], comment.text) := by simp [splitHash, hcs]
    have hcomment : splitComment comment.text = ([], comment.text) := by
      unfold splitComment
      simp only [htrim, htag, hquoted, Option.getD_none, List.append_nil, List.getLast?_nil, hsplit,
        Text.trimEnd_eq comment.isTrimmed]
      simp [comment.ne_nil, Text.trimEnd, Text.dropWhileEnd]
    have hproperties : takeProperties 2 {} comment.text = ({}, comment.text) := by
      simp [takeProperties, hcs]
    have hstart : startsQuoted comment.text = false := by simp [startsQuoted, hcs]
    rw [trailText, splitValue_blank]
    unfold splitValue
    simp only [htrim, hproperties, hstart, Bool.false_and, Bool.false_eq_true, if_false, hcomment,
      trailComment]

theorem splitColon_append {k : List Char} (hk : ':' ∉ k) (cs : List Char) :
    splitColon (k ++ cs) = (splitColon cs).map fun p => (k ++ p.1, p.2) := by
  induction k with
  | nil => simp
  | cons c k ih =>
    have hc : c ≠ ':' := fun e => hk (by simp [e])
    have ih := ih fun h => hk (by simp [h])
    simp [splitColon, hc, ih, Function.comp_def]

theorem occursIn_eq_false {needle cs : List Char} {c : Char} (hc : c ∈ needle) (h : c ∉ cs) :
    Text.occursIn needle cs = false := by
  induction cs with
  | nil =>
    have hne : needle ≠ [] := List.ne_nil_of_mem hc
    simpa [Text.occursIn] using hne
  | cons d cs ih =>
    have ih := ih fun hmem => h (by simp [hmem])
    have hprefix : needle.isPrefixOf (d :: cs) = false := by
      rw [Bool.eq_false_iff]
      intro hp
      exact h ((List.isPrefixOf_iff_prefix.1 hp).subset hc)
    simp [Text.occursIn, hprefix, ih]

theorem occursIn_append (lead needle cs : List Char) :
    Text.occursIn needle (lead ++ (needle ++ cs)) = true := by
  induction lead with
  | nil =>
    cases needle with
    | nil => cases cs <;> simp [Text.occursIn]
    | cons c needle => simp [Text.occursIn]
  | cons c lead ih => rw [List.cons_append, Text.occursIn, ih, Bool.or_true]

/-- How a line is split that starts with a letter or digit. -/
theorem splitKey?_cons {c : Char} (hc : c.isAlphanum = true) (cs : List Char) :
    splitKey? (c :: cs) = (splitColon (c :: cs)).bind fun p =>
      if (Text.trimEnd p.1).isEmpty || Text.occursIn [' ', '#'] (Text.trimEnd p.1) then none
      else some (Text.trimEnd p.1, p.2) := by
  unfold splitKey?
  simp only [isItem_cons hc, startsQuoted_cons hc, List.head?_cons, Option.any_some,
    isKeyBarrier_eq_false hc, Bool.or_self, Bool.false_eq_true, if_false, List.nil_append,
    List.isEmpty_nil, Bool.true_and]
  cases splitColon (c :: cs) with
  | none => rfl
  | some p => rfl

/-- A key is split from what follows its colon. -/
theorem splitKey?_key {k rest : List Char} (hk : isKey k = true)
    (hrest : ∀ c ∈ rest.head?, c = ' ') : splitKey? (k ++ ':' :: rest) = some (k, rest) := by
  have hword := isWord_of_isKey hk
  obtain ⟨c, cs, hcs, hc, -⟩ := exists_of_isWord hword
  have hcolon : splitColon (k ++ ':' :: rest) = some (k, rest) := by
    rw [splitColon_append (notMem_word hword (by decide))]
    cases rest with
    | nil => simp [splitColon]
    | cons d rest => simp [splitColon, hrest d (by simp)]
  have hspace : Text.occursIn [' ', '#'] k = false :=
    occursIn_eq_false (c := ' ') (by simp) (notMem_word hword (by decide))
  -- neither the end of the key nor ` #` in it stands in the way
  have hsplit := splitKey?_cons hc (cs ++ ':' :: rest)
  rw [← List.cons_append, ← hcs, hcolon] at hsplit
  have hne : k ≠ [] := by simp [hcs]
  rw [hsplit]
  simp [Text.trimEnd_eq (isBlank_getLast?_word hword), hspace, hne]

/-- A scalar has no key: a colon of its trailing comment does not count. -/
theorem splitKey?_word {w : List Char} (hw : isWord w = true) (trail : Option Comment) :
    splitKey? (w ++ trailText trail) = none := by
  obtain ⟨c, cs, hcs, hc, -⟩ := exists_of_isWord hw
  have hcolon := splitColon_append (notMem_word hw (d := ':') (by decide)) (trailText trail)
  have hsplit := splitKey?_cons hc (cs ++ trailText trail)
  rw [← List.cons_append, ← hcs, hcolon] at hsplit
  rw [hsplit]
  cases trail with
  | none => simp [trailText, splitColon]
  | some comment =>
    obtain ⟨ds, hds⟩ := comment.exists_eq_cons
    have hlead : splitColon (trailText (some comment)) =
        (splitColon ds).map fun p => (' ' :: '#' :: p.1, p.2) := by
      simpa [trailText, hds] using splitColon_append (k := [' ', '#']) (by decide) ds
    rw [hlead]
    cases splitColon ds with
    | none => rfl
    | some p =>
      -- the text before the colon has the ` #` of the comment
      obtain ⟨es, hes⟩ := Text.prefix_trimEnd (w ++ [' ']) p.1 (c := '#') rfl
      have htrim : Text.trimEnd (w ++ ' ' :: '#' :: p.1) = w ++ ([' ', '#'] ++ es) := by
        simpa using hes.symm
      have hoccurs := occursIn_append w [' ', '#'] es
      simp only [Option.map_some, Option.bind_some, htrim, hoccurs, Bool.or_true, if_true]

/-! ### Rows as lines -/

/-- A text that a row may have: a comment, a key or an item. -/
structure IsRowText (text : List Char) : Prop where
  starts : text.head? = some '#' ∨ (∃ c ∈ text.head?, c.isAlphanum = true) ∨ ['-', ' '] <+: text
  isLine : '\n' ∉ text
  isTrimmed : ∀ c ∈ text.getLast?, Text.isBlank c = false

/-- What a row holds. -/
def Row.kind (r : Row) : LineKind := if r.text.head? = some '#' then .comment else .content

/-- A line stands for a row: only its number and its raw text are open. -/
structure Shows (line : Line) (row : Row) : Prop where
  indent : line.indent = row.indent
  text : line.text = row.text
  kind : line.kind = row.kind

theorem IsRowText.exists_eq_cons {text : List Char} (h : IsRowText text) :
    ∃ c cs, text = c :: cs ∧ Text.isBlank c = false := by
  rcases h.starts with hhash | ⟨c, hhead, hc⟩ | ⟨cs, hcs⟩
  · cases text with
    | nil => cases hhash
    | cons c cs =>
      obtain rfl : c = '#' := by simpa using hhash
      exact ⟨'#', cs, rfl, rfl⟩
  · cases text with
    | nil => cases hhead
    | cons d cs =>
      obtain rfl : d = c := by simpa using hhead
      exact ⟨d, cs, rfl, isBlank_of_isAlphanum hc⟩
  · exact ⟨'-', ' ' :: cs, hcs.symm, rfl⟩

theorem lineKind_eq {text : List Char} (h : IsRowText text) (indent : Nat) :
    lineKind indent text = (Row.mk indent text).kind := by
  unfold Row.kind
  -- no row is an indicator: they start with three dashes or three points
  rcases h.starts with hhash | ⟨c, hhead, hc⟩ | ⟨cs, rfl⟩
  · rw [if_pos hhash]
    cases text with
    | nil => cases hhash
    | cons c cs =>
      obtain rfl : c = '#' := by simpa using hhash
      rfl
  · cases text with
    | nil => cases hhead
    | cons d cs =>
      obtain rfl : d = c := by simpa using hhead
      have hhash : d ≠ '#' := ne_of_test hc (by decide)
      rw [lineKind_cons hc, if_neg (by simpa using hhash)]
  · simp [lineKind]

theorem dropCarriageReturn_eq {cs : List Char} (h : ∀ c ∈ cs.getLast?, Text.isBlank c = false) :
    dropCarriageReturn cs = cs := by
  unfold dropCarriageReturn
  split
  · next rest hrest =>
    have hlast : '\r' ∈ cs.getLast? := by
      rw [← List.head?_reverse, hrest]
      rfl
    cases h '\r' hlast
  · rfl

/-- A row is read as it stands. -/
theorem shows_of (number : Nat) {row : Row} (h : IsRowText row.text) :
    Shows (.of number row.chars) row := by
  obtain ⟨c, cs, hcs, hc⟩ := h.exists_eq_cons
  have hspace : c ≠ ' ' := by
    rintro rfl
    cases hc
  have hlast : row.chars.getLast? = row.text.getLast? := by
    rw [Row.chars, List.getLast?_append_of_ne_nil _ (by simp [hcs])]
  have hraw : dropCarriageReturn row.chars = row.chars :=
    dropCarriageReturn_eq (by simpa [hlast] using h.isTrimmed)
  have hindented : row.chars.dropWhile (· == ' ') = row.text := by
    have hblank : ∀ d ∈ spaces row.indent, (d == ' ') = true := by
      intro d hd
      simpa using List.eq_of_mem_replicate hd
    rw [Row.chars, List.dropWhile_append_of_pos hblank, hcs, List.dropWhile_cons,
      if_neg (by simpa using hspace)]
  have hindent : row.chars.length - row.text.length = row.indent := by simp [Row.chars, spaces]
  have htext : Text.trimEnd row.text = row.text := Text.trimEnd_eq h.isTrimmed
  constructor
  · simp only [Line.of, hraw, hindented, hindent]
  · simp only [Line.of, hraw, hindented, htext]
  · simp only [Line.of, hraw, hindented, hindent, htext]
    exact lineKind_eq h row.indent

/-- The lines of a text that starts with rows. -/
theorem lines_rowsText {rows : List Row} (h : ∀ r ∈ rows, '\n' ∉ r.text) (rest : List Char) :
    Text.lines (rowsText rows ++ rest) = rows.map Row.chars ++ Text.lines rest := by
  induction rows with
  | nil => rfl
  | cons row rows ih =>
    have hline : '\n' ∉ row.chars := by
      have htext := h row (by simp)
      simp [Row.chars, spaces, htext]
    have ih := ih fun r hr => h r (by simp [hr])
    unfold Text.lines rowsText at ih ⊢
    simp only [List.flatMap_cons, List.append_assoc, List.cons_append, List.nil_append,
      List.map_cons, Text.splitOn_append hline, ih]

/-! ### The rows of a layout -/

theorem isRowText_comment (c : Comment) : IsRowText c.text :=
  ⟨.inl c.starts, c.isLine, c.isTrimmed⟩

theorem notMem_trailText (trail : Option Comment) : '\n' ∉ trailText trail := by
  cases trail with
  | none => simp [trailText]
  | some comment => simp [trailText, comment.isLine]

/-- A scalar with its trailing comment. -/
theorem isRowText_word {w : List Char} (hw : isWord w = true) (trail : Option Comment) :
    IsRowText (w ++ trailText trail) := by
  obtain ⟨c, cs, hcs, hc, -⟩ := exists_of_isWord hw
  have hline : '\n' ∉ w := notMem_word hw (by decide)
  refine ⟨.inr (.inl ⟨c, by simp [hcs], hc⟩), ?_, ?_⟩
  · simp [hline, notMem_trailText]
  · exact isBlank_getLast?_trailText (isBlank_getLast?_word hw) trail

/-- Only the start of a text is still to be checked if the end is the text of a row. -/
theorem IsRowText.behind {cs : List Char} (h : IsRowText cs) (lead : List Char)
    (hstarts : (lead ++ cs).head? = some '#' ∨
      (∃ c ∈ (lead ++ cs).head?, c.isAlphanum = true) ∨ ['-', ' '] <+: lead ++ cs)
    (hlead : '\n' ∉ lead) : IsRowText (lead ++ cs) := by
  obtain ⟨c, ds, hds, -⟩ := h.exists_eq_cons
  refine ⟨hstarts, ?_, isBlank_getLast?_append lead (by simp [hds]) h.isTrimmed⟩
  simp [hlead, h.isLine]

theorem isRowText_rowsOf {any : Bool} {indent : Nat} {head : List Comment} {first : List Char}
    {rest : List Row} (hfirst : any = true → IsRowText first)
    (hrest : ∀ r ∈ rest, IsRowText r.text) :
    ∀ r ∈ rowsOf any indent head first rest, IsRowText r.text := by
  intro r hr
  cases any with
  | false => cases hr
  | true =>
    rcases List.mem_append.1 hr with hr | hr
    · obtain ⟨c, -, rfl⟩ := List.mem_map.1 hr
      exact isRowText_comment c
    · rcases List.mem_cons.1 hr with rfl | hr
      · exact hfirst rfl
      · exact hrest r hr

namespace Members

theorem exists_first_mapping (m : Members .mapping true) :
    ∃ c cs, m.first = c :: cs ∧ c.isAlphanum = true := by
  cases m with
  | scalarPair head key word trail more =>
    obtain ⟨c, cs, hcs, hc, -⟩ := exists_of_isWord (isWord_of_isKey key.isKey)
    exact ⟨c, _, by rw [first, hcs]; rfl, hc⟩
  | blockPair head key trail deeper block more =>
    obtain ⟨c, cs, hcs, hc, -⟩ := exists_of_isWord (isWord_of_isKey key.isKey)
    exact ⟨c, _, by rw [first, hcs]; rfl, hc⟩

theorem exists_first_sequence (m : Members .sequence true) : ∃ cs, m.first = '-' :: ' ' :: cs := by
  cases m with
  | scalarItem head word trail more => exact ⟨_, rfl⟩
  | mappingItem blanks block more => exact ⟨_, rfl⟩

theorem isSome_splitKey?_first (m : Members .mapping true) :
    (splitKey? m.first).isSome = true := by
  cases m with
  | scalarPair head key word trail more =>
    rw [first, splitKey?_key key.isKey (by simp)]
    rfl
  | blockPair head key trail deeper block more =>
    rw [first, splitKey?_key key.isKey (by cases trail <;> simp [trailText])]
    rfl

/-- Items and only items have a dash. -/
theorem isItem_first {shape : Shape} (m : Members shape true) :
    isItem m.first = decide (shape = .sequence) := by
  cases shape with
  | mapping =>
    obtain ⟨c, cs, hcs, hc⟩ := m.exists_first_mapping
    rw [hcs]
    exact isItem_cons hc cs
  | sequence =>
    obtain ⟨cs, hcs⟩ := m.exists_first_sequence
    rw [hcs]
    rfl

theorem isRowText_first {shape : Shape} {any : Bool} (m : Members shape any) (hany : any = true) :
    IsRowText m.first := by
  induction m with
  | nil shape => cases hany
  | scalarPair head key word trail more =>
    have hkey := isWord_of_isKey key.isKey
    obtain ⟨c, cs, hcs, hc, -⟩ := exists_of_isWord hkey
    have hline : '\n' ∉ key.text := notMem_word hkey (by decide)
    have hrow := (isRowText_word word.isWord trail).behind (key.text ++ [':', ' '])
      (.inr (.inl ⟨c, by simp [hcs], hc⟩)) (by simp [hline])
    simpa [first] using hrow
  | blockPair head key trail deeper block more =>
    have hkey := isWord_of_isKey key.isKey
    obtain ⟨c, cs, hcs, hc, -⟩ := exists_of_isWord hkey
    have hline : '\n' ∉ key.text := notMem_word hkey (by decide)
    have hcolon : ∀ c ∈ (key.text ++ [':']).getLast?, Text.isBlank c = false := by
      simp [show Text.isBlank ':' = false from rfl]
    refine ⟨.inr (.inl ⟨c, by simp [first, hcs], hc⟩), ?_, ?_⟩
    · simp [first, hline, notMem_trailText]
    · simpa [first] using isBlank_getLast?_trailText hcolon trail
  | scalarItem head word trail more =>
    exact (isRowText_word word.isWord trail).behind ['-', ' '] (.inr (.inr ⟨_, rfl⟩))
      (by decide)
  | mappingItem blanks block more ih =>
    exact (ih rfl).behind ('-' :: ' ' :: spaces blanks) (.inr (.inr ⟨_, rfl⟩))
      (by simp [spaces])

theorem isRowText_rest {shape : Shape} {any : Bool} (m : Members shape any) (indent : Nat) :
    ∀ r ∈ m.rest indent, IsRowText r.text := by
  induction m generalizing indent with
  | nil shape => simp [rest]
  | scalarPair head key word trail more ih => exact isRowText_rowsOf more.isRowText_first (ih _)
  | scalarItem head word trail more ih => exact isRowText_rowsOf more.isRowText_first (ih _)
  | blockPair head key trail deeper block more ihblock ihmore =>
    intro r hr
    rcases List.mem_append.1 hr with hr | hr
    · exact isRowText_rowsOf block.isRowText_first (ihblock _) r hr
    · exact isRowText_rowsOf more.isRowText_first (ihmore _) r hr
  | mappingItem blanks block more ihblock ihmore =>
    intro r hr
    rcases List.mem_append.1 hr with hr | hr
    · exact ihblock _ r hr
    · exact isRowText_rowsOf more.isRowText_first (ihmore _) r hr

/-- The rows of a layout are read as they stand. -/
theorem isRowText_rows {shape : Shape} {any : Bool} (m : Members shape any) (indent : Nat) :
    ∀ r ∈ m.rows indent, IsRowText r.text :=
  isRowText_rowsOf m.isRowText_first (m.isRowText_rest indent)

end Members

end ManifestMarkers.Manifest.Canonical
