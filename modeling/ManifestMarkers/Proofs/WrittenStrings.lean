import Mathlib
import ManifestMarkers.Json
import ManifestMarkers.Manifest.Node
import ManifestMarkers.Proofs.LineScalars

/-!
# Strings that are written as scalars

A new value is written as a scalar on one line that the scanner reads as the value again, except for
blanks at its end that are trimmed, and for line and paragraph separators.

* `hexValueFrom?_upperHex`, `quotedUnit_escapeQuoted` and `quotedUnit_escapeChar` are about one
  character between double quotes.
* `isPlainLine_of_traits`: what the traits of a string rule out makes it a plain scalar.
* `IsSpared` says which values are kept, and `exists_lineScalar_quote` that they are.
-/

namespace ManifestMarkers.Yaml

/-! ### Hexadecimal digits -/

attribute [local simp] Lexeme.hexValueFrom?

theorem hexValueFrom?_append (value : Nat) (a b : List Char) :
    Lexeme.hexValueFrom? value (a ++ b) =
      (Lexeme.hexValueFrom? value a).bind (Lexeme.hexValueFrom? · b) := by
  induction a generalizing value with
  | nil => rfl
  | cons c a ih =>
    rw [List.cons_append, Lexeme.hexValueFrom?, Lexeme.hexValueFrom?]
    cases Text.hexDigit? c with
    | none => rfl
    | some d => exact ih _

/-- An upper-case digit has its value, and may stand on a line. -/
theorem hexDigit?_digitChar {d : Nat} (h : d < 16) :
    Text.hexDigit? d.digitChar.toUpper = some d ∧ isLineChar d.digitChar.toUpper = true := by
  have hall : ∀ d : Fin 16, Text.hexDigit? d.val.digitChar.toUpper = some d.val ∧
      isLineChar d.val.digitChar.toUpper = true := by decide
  exact hall ⟨d, h⟩

theorem hexValueFrom?_toDigits (n : Nat) :
    Lexeme.hexValueFrom? 0 ((Nat.toDigits 16 n).map Char.toUpper) = some n ∧
      ∀ c ∈ (Nat.toDigits 16 n).map Char.toUpper, isLineChar c = true := by
  induction n using Nat.strongRecOn with
  | _ n ih =>
  obtain ⟨hvalue, hline⟩ := hexDigit?_digitChar (Nat.mod_lt n (show 0 < 16 by decide))
  by_cases h : n < 16
  · rw [Nat.mod_eq_of_lt h] at hvalue hline
    rw [Nat.toDigits_of_lt_base h, List.map_singleton]
    exact ⟨by simp [hvalue], by simpa using hline⟩
  · obtain ⟨hlead, hleadLine⟩ := ih (n / 16) (by omega)
    rw [Nat.toDigits_of_base_le (by decide) (by omega), List.map_append, List.map_singleton]
    refine ⟨?_, fun c hc => ?_⟩
    · rw [hexValueFrom?_append, hlead]
      simp only [Option.bind_some, Lexeme.hexValueFrom?, hvalue]
      rw [Nat.div_add_mod]
    · rcases List.mem_append.1 hc with hc | hc
      · exact hleadLine c hc
      · obtain rfl := List.mem_singleton.1 hc
        exact hline

theorem hexValueFrom?_upperHex (width n : Nat) :
    Lexeme.hexValueFrom? 0 (upperHex width n) = some n ∧ (upperHex width n).all isLineChar := by
  obtain ⟨hvalue, hline⟩ := hexValueFrom?_toDigits n
  have hzeros (k : Nat) : Lexeme.hexValueFrom? 0 (List.replicate k '0') = some 0 := by
    induction k with
    | zero => rfl
    | succ k ih => exact ih
  unfold upperHex
  refine ⟨by rw [hexValueFrom?_append, hzeros, Option.bind_some, hvalue], ?_⟩
  rw [List.all_append, Bool.and_eq_true, List.all_replicate, List.all_eq_true]
  exact ⟨by split <;> rfl, hline⟩

theorem length_upperHex {width n : Nat} (hwidth : 0 < width) (h : n < 16 ^ width) :
    (upperHex width n).length = width := by
  have hle := (Nat.length_toDigits_le_iff (b := 16) (by decide) hwidth).2 h
  simp only [upperHex, List.length_append, List.length_replicate, List.length_map]
  omega

/-! ### Characters between quotes -/

/-- Characters that are written as themselves stand on a line, unless they are breaks. -/
theorem isLineChar_of_isWritable {c : Char} (h : isWritable c = true) (hbreak : isBreak c = false) :
    isLineChar c = true := by
  have hvalid := c.valid
  have hvalue : c.val.toNat = c.toNat := rfl
  simp only [UInt32.isValidChar, Nat.isValidChar, hvalue] at hvalid
  have hnewline : c.toNat ≠ 0x0a := by
    intro hcode
    rw [show c = '\n' from Char.toNat_inj.1 hcode] at hbreak
    exact absurd hbreak (by decide)
  have htab : c ≠ '\t' := by
    rintro rfl
    exact absurd h (by decide)
  simp only [isWritable, Bool.or_eq_true, beq_iff_eq, Bool.and_eq_true, decide_eq_true_eq,
    bne_iff_ne] at h
  simp only [isLineChar, hbreak, isAllowed, Bool.or_eq_true, beq_iff_eq, Bool.and_eq_true,
    decide_eq_true_eq, bne_iff_ne, Bool.not_false, and_true]
  refine ⟨⟨?_, htab⟩, ?_⟩ <;> omega

/-- An escape with the code point of a character. -/
theorem quotedUnit_code {letter : Char} {width n : Nat} (hwidth : 0 < width)
    (hletter : codeDigits? letter = some width) (hlt : n < 16 ^ width) (hvalid : n.isValidChar) :
    QuotedUnit false ('\\' :: letter :: upperHex width n) (Char.ofNat n) := by
  obtain ⟨hvalue, hline⟩ := hexValueFrom?_upperHex width n
  exact .code hline (by rw [hletter, length_upperHex hwidth hlt]) hvalue
    (by rw [Lexeme.charOfCode?, if_pos hvalid])

theorem quotedUnit_escapeQuoted (c : Char) : QuotedUnit false (escapeQuoted c) c := by
  unfold escapeQuoted
  split
  · next hself =>
    simp only [Bool.and_eq_true, Bool.not_eq_true', bne_iff_ne] at hself
    obtain ⟨⟨⟨hwritable, hbreak⟩, hquote⟩, hslash⟩ := hself
    exact .plain (isLineChar_of_isWritable hwritable hbreak) hquote (.inr hslash)
  · -- the character is the one with its code point, and that one decides
    have hc : c = Char.ofNat c.toNat := (Char.ofNat_toNat c).symm
    have hvalid : c.toNat.isValidChar := c.valid
    have hsize : c.toNat < 16 ^ 8 := c.val.toNat_lt
    conv => rhs; rw [hc]
    dsimp only
    generalize c.toNat = n at hvalid hsize
    split
    all_goals try exact .escape rfl rfl rfl
    split
    · exact quotedUnit_code (by decide) rfl (by omega) hvalid
    · split
      · exact quotedUnit_code (by decide) rfl (by omega) hvalid
      · exact quotedUnit_code (by decide) rfl hsize hvalid

/-- A character that is written as itself in YAML, in a JSON string. -/
theorem quotedUnit_escapeChar {c : Char} (hwritable : isWritable c = true)
    (hbreak : isBreak c = true → c = '\n') : QuotedUnit false (Json.escapeChar c) c := by
  unfold Json.escapeChar
  split
  all_goals try exact absurd hwritable (by decide)
  all_goals try exact .escape rfl rfl rfl
  next hquote hslash hnewline _ _ _ _ =>
    have hline : isLineChar c = true := isLineChar_of_isWritable hwritable (by
      rw [Bool.eq_false_iff]
      exact fun h => hnewline (hbreak h))
    have hcode : ¬c.val < 0x20 := by
      intro hlt
      have hlt : c.toNat < 0x20 := hlt
      have hne : c.toNat ≠ 0x0a := fun h => hnewline (Char.toNat_inj.1 h)
      simp only [isWritable, Bool.or_eq_true, beq_iff_eq, Bool.and_eq_true, decide_eq_true_eq,
        bne_iff_ne] at hwritable
      omega
    rw [if_neg hcode]
    exact .plain hline hquote (.inr hslash)

theorem quotedLine_flatMap {single : Bool} {write : Char → List Char} {cs : List Char}
    (h : ∀ c ∈ cs, QuotedUnit single (write c) c) : QuotedLine single (cs.flatMap write) cs := by
  induction cs with
  | nil => exact .nil
  | cons c cs ih =>
    rw [List.flatMap_cons]
    exact .cons (h c List.mem_cons_self) (ih fun d hd => h d (List.mem_cons_of_mem _ hd))

/-- Between single quotes, only quotes are not written as they are. -/
theorem quotedLine_singleQuotedFrom {cs : List Char} (h : ∀ c ∈ cs, isLineChar c = true) :
    QuotedLine true (singleQuotedFrom false cs) cs := by
  induction cs with
  | nil => exact .nil
  | cons c cs ih =>
    obtain ⟨hc, hmore⟩ := List.forall_mem_cons.1 h
    rw [singleQuotedFrom, if_neg (by simp [isBreak_of_isLineChar hc])]
    split
    · next hspace =>
      rw [beq_iff_eq] at hspace
      have hunit : QuotedUnit true [c] c := .plain hc (by rw [hspace]; decide) (.inl rfl)
      exact .cons hunit (ih hmore)
    · rw [if_neg Bool.false_ne_true, List.nil_append]
      split
      · next hquote =>
        rw [beq_iff_eq] at hquote
        rw [hquote]
        exact .cons .doubled (ih hmore)
      · next hquote =>
        have hne : c ≠ closingQuote true := by simpa [closingQuote] using hquote
        have hunit : QuotedUnit true [c] c := .plain hc hne (.inl rfl)
        exact .cons hunit (ih hmore)

/-! ### Plain strings -/

/-- Nothing speaks against a plain scalar so far. -/
structure Traits.IsClear (t : Traits) : Prop where
  indicator : t.indicator = false
  hasBreak : t.hasBreak = false
  special : t.special = false
  edge : t.edge = false

theorem isClear_of_traitsFrom {before : Option Char} (cs : List Char) {t : Traits}
    (h : (traitsFrom before cs t).IsClear) : t.IsClear := by
  induction cs generalizing before t with
  | nil => exact h
  | cons c cs ih =>
    obtain ⟨hindicator, hbreak, hspecial, hedge⟩ := ih h
    simp only [Bool.or_eq_false_iff] at hindicator hbreak hspecial hedge
    exact ⟨hindicator.1, hbreak.1, hspecial.1, hedge.1⟩

theorem isWritable_of_traitsFrom {before : Option Char} {cs : List Char} {t : Traits}
    (h : (traitsFrom before cs t).special = false) :
    t.special = false ∧ ∀ c ∈ cs, isWritable c = true := by
  induction cs generalizing before t with
  | nil => exact ⟨h, by simp⟩
  | cons c cs ih =>
    obtain ⟨hspecial, hmore⟩ := ih h
    simp only [Bool.or_eq_false_iff, Bool.not_eq_false'] at hspecial
    exact ⟨hspecial.1, List.forall_mem_cons.2 ⟨hspecial.2, hmore⟩⟩

theorem isPlainFrom_of_traitsFrom {before : Option Char} {cs : List Char} {t : Traits}
    (h : (traitsFrom before cs t).IsClear) (hend : cs = [] → before.any (· != ' ') = true) :
    isPlainFrom before cs = true := by
  induction cs generalizing before t with
  | nil => exact hend rfl
  | cons c cs ih =>
    obtain ⟨hindicator, hbreak, hspecial, hedge⟩ := isClear_of_traitsFrom cs h
    simp only [Bool.or_eq_false_iff, Bool.not_eq_false'] at hindicator hbreak hspecial hedge
    have hmore : isPlainFrom (some c) cs = true := ih h fun hnil => by
      subst hnil
      have hends : ¬c = ' ' ∧ isBreak c = false := by simpa using hedge.2
      simpa using hends.1
    have hline := isLineChar_of_isWritable hspecial.2 hbreak.2
    refine isPlainFrom_cons.2 ⟨hline, fun hcolon => ?_, fun hhash hspace => ?_, hmore⟩
    · have hafter : isBlankOrEnd cs.head? = false := by
        rw [hcolon] at hindicator
        cases before <;> simpa [isIndicator] using hindicator.2
      cases cs with
      | nil => cases hafter
      | cons d ds =>
        refine ⟨d, ds, rfl, ?_⟩
        rintro rfl
        cases hafter
    · rw [hhash, hspace] at hindicator
      cases hindicator.2

/-- A text without traits that rule it out is a plain scalar. -/
theorem isPlainLine_of_traits {cs : List Char} (h : (traits cs).IsClear) (hne : cs ≠ []) :
    isPlainLine cs = true := by
  obtain ⟨c, cs, rfl⟩ := List.exists_cons_of_ne_nil hne
  rw [isPlainLine, Bool.and_eq_true]
  refine ⟨?_, isPlainFrom_of_traitsFrom h (by simp)⟩
  obtain ⟨hindicator, -, -, hedge⟩ := isClear_of_traitsFrom cs h
  simp only [Bool.or_eq_false_iff] at hindicator hedge
  have hends : ¬c = ' ' ∧ isBreak c = false := by simpa using hedge.2
  have hspace : c ≠ ' ' := hends.1
  obtain ⟨hopens, hmark⟩ := Bool.or_eq_false_iff.1 hindicator.2
  rw [isPlainStart, Bool.or_eq_true, Bool.and_eq_true]
  by_cases hc : c = '-' ∨ c = '?' ∨ c = ':'
  · have hafter : isBlankOrEnd cs.head? = false := by
      rcases hc with rfl | rfl | rfl <;> simpa using hmark
    refine .inr ⟨by simpa using hc, ?_⟩
    cases cs with
    | nil => cases hafter
    | cons d ds =>
      have hd : d ≠ ' ' := by
        rintro rfl
        cases hafter
      simpa using hd
  · refine .inl ?_
    simp only [not_or] at hc
    simpa [hc, hspace, and_comm, and_assoc, and_left_comm] using hopens

/-! ### Values that are kept -/

/-- What a new value is kept with. -/
structure IsSpared (cs : List Char) : Prop where
  /-- No blank is trimmed off a plain scalar. -/
  plain : styleOf cs = .plain → Text.trimEnd cs = cs
  /-- Not all of a block is trimmed off. -/
  literal : styleOf cs = .literal → ∃ c ∈ cs, Text.isBlank c = false
  /-- No line or paragraph separators. -/
  separators : ∀ c ∈ cs, c.toNat ≠ 0x2028 ∧ c.toNat ≠ 0x2029

instance (cs : List Char) : Decidable (IsSpared cs) :=
  decidable_of_iff ((styleOf cs = .plain → Text.trimEnd cs = cs) ∧
      (styleOf cs = .literal → cs.any (!Text.isBlank ·) = true) ∧
      cs.all (fun c => c.toNat != 0x2028 && c.toNat != 0x2029) = true)
    ⟨fun ⟨hplain, hliteral, hseparators⟩ =>
      ⟨hplain, by simpa using hliteral, by simpa using hseparators⟩,
      fun h => ⟨h.plain, by simpa using h.literal, by simpa using h.separators⟩⟩

/-- What the style of a string says about it. -/
inductive Suits (cs : List Char) : Style → Prop
  | plain (hclear : (traits cs).IsClear) (hstring : isAmbiguous cs = false) : Suits cs .plain
  | singleQuoted (hline : '\n' ∉ cs) (hspecial : (traits cs).special = false) :
      Suits cs .singleQuoted
  | doubleQuoted : Suits cs .doubleQuoted
  | literal (hspecial : (traits cs).special = false) : Suits cs .literal

theorem suits_styleOf (cs : List Char) : Suits cs (styleOf cs) := by
  unfold styleOf
  dsimp only
  split
  · split
    · next h =>
      simp only [Bool.not_eq_true', Bool.or_eq_false_iff] at h
      exact .literal h.2
    · exact .doubleQuoted
  · next hline =>
    split
    · next h =>
      simp only [Bool.and_eq_true, Bool.not_eq_true', Bool.or_eq_false_iff] at h
      obtain ⟨⟨⟨⟨⟨⟨hedge, -⟩, -⟩, hspecial⟩, hbreak⟩, hindicator⟩, hstring⟩ := h
      exact .plain ⟨hindicator, hbreak, hspecial, hedge⟩ hstring
    · split
      · next h =>
        simp only [Bool.not_eq_true', Bool.or_eq_false_iff] at h
        exact .singleQuoted (by simpa using hline) h.2
      · exact .doubleQuoted

theorem plainValue?_eq_string {cs : List Char} (h : isAmbiguous cs = false) :
    plainValue? cs = some (.string (String.ofList cs)) := by
  obtain ⟨-, hstring⟩ := Bool.or_eq_false_iff.1 h
  split at hstring
  · next s hs =>
    rw [hs]
    unfold plainValue? at hs
    repeat' split at hs
    all_goals first | cases hs; rfl | cases hs
  · cases hstring

end ManifestMarkers.Yaml

namespace ManifestMarkers.Manifest

open Yaml

/-- A scalar on one line is not trimmed further and needs no other form. -/
theorem Node.quote_eq {cs raw : List Char} {token : Token} (hne : cs ≠ [])
    (hwrite : writeString cs = raw) (hraw : LineScalar raw token) : Node.quote cs = raw := by
  have hline : raw.contains '\n' = false := by
    rw [Bool.eq_false_iff]
    intro hmem
    have hchar := hraw.isLineChar '\n' (by simpa using hmem)
    exact absurd hchar (by decide)
  unfold Node.quote
  rw [if_neg (by simpa using hne)]
  dsimp only
  rw [hwrite, hline]
  rfl

/-- A quoted text ends with its quote. -/
theorem trimEnd_quoted (single : Bool) (inner : List Char) :
    Text.trimEnd (closingQuote single :: (inner ++ [closingQuote single])) =
      closingQuote single :: (inner ++ [closingQuote single]) := by
  refine Text.trimEnd_eq fun c hc => ?_
  rw [← List.cons_append, List.getLast?_concat, Option.mem_def, Option.some.injEq] at hc
  rw [← hc]
  cases single <;> decide

/-- A block that is not all blank takes several lines. -/
theorem newline_mem_trimEnd (header : List Char) {lines : List Char}
    (h : ∃ c ∈ lines, Text.isBlank c = false) :
    '\n' ∈ Text.trimEnd (header ++ '\n' :: lines) := by
  obtain ⟨c, hc, hblank⟩ := h
  obtain ⟨lead, rest, rfl⟩ := List.append_of_mem hc
  have hsplit : header ++ '\n' :: (lead ++ c :: rest) =
      header ++ '\n' :: lead ++ c :: rest := by simp
  rw [hsplit]
  exact (Text.prefix_trimEnd (header ++ '\n' :: lead) rest hblank).subset (by simp)

theorem mem_literalFrom {c : Char} {cs : List Char} (h : c ∈ cs) (broken : Bool) :
    c ∈ literalFrom broken cs := by
  induction cs generalizing broken with
  | nil => cases h
  | cons d cs ih =>
    rw [literalFrom]
    rcases List.mem_cons.1 h with rfl | hmem
    · split <;> simp
    · split
      · exact List.mem_cons_of_mem _ (ih hmem true)
      · exact List.mem_append_right _ (List.mem_cons_of_mem _ (ih hmem false))

/-- A new value that is spared is written as a scalar that the scanner reads as this string. -/
theorem Node.exists_lineScalar_quote {cs : List Char} (h : IsSpared cs) :
    ∃ style, LineScalar (Node.quote cs) (.scalar cs style) ∧
      scalarValue? none cs style = some (.string (String.ofList cs)) := by
  by_cases hne : cs = []
  · subst hne
    have hnothing : QuotedLine false [] [] := .nil
    exact ⟨.doubleQuoted, .quoted hnothing, rfl⟩
  have hquoted {single : Bool} {inner : List Char} (hinner : QuotedLine single inner cs)
      (hwrite : writeString cs =
        Text.trimEnd (closingQuote single :: (inner ++ [closingQuote single]))) :
      ∃ style, LineScalar (Node.quote cs) (.scalar cs style) ∧
        scalarValue? none cs style = some (.string (String.ofList cs)) := by
    have hscalar : LineScalar _ _ := .quoted hinner
    rw [trimEnd_quoted] at hwrite
    rw [Node.quote_eq hne hwrite hscalar]
    exact ⟨_, hscalar, by cases single <;> rfl⟩
  have hbreak {c : Char} (hc : c ∈ cs) (hwritable : isWritable c = true)
      (hcode : isBreak c = true) : c = '\n' := by
    obtain ⟨hline, hparagraph⟩ := h.separators c hc
    have hreturn : c ≠ '\r' := by
      rintro rfl
      exact absurd hwritable (by decide)
    have hnext : c.toNat ≠ 0x85 := by
      intro hcode
      simp [isWritable, hcode] at hwritable
    simpa [isBreak, hline, hparagraph, hreturn, hnext] using hcode
  have hsuits := suits_styleOf cs
  generalize hstyle : Yaml.styleOf cs = style at hsuits
  cases hsuits with
  | plain hclear hstring =>
    have hplain : LineScalar cs (.scalar cs .plain) := .plain (isPlainLine_of_traits hclear hne)
    have hwrite : writeString cs = cs := by
      rw [writeString, hstyle]
      exact h.plain hstyle
    rw [Node.quote_eq hne hwrite hplain]
    exact ⟨.plain, hplain, plainValue?_eq_string hstring⟩
  | singleQuoted hline hspecial =>
    have hwritable := (isWritable_of_traitsFrom hspecial).2
    refine hquoted (quotedLine_singleQuotedFrom fun c hc => ?_) ?_
    · refine isLineChar_of_isWritable (hwritable c hc) (Bool.eq_false_iff.2 fun hcode => ?_)
      exact hline (hbreak hc (hwritable c hc) hcode ▸ hc)
    · rw [writeString, hstyle]
      rfl
  | doubleQuoted =>
    refine hquoted (quotedLine_flatMap fun c _ => quotedUnit_escapeQuoted c) ?_
    rw [writeString, hstyle]
    rfl
  | literal hspecial =>
    have hwritable := (isWritable_of_traitsFrom hspecial).2
    have hinner : QuotedLine false (cs.flatMap Json.escapeChar) cs :=
      quotedLine_flatMap fun c hc => quotedUnit_escapeChar (hwritable c hc)
        (hbreak hc (hwritable c hc))
    have hquote : Node.quote cs = '"' :: (cs.flatMap Json.escapeChar ++ ['"']) := by
      obtain ⟨c, hc, hblank⟩ := h.literal hstyle
      have hnewline := newline_mem_trimEnd (literalHeader cs)
        ⟨c, mem_literalFrom hc true, hblank⟩
      unfold Node.quote
      rw [if_neg (by simpa using hne)]
      dsimp only
      rw [writeString, hstyle, if_pos (by simpa using hnewline)]
      rfl
    rw [hquote]
    exact ⟨_, .quoted hinner, rfl⟩

end ManifestMarkers.Manifest
