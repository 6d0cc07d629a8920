import ManifestMarkers.Proofs.MarkerSchema
import ManifestMarkers.Proofs.ResourceGuards
import ManifestMarkers.Proofs.SpecFields

/-!
# Values in generated code

Values are written as Go source code writes them: slices with the type of their elements, strings
between double quotes.

* `sliceDefault_iff`: the default of a slice field has the declared type, unless it is empty and
  the type is not that of strings.
* `GoString.value?` reads a string literal by the rules of Go.
* `GoString.bytesFrom?_quoted`: what is written for a text is a literal with this text as its value,
  or one with a shorter value, or none.
* `goString_value_iff`: it has the text as its value exactly if no character of it is written with
  its code in braces or as `\0`.
-/

namespace ManifestMarkers

/-! ### Slices -/

theorem Literal.goTexts_eq (items : List Literal) : goTexts items = items.map goText := by
  induction items with
  | nil => rfl
  | cons item items ih => rw [goTexts, ih, List.map_cons]

/-- The types of slices. -/
def FieldType.IsSlice (type : FieldType) : Prop :=
  type = .strings ∨ type = .ints ∨ type = .bools

/-- A default that agrees with a slice type is a slice. -/
theorem FieldType.exists_slice_of_agrees {type : FieldType} {literal : Literal}
    (htype : type.IsSlice) (h : type.Agrees literal) : ∃ items, literal = .slice items := by
  rcases htype with rfl | rfl | rfl <;> exact h.imp fun _ => And.left

/-- The first element of a slice tells the declared type of its elements. -/
theorem FieldType.text_eq_of_agrees {type : FieldType} {items : List Literal}
    (htype : type.IsSlice) (h : type.Agrees (.slice items)) (hne : items ≠ []) :
    "[]" ++ Literal.goElement items = type.text := by
  obtain ⟨item, items, rfl⟩ := List.exists_cons_of_ne_nil hne
  rcases htype with rfl | rfl | rfl
  all_goals
    obtain ⟨-, ⟨rfl⟩, hall⟩ := h
    obtain ⟨-, rfl⟩ := hall item (by simp)
    rfl

/-- A slice as Go writes one of the given type. -/
def goSlice (type : String) (items : List Literal) : String :=
  type ++ "\x7b" ++ Text.joinStrings ", " (items.map Literal.goText) ++ "\x7d"

theorem Literal.goText_slice (items : List Literal) :
    (slice items).goText = goSlice ("[]" ++ goElement items) items := by
  rw [goText, goTexts_eq, goSlice]

/-- A slice that agrees with its declared type is written with that type, unless it is empty. Empty
slices are always slices of strings. -/
theorem FieldType.goText_slice_iff {type : FieldType} {items : List Literal}
    (htype : type.IsSlice) (h : type.Agrees (.slice items)) :
    (Literal.slice items).goText = goSlice type.text items ↔ items ≠ [] ∨ type = .strings := by
  rw [Literal.goText_slice]
  by_cases hne : items = []
  · subst hne
    rcases htype with rfl | rfl | rfl <;> decide
  · simp [text_eq_of_agrees htype h hne, hne]

section

variable {registry : Registry} {ls : List Lexeme} {found : FoundMarker} {f : Field}
  {literal : Literal}

/-- Every marker that is read with a slice type and a default has a slice as its default, and the
descriptor writes it with the declared type, its elements in order, if and only if it has an element
or the type is that of strings. Without elements it is a slice of strings. -/
theorem sliceDefault_iff (h : .marker found ∈ readMarkers registry ls)
    (hf : found.marker.field? = some f) (htype : f.type.IsSlice) (hd : f.default = some literal) :
    ∃ items, literal = .slice items ∧
      (f.descriptor.defaultValue = goSlice f.type.text items ↔
        items ≠ [] ∨ f.type = .strings) ∧
      (items = [] → f.descriptor.defaultValue = "[]string\x7b\x7d") := by
  have hconforms : found.Conforms registry := Reader.conforms_of_run .idle trivial ls _ h
  have hagrees : f.type.Agrees literal :=
    (Marker.conforms_of_field? hconforms.marker hf).default literal hd
  obtain ⟨items, rfl⟩ := FieldType.exists_slice_of_agrees htype hagrees
  have hvalue : f.descriptor.defaultValue = (Literal.slice items).goText := by
    simp only [Field.descriptor, hd]
  rw [hvalue]
  refine ⟨items, rfl, FieldType.goText_slice_iff htype hagrees, ?_⟩
  rintro rfl
  rfl

end

/-- A field among what was read, looked up by what is asked of it. -/
theorem exists_field_of_findSome? {α : Type} {items : List Item} {ask : Field → Option α} {a : α}
    (h : (items.findSome? fun
      | .marker found => found.marker.field?.bind ask
      | _ => none) = some a) :
    ∃ found f, .marker found ∈ items ∧ found.marker.field? = some f ∧ ask f = some a := by
  obtain ⟨item, hitem, hask⟩ := List.exists_of_findSome?_eq_some h
  cases item with
  | marker found =>
    obtain ⟨f, hf, hask⟩ := Option.bind_eq_some_iff.1 hask
    exact ⟨found, f, hitem, hf, hask⟩
  | noMatch | warning | fault => cases hask

theorem sliceDefault_iff_truthValues : ∃ found f items,
    .marker found ∈ readMarkers operatorRegistry
      (Lexeme.lex "+operator-builder:field:default=\x7btrue, false\x7d,type=[]bool,name=x") ∧
    found.marker.field? = some f ∧ f.type.IsSlice ∧ f.default = some (.slice items) ∧
    f.descriptor.defaultValue = "[]bool\x7btrue, false\x7d" ∧
    f.descriptor.defaultValue = goSlice f.type.text items := by
  have h : ((readMarkers operatorRegistry (Lexeme.lex
      "+operator-builder:field:default=\x7btrue, false\x7d,type=[]bool,name=x")).findSome? fun
      | .marker found => found.marker.field?.bind fun f =>
        f.default.map fun _ => (f.type, f.descriptor.defaultValue)
      | _ => none) = some (.bools, "[]bool\x7btrue, false\x7d") := by decide +kernel
  obtain ⟨found, f, hfound, hf, hask⟩ := exists_field_of_findSome? h
  obtain ⟨literal, hd, heq⟩ := Option.map_eq_some_iff.1 hask
  obtain ⟨htype, hvalue⟩ := Prod.mk.inj heq
  have hslice : f.type.IsSlice := .inr (.inr htype)
  obtain ⟨items, rfl, hiff, hempty⟩ := sliceDefault_iff hfound hf hslice hd
  have hne : items ≠ [] := by
    intro hnil
    have := hempty hnil
    rw [hvalue] at this
    exact absurd this (by decide)
  exact ⟨found, f, items, hfound, hf, hslice, hd, hvalue, hiff.2 (.inl hne)⟩

/-- Whether a value is a slice without elements. -/
def Literal.isEmptySlice : Literal → Bool
  | slice items => items.isEmpty
  | _ => false

theorem Literal.eq_of_isEmptySlice {literal : Literal} (h : literal.isEmptySlice = true) :
    literal = .slice [] := by
  cases literal with
  | slice items => rw [List.isEmpty_iff.1 h]
  | string | int | bool => cases h

/-- The empty slice of numbers is written as one of strings, which is no value of the field. -/
theorem sliceDefault_of_empty : ∃ found f,
    .marker found ∈ readMarkers operatorRegistry
      (Lexeme.lex "+operator-builder:field:name=x,type=[]int,default=\x7b\x7d") ∧
    found.marker.field? = some f ∧ f.type = .ints ∧ f.default = some (.slice []) ∧
    f.descriptor.declaration = "X []int `json:\"x\"`" ∧
    f.descriptor.defaultValue = "[]string\x7b\x7d" ∧
    f.descriptor.defaultValue ≠ goSlice f.type.text [] := by
  have h : ((readMarkers operatorRegistry (Lexeme.lex
      "+operator-builder:field:name=x,type=[]int,default=\x7b\x7d")).findSome? fun
      | .marker found => found.marker.field?.bind fun f =>
        (f.default.filter Literal.isEmptySlice).map fun _ =>
          (f.type, f.descriptor.declaration, f.descriptor.defaultValue)
      | _ => none) = some (.ints, "X []int `json:\"x\"`", "[]string\x7b\x7d") := by
    decide +kernel
  obtain ⟨found, f, hfound, hf, hask⟩ := exists_field_of_findSome? h
  obtain ⟨literal, hd, heq⟩ := Option.map_eq_some_iff.1 hask
  obtain ⟨hd, hempty⟩ := Option.filter_eq_some_iff.1 hd
  obtain rfl := Literal.eq_of_isEmptySlice hempty
  simp only [Prod.mk.injEq] at heq
  obtain ⟨htype, hdeclaration, hvalue⟩ := heq
  refine ⟨found, f, hfound, hf, htype, hd, hdeclaration, hvalue, ?_⟩
  rw [hvalue, htype]
  decide

/-! ### String literals of Go -/

namespace GoString

/-- What the digits of an escape stand for: a byte, or the code of a character. -/
inductive Coded
  | byte
  | character
  deriving DecidableEq, Repr

/-- The bytes that a number stands for. A byte has eight bits; half a surrogate pair is no
character. -/
def Coded.bytes? : Coded → Nat → Option (List UInt8)
  | byte, n => if n < 256 then some [UInt8.ofNat n] else none
  | character, n => (Lexeme.charOfCode? n).map String.utf8EncodeChar

/-- The character that an escape with one letter stands for. -/
def simpleEscape? : Char → Option Char
  | 'a' => some '\x07'
  | 'b' => some '\x08'
  | 'f' => some '\x0c'
  | 'n' => some '\n'
  | 'r' => some '\r'
  | 't' => some '\t'
  | 'v' => some '\x0b'
  | '\\' => some '\\'
  | '"' => some '"'
  | _ => none

/-- How far the reading of a literal has come. -/
inductive State
  /-- Outside of escapes. -/
  | plain
  /-- After a backslash. -/
  | escape
  /-- Inside an escape with digits: how many are left, and the value so far. -/
  | digits (base left value : Nat) (coded : Coded)
  deriving DecidableEq, Repr

/-- The bytes of the remaining characters of an interpreted string literal, up to the closing quote
at its very end. An escape is a letter or a sign, three octal digits, or two, four or eight
hexadecimal ones after `x`, `u` or `U`. A line feed cannot stand in a literal. -/
def bytesFrom? : State → List Char → Option (List UInt8)
  | _, [] => none
  | .plain, c :: cs =>
    if c = '"' then if cs.isEmpty then some [] else none
    else if c = '\\' then bytesFrom? .escape cs
    else if c = '\n' then none
    else (bytesFrom? .plain cs).map (String.utf8EncodeChar c ++ ·)
  | .escape, c :: cs =>
    if c = 'x' then bytesFrom? (.digits 16 2 0 .byte) cs
    else if c = 'u' then bytesFrom? (.digits 16 4 0 .character) cs
    else if c = 'U' then bytesFrom? (.digits 16 8 0 .character) cs
    else match simpleEscape? c with
      | some e => (bytesFrom? .plain cs).map (String.utf8EncodeChar e ++ ·)
      | none => match Text.digitIn? 8 c with
        | some d => bytesFrom? (.digits 8 2 d .byte) cs
        | none => none
  | .digits base left value coded, c :: cs =>
    match Text.digitIn? base c with
    | none => none
    | some d =>
      if left = 1 then (coded.bytes? (base * value + d)).bind fun bs =>
        (bytesFrom? .plain cs).map (bs ++ ·)
      else bytesFrom? (.digits base (left - 1) (base * value + d) coded) cs

attribute [local simp] bytesFrom?

/-- The value of an interpreted string literal: a sequence of bytes. -/
def value? (literal : String) : Option (List UInt8) :=
  match literal.toList with
  | '"' :: cs => bytesFrom? .plain cs
  | _ => none

example : value? "\"a\\x41\\101\\u00e9\\t\"" = some [97, 65, 65, 195, 169, 9] := by
  decide

/-- Whether a character is written so that Go reads it back: as it stands, or with a letter or sign
behind a backslash. -/
def isKept (c : Char) : Bool := c == '\t' || c == '\r' || c == '\n' || !Text.isUnseen c

variable {c : Char} {cs : List Char} {bs : List UInt8}

theorem bytesFrom?_kept (h : isKept c = true) (cs : List Char) :
    bytesFrom? .plain (Text.quoteChar c ++ cs) =
      (bytesFrom? .plain cs).map (String.utf8EncodeChar c ++ ·) := by
  unfold Text.quoteChar
  split
  · exact absurd h (by decide)
  · rfl
  · rfl
  · rfl
  · rfl
  · rfl
  · next hnul htab hreturn hline hquote hslash =>
    have htab : c ≠ '\t' := htab
    have hreturn : c ≠ '\r' := hreturn
    have hline : c ≠ '\n' := hline
    have hquote : c ≠ '"' := hquote
    have hslash : c ≠ '\\' := hslash
    have hseen : Text.isUnseen c = false := by simpa [isKept, htab, hreturn, hline] using h
    rw [hseen]
    simp [hquote, hslash, hline]

/-- A code in braces is no escape. -/
theorem bytesFrom?_codeEscape (c : Char) (cs : List Char) :
    bytesFrom? .plain (Text.codeEscape c ++ cs) = none := by
  have hbrace : Text.digitIn? 16 '\x7b' = none := by decide
  simp [Text.codeEscape, hbrace]

/-- A character that is not kept has a code in braces, or it is the zero character. -/
theorem quoteChar_of_not_isKept (h : isKept c = false) :
    Text.quoteChar c = Text.codeEscape c ∨ c = '\x00' := by
  unfold Text.quoteChar
  split
  · exact .inr rfl
  · exact absurd h (by decide)
  · exact absurd h (by decide)
  · exact absurd h (by decide)
  · exact absurd h (by decide)
  · exact absurd h (by decide)
  · have hunseen : Text.isUnseen c = true := by
      have := h
      simp only [isKept, Bool.or_eq_false_iff, Bool.not_eq_false'] at this
      exact this.2
    rw [hunseen]
    exact .inl rfl

/-- What is written for a character is the character itself, or it starts with a backslash. -/
theorem quoteChar_eq (c : Char) :
    Text.quoteChar c = [c] ∨ ∃ tail, Text.quoteChar c = '\\' :: tail := by
  unfold Text.quoteChar
  split
  case h_7 =>
    split
    · exact .inr ⟨_, rfl⟩
    · exact .inl rfl
  all_goals exact .inr ⟨_, rfl⟩

theorem length_pos_utf8EncodeChar (c : Char) : 0 < (String.utf8EncodeChar c).length :=
  List.length_pos_iff.2 String.utf8EncodeChar_ne_nil

theorem length_of_bytes? {n : Nat} (h : Coded.byte.bytes? n = some bs) : bs.length = 1 := by
  simp only [Coded.bytes?] at h
  split at h
  · cases h
    rfl
  · cases h

/-- Inside an octal escape a character is a digit that ends the escape, or one more digit. -/
theorem exists_of_digits {left value : Nat}
    (h : bytesFrom? (.digits 8 left value .byte) (Text.quoteChar c ++ cs) = some bs) :
    (∃ rest, bytesFrom? .plain cs = some rest ∧ bs.length = 1 + rest.length) ∨
      ∃ left value, bytesFrom? (.digits 8 left value .byte) cs = some bs := by
  rcases quoteChar_eq c with hself | ⟨tail, hslash⟩
  · rw [hself] at h
    simp only [List.cons_append, List.nil_append, bytesFrom?] at h
    split at h
    · cases h
    · split at h
      · obtain ⟨b, hb, h⟩ := Option.bind_eq_some_iff.1 h
        obtain ⟨rest, hrest, rfl⟩ := Option.map_eq_some_iff.1 h
        exact .inl ⟨rest, hrest, by rw [List.length_append, length_of_bytes? hb]⟩
      · exact .inr ⟨_, _, h⟩
  · have hdigit : Text.digitIn? 8 '\\' = none := by decide
    rw [hslash] at h
    simp [hdigit] at h

/-- What is written for a text, behind a quote and inside an octal escape. Behind a quote it is read
as the text if all characters are kept, and else as less, if at all: the escape of the zero character
takes digits of the text for its own. -/
theorem bytesFrom?_quoted (cs : List Char) :
    (∀ bs, bytesFrom? .plain (cs.flatMap Text.quoteChar ++ ['"']) = some bs →
      ((∀ c ∈ cs, isKept c = true) ∧ bs = cs.flatMap String.utf8EncodeChar) ∨
        bs.length < (cs.flatMap String.utf8EncodeChar).length) ∧
    ∀ left value bs, bytesFrom? (.digits 8 left value .byte)
        (cs.flatMap Text.quoteChar ++ ['"']) = some bs →
      bs.length ≤ (cs.flatMap String.utf8EncodeChar).length := by
  induction cs with
  | nil =>
    refine ⟨fun bs h => .inl ⟨by simp, ?_⟩, fun left value bs h => ?_⟩
    · simpa [eq_comm] using h
    · have hdigit : Text.digitIn? 8 '"' = none := by decide
      simp [hdigit] at h
  | cons c cs ih =>
    obtain ⟨ihplain, ihdigits⟩ := ih
    have hpos := length_pos_utf8EncodeChar c
    simp only [List.flatMap_cons, List.append_assoc, List.length_append]
    refine ⟨fun bs h => ?_, fun left value bs h => ?_⟩
    · by_cases hc : isKept c = true
      · rw [bytesFrom?_kept hc] at h
        obtain ⟨bs, hbs, rfl⟩ := Option.map_eq_some_iff.1 h
        rcases ihplain bs hbs with ⟨hkept, rfl⟩ | hlt
        · exact .inl ⟨by simpa [hc] using hkept, rfl⟩
        · exact .inr (by simpa using hlt)
      · rcases quoteChar_of_not_isKept (by simpa using hc) with hcode | rfl
        · rw [hcode, bytesFrom?_codeEscape] at h
          cases h
        · have hoctal := ihdigits 2 0 bs h
          exact .inr (by omega)
    · rcases exists_of_digits h with ⟨rest, hrest, hlength⟩ | ⟨left, value, hrest⟩
      · rcases ihplain rest hrest with ⟨-, rfl⟩ | hlt <;> omega
      · have hle := ihdigits left value bs hrest
        omega

theorem bytesFrom?_of_kept (h : ∀ c ∈ cs, isKept c = true) :
    bytesFrom? .plain (cs.flatMap Text.quoteChar ++ ['"']) =
      some (cs.flatMap String.utf8EncodeChar) := by
  induction cs with
  | nil => rfl
  | cons c cs ih =>
    have htail := ih fun d hd => h d (List.mem_cons_of_mem _ hd)
    rw [List.flatMap_cons, List.append_assoc, bytesFrom?_kept (h c List.mem_cons_self), htail]
    rfl

/-- A text between quotes is a literal with this text as its value exactly if all its characters are
kept. -/
theorem value?_quoted_iff (s : String) :
    value? (Text.quoted s) = some (Text.bytes s) ↔ ∀ c ∈ s.toList, isKept c = true := by
  have hvalue : value? (Text.quoted s) =
      bytesFrom? .plain (s.toList.flatMap Text.quoteChar ++ ['"']) := by
    simp [value?, Text.quoted]
  rw [hvalue, Text.bytes_eq]
  refine ⟨fun h => ?_, bytesFrom?_of_kept⟩
  rcases (bytesFrom?_quoted s.toList).1 _ h with ⟨hkept, -⟩ | hlt
  · exact hkept
  · exact absurd hlt (Nat.lt_irrefl _)

end GoString

/-! ### Strings in generated code -/

/-- A string field is declared with one literal as its default and in its sample. Its value is that
of the default, or of the manifest without one, exactly if all characters are kept. -/
theorem exists_literal_of_descriptor {f : Field} {s : String} (htype : f.type = .string)
    (h : f.default = some (.string s) ∨ f.default = none ∧ f.manifestValue = some s) :
    ∃ literal, f.descriptor.defaultValue = literal ∧
      f.descriptor.sampleValue = f.name ++ ": " ++ literal ∧
      (GoString.value? literal = some (Text.bytes s) ↔
        ∀ c ∈ s.toList, GoString.isKept c = true) := by
  refine ⟨Text.quoted s, ?_, ?_, GoString.value?_quoted_iff s⟩ <;>
    rcases h with hd | ⟨hd, hm⟩ <;>
    simp [Field.descriptor, Field.sampleText, Literal.goText, Literal.text, *]

/-- A guard compares with a literal. Its value is the string of the marker exactly if all characters
are kept. -/
theorem exists_literal_of_compares {r : Resource} {markers : List Marker} {m : Marker}
    {field : Field} {included : Bool} {s : String} (p : Placeholders)
    (h : r.Compares markers m field included (.string s)) :
    ∃ r' literal, r.process markers p.parent p.collection = .ok r' ∧
      r'.guard = Resource.guardText included r'.reference literal ∧
      (GoString.value? literal = some (Text.bytes s) ↔
        ∀ c ∈ s.toList, GoString.isKept c = true) := by
  obtain ⟨-, -, -, hrefers, -⟩ := h.isFirst
  obtain ⟨-, spec, -, hspec⟩ := Resource.exists_of_refers p hrefers
  refine ⟨r.guarded included (field.reference spec) (.string s), Text.quoted s, ?_, rfl,
    GoString.value?_quoted_iff s⟩
  simp only [Resource.process, Resource.writeGuard_of_compares h hspec]

/-- A string is written for Go as a literal with this string as its value if and only if each of its
characters is kept: it has a visible form, or it is a tab or the end of a line. -/
theorem goString_value_iff (s : String) :
    GoString.value? (Literal.string s).goText = some (Text.bytes s) ↔
      ∀ c ∈ s.toList, GoString.isKept c = true := by
  rw [Literal.goText, GoString.value?_quoted_iff]

/-- A letter with a combining accent is written as no literal at all, and the escape of the zero
character takes the digits behind it for its own. -/
theorem goString_value_lost :
    GoString.value? (Literal.string "e\u0301").goText = none ∧
    GoString.value? (Literal.string "\x0012").goText = some (Text.bytes "\n") ∧
    ¬ ∀ s, GoString.value? (Literal.string s).goText = some (Text.bytes s) := by
  have haccent : GoString.value? (Literal.string "e\u0301").goText = none := by decide
  have hzero : GoString.value? (Literal.string "\x0012").goText = some (Text.bytes "\n") := by
    decide
  refine ⟨haccent, hzero, fun h => ?_⟩
  have hlost := h "e\u0301"
  rw [haccent] at hlost
  cases hlost

end ManifestMarkers
