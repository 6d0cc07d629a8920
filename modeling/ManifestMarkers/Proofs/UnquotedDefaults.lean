import ManifestMarkers.Proofs.MarkerArguments
import ManifestMarkers.Proofs.MarkerFaults

/-!
# Defaults without quotes

A default that stands without quotes is read before its type matters, and a string field makes text
of it again. What comes back is what was written, except for numbers.

* `Lexeme.IsUnquoted` says what can stand without quotes, `Given.unquotedMarker` writes a marker of
  such values, and `Given.exists_lex_unquotedMarker` has its lexemes.
* `Reader.exists_zeros` and `Reader.toString_ofDigitChars_eq_iff` compare digits with the numeral of
  their number.
* `Given.accepts_stringField`: a string field takes every single value.
* `Reader.run_arguments_of_outOfRange`: a number that does not fit is the fault of its marker.
* `parseMarkers_unquotedDefault` tells words, numbers and numbers that do not fit apart.
-/

namespace ManifestMarkers

/-! ### Words -/

namespace Lexeme

/-- A text that can stand as the value of an argument without quotes. -/
structure IsUnquoted (w : String) : Prop where
  ne_empty : w ≠ ""
  bare : ∀ c ∈ w.toList, c ≠ ',' ∧ c ≠ '\n' ∧ c ≠ ' ' ∧ c ≠ '\t' ∧ c ≠ '\r'
  head : ∀ c ∈ w.toList.head?, c ≠ '"' ∧ c ≠ '\'' ∧ c ≠ '`' ∧ c ≠ '\x7b'

/-- The same by what the lexer asks of characters. -/
theorem isUnquoted_iff {w : String} : IsUnquoted w ↔
    w ≠ "" ∧ w.toList.all (isBare false) = true ∧
      w.toList.head?.all (fun c => !isQuote c && c != '\x7b') = true := by
  have hbare (c : Char) : isBare false c = true ↔
      c ≠ ',' ∧ c ≠ '\n' ∧ c ≠ ' ' ∧ c ≠ '\t' ∧ c ≠ '\r' := by
    simp [isBare, isGap, and_assoc]
  have hhead (c : Char) : (!isQuote c && c != '\x7b') = true ↔
      c ≠ '"' ∧ c ≠ '\'' ∧ c ≠ '`' ∧ c ≠ '\x7b' := by
    simp [isQuote, and_assoc]
  rw [List.all_eq_true, Option.all_eq_true]
  simp only [hbare, hhead]
  exact ⟨fun h => ⟨h.ne_empty, h.bare, h.head⟩, fun h => ⟨h.1, h.2.1, h.2.2⟩⟩

instance : DecidablePred IsUnquoted := fun _ => decidable_of_iff _ isUnquoted_iff.symm

theorem lexesValue_of_isUnquoted {w : String} (h : IsUnquoted w) :
    LexesValue w.toList [(bareKind w.toList, w)] := by
  obtain ⟨hne, hbare, hhead⟩ := isUnquoted_iff.1 h
  obtain ⟨c, cs, hcs⟩ := List.exists_cons_of_ne_nil (l := w.toList) (by simpa using hne)
  rw [hcs, List.head?_cons, Option.all_some, Bool.and_eq_true, Bool.not_eq_true', bne_iff_ne]
    at hhead
  intro r t ht hm hr
  have hemits := Reading.emits_bare (List.all_eq_true.1 hbare) (congrArg List.head? hcs) hhead.1
    hhead.2 ht hm hr
  rwa [String.ofList_toList] at hemits

end Lexeme

/-! ### Written arguments -/

namespace Given

/-- The argument of a name and a value without quotes. -/
def unquoted (arg : String × String) : Given :=
  ⟨arg.1, .scalar ⟨Lexeme.bareKind arg.2.toList, arg.2, Lexeme.isScalar_bareKind _⟩⟩

/-- A name and a value that can be written without quotes. -/
structure IsWritable (arg : String × String) : Prop where
  name : isIdentifier arg.1.toList = true
  value : Lexeme.IsUnquoted arg.2

/-- A marker with its arguments in the given order, none of them in quotes. -/
def unquotedMarker (path : String) (args : List (String × String)) : String :=
  path ++ ":" ++ Text.joinStrings "," (args.map fun arg => arg.1 ++ "=" ++ arg.2)

/-- How arguments are written behind another one. -/
def furtherText (args : List (String × String)) : List Char :=
  args.flatMap fun arg => Reader.argText (arg.1, arg.2.toList)

theorem furtherText_cons (arg : String × String) (args : List (String × String)) :
    furtherText (arg :: args) =
      ',' :: (arg.1.toList ++ '=' :: (arg.2.toList ++ furtherText args)) := by
  simp [furtherText, Reader.argText]

theorem head?_furtherText (args : List (String × String)) :
    ∀ c ∈ (furtherText args).head?, c = ',' := by
  cases args <;> simp [furtherText, Reader.argText]

theorem toList_unquotedMarker (path : String) (arg : String × String)
    (args : List (String × String)) : (unquotedMarker path (arg :: args)).toList = path.toList ++
      ':' :: (arg.1.toList ++ '=' :: (arg.2.toList ++ furtherText args)) := by
  have hargs : (args.map fun arg => arg.1 ++ "=" ++ arg.2).map String.toList =
      args.map fun arg => arg.1.toList ++ '=' :: arg.2.toList := by
    simp
  simp only [unquotedMarker, Text.joinStrings, List.map_cons, hargs]
  simp [Text.joinWith_cons_eq_flatMap, furtherText, Reader.argText, List.flatMap_map]

variable {args : List (String × String)}

/-- The value of an argument is read behind its name. -/
theorem emits_contents {arg : String × String} (h : Lexeme.IsUnquoted arg.2) {r : Lexeme.Reading}
    {t : List Char} (ht : ∀ c ∈ t.head?, c = ',')
    (hname : r.Emits [(.arg, String.ofList arg.1.toList)] .value (arg.2.toList ++ t)) :
    r.Emits (contents (unquoted arg)) .afterValue t := by
  rw [String.ofList_toList] at hname
  exact Lexeme.Reading.emits_trans hname fun n hn hnrest =>
    Lexeme.lexesValue_of_isUnquoted h ht hn hnrest

/-- The arguments behind another one are read one after the other. -/
theorem emits_unquoted (h : ∀ arg ∈ args, IsWritable arg) {r : Lexeme.Reading}
    (hm : r.mode = .afterValue) (hr : r.rest = furtherText args) :
    r.Emits ((args.map unquoted).flatMap contents) .afterValue [] := by
  induction args generalizing r with
  | nil => exact ⟨[], r, rfl, rfl, hm, hr⟩
  | cons arg args ih =>
    obtain ⟨hname, hvalue⟩ := h arg (by simp)
    rw [furtherText_cons] at hr
    have harg := emits_contents hvalue (head?_furtherText args)
      (Lexeme.Reading.emits_nextArg hname hm hr)
    exact Lexeme.Reading.emits_trans harg fun n hn hnrest =>
      ih (fun other hother => h other (by simp [hother])) hn hnrest

/-- The lexemes of a marker with arguments that are written without quotes. -/
theorem exists_lex_unquotedMarker {path : String} (hpath : isPath path = true) (hne : args ≠ [])
    (h : ∀ arg ∈ args, IsWritable arg) : ∃ (scopes : List String) (ls : List Lexeme),
      Reader.pathOf scopes = path ∧
      Lexeme.lex (unquotedMarker path args) = ⟨.markerStart, "+", .origin⟩ :: ls ∧
      (⟨.markerStart, "+", .origin⟩ :: ls : List Lexeme).map Lexeme.content =
        stream scopes (args.map unquoted) := by
  obtain ⟨segments, hsome, hsegments, hjoin⟩ := exists_segments_of_isPath hpath
  obtain ⟨c, tail, htail, hc⟩ := Reader.exists_cons_of_segments hsome hsegments
  cases args with
  | nil => exact absurd rfl hne
  | cons arg args =>
    obtain ⟨hname, hvalue⟩ := h arg (by simp)
    have hfirst : Text.joinWith [':'] segments ++
        ':' :: (arg.1.toList ++ '=' :: (arg.2.toList ++ furtherText args)) =
          c :: (tail ++ ':' :: (arg.1.toList ++ '=' :: (arg.2.toList ++ furtherText args))) := by
      rw [htail]
      rfl
    obtain ⟨n, hstart, hn, hnrest⟩ := Lexeme.Reading.toEnd_start hfirst hc
    have hemits : n.Emits (Lexeme.Reading.segmentContents segments ++
        ((arg :: args).map unquoted).flatMap contents) .afterValue [] := by
      refine Lexeme.Reading.emits_trans (Lexeme.Reading.emits_segments hsegments hsome hn hnrest)
        fun n hn hnrest => ?_
      have harg := emits_contents hvalue (head?_furtherText args)
        (Lexeme.Reading.emits_firstArg hname hn hnrest)
      exact Lexeme.Reading.emits_trans harg fun n hn hnrest =>
        emits_unquoted (fun other hother => h other (by simp [hother])) hn hnrest
    obtain ⟨es, n', htoEnd, hes, hn', hnrest'⟩ := hemits
    refine ⟨segments.map String.ofList, es ++ n'.toEnd, Reader.pathOf_segments hjoin, ?_, ?_⟩
    · rw [Lexeme.lex, toList_unquotedMarker, hjoin, List.cons_append, Lexeme.lexChars_eq_toEnd,
        hstart, htoEnd]
    · rw [Lexeme.Reading.toEnd_finish hn' hnrest']
      simp [Lexeme.content, stream, hes, Function.comp_def]

end Given

/-! ### Numerals -/

namespace Reader

/-- A digit is the one of its distance from zero. -/
theorem digitChar_of_isDigit {c : Char} (h : c.isDigit = true) :
    c.toNat - '0'.toNat < 10 ∧ (c.toNat - '0'.toNat).digitChar = c := by
  have hbounds : 48 ≤ c.toNat ∧ c.toNat ≤ 57 := by
    simpa [Char.isDigit, UInt32.le_iff_toNat_le] using h
  obtain ⟨d, hd⟩ : ∃ d, c.toNat = d + 48 := ⟨c.toNat - 48, by omega⟩
  have hlt : d < 10 := by omega
  have hsub : c.toNat - '0'.toNat = d := by
    rw [hd]
    rfl
  rw [hsub]
  refine ⟨hlt, ?_⟩
  have hnat : d.digitChar.toNat = c.toNat := by
    rw [Nat.toNat_digitChar_of_lt_ten hlt, hd, Nat.add_comm]
  exact Char.toNat_inj.1 hnat

/-- Digits behind a number other than zero stay as they are in its numeral. -/
theorem toDigits_ofDigitChars {cs : List Char} (hcs : ∀ c ∈ cs, c.isDigit = true) {n : Nat}
    (hn : 0 < n) : Nat.toDigits 10 (Nat.ofDigitChars 10 cs n) = Nat.toDigits 10 n ++ cs := by
  induction cs generalizing n with
  | nil => simp
  | cons c cs ih =>
    obtain ⟨hlt, hc⟩ := digitChar_of_isDigit (hcs c (by simp))
    have hpos : 0 < 10 * n + (c.toNat - '0'.toNat) := by omega
    rw [Nat.ofDigitChars_cons, ih (fun d hd => hcs d (by simp [hd])) hpos,
      ← Nat.toDigits_append_toDigits (by decide) hn hlt, Nat.toDigits_of_lt_base hlt, hc,
      List.append_assoc, List.singleton_append]

/-- Digits are the numeral of their number behind zeros. -/
theorem exists_zeros {cs : List Char} (hcs : ∀ c ∈ cs, c.isDigit = true) (hne : cs ≠ []) :
    ∃ zeros, cs = List.replicate zeros '0' ++ Nat.toDigits 10 (Nat.ofDigitChars 10 cs 0) := by
  induction cs with
  | nil => exact absurd rfl hne
  | cons c cs ih =>
    have htail : ∀ d ∈ cs, d.isDigit = true := fun d hd => hcs d (by simp [hd])
    obtain ⟨hlt, hc⟩ := digitChar_of_isDigit (hcs c (by simp))
    rw [Nat.ofDigitChars_cons, Nat.mul_zero, Nat.zero_add]
    by_cases hzero : c.toNat - '0'.toNat = 0
    · rw [hzero] at hc ⊢
      obtain rfl : '0' = c := hc
      by_cases hnil : cs = []
      · exact ⟨0, by simp [hnil]⟩
      · obtain ⟨zeros, hzeros⟩ := ih htail hnil
        refine ⟨zeros + 1, ?_⟩
        rw [List.replicate_succ, List.cons_append, ← hzeros]
    · refine ⟨0, ?_⟩
      rw [toDigits_ofDigitChars htail (Nat.pos_of_ne_zero hzero), Nat.toDigits_of_lt_base hlt, hc]
      rfl

/-- Only the numeral of zero begins with a zero. -/
theorem head?_toDigits {n : Nat} (hn : 0 < n) : (Nat.toDigits 10 n).head? ≠ some '0' := by
  induction n using Nat.strongRecOn with
  | ind n ih =>
    rw [Nat.toDigits_eq_if (by decide)]
    split
    · next hlt => simpa using Nat.ne_of_gt hn
    · next hge =>
      have hhead := ih (n / 10) (by omega) (by omega)
      rwa [List.head?_append_of_ne_nil _ Nat.toDigits_ne_nil]

/-- Digits are kept as they are exactly if they do not begin with a superfluous zero. -/
theorem toString_ofDigitChars_eq_iff {w : String} (hw : ∀ c ∈ w.toList, c.isDigit = true)
    (hne : w ≠ "") : toString (Nat.ofDigitChars 10 w.toList 0) = w ↔
      (w.toList.head? = some '0' → w = "0") := by
  have hlist : w.toList ≠ [] := by simpa using hne
  obtain ⟨zeros, hzeros⟩ := exists_zeros hw hlist
  rw [Nat.toString_eq_ofList_toDigits, ← String.toList_inj, String.toList_ofList]
  generalize Nat.ofDigitChars 10 w.toList 0 = n at hzeros
  constructor
  · intro hkept hhead
    have hn : n = 0 := by
      by_contra hn
      exact head?_toDigits (Nat.pos_of_ne_zero hn) (hkept ▸ hhead)
    rw [hn, Nat.toDigits_zero] at hkept
    exact String.toList_inj.1 hkept.symm
  · intro hzero
    cases zeros with
    | zero => simpa using hzeros.symm
    | succ zeros =>
      -- a numeral behind a zero is longer than the only text that may begin with one
      have hw : w = "0" := hzero (by rw [hzeros]; rfl)
      have hlength : 1 = zeros + 1 + (Nat.toDigits 10 n).length := by
        simpa [hw] using congrArg List.length hzeros
      have hdigits : 0 < (Nat.toDigits 10 n).length := Nat.length_toDigits_pos
      omega

end Reader

/-! ### String fields -/

namespace Given

/-- The required arguments of a string field. -/
def stringField (name : String) : List Given :=
  [unquoted ("name", name), unquoted ("type", "string")]

variable {name w : String} {literal : Literal}

theorem spec?_name (w : String) :
    (unquoted ("name", w)).spec? .field = some ⟨"name", .string, false⟩ :=
  spec?_self (v := .field) ⟨"name", .string, false⟩ (by decide) _

theorem spec?_type (w : String) :
    (unquoted ("type", w)).spec? .field = some ⟨"type", .string, false⟩ :=
  spec?_self (v := .field) ⟨"type", .string, false⟩ (by decide) _

theorem spec?_default (w : String) :
    (unquoted ("default", w)).spec? .field = some ⟨"default", .any, true⟩ :=
  spec?_self (v := .field) ⟨"default", .any, true⟩ (by decide) _

theorem names_stringField (name : String) : names .field (stringField name) = ["name", "type"] := by
  simp [names, stringField, spec?_name, spec?_type]

theorem default_notMem_names (name : String) : "default" ∉ names .field (stringField name) := by
  rw [names_stringField]
  decide

theorem readable_stringField (name : String) : Readable .field (stringField name) := by
  have hname : Readable .field ([] ++ [unquoted ("name", name)]) :=
    readable_append_iff.2 ⟨readable_nil .field, _, _, spec?_name name, by simp [names], rfl,
      fun h => absurd h (by decide)⟩
  exact readable_append_iff.2 ⟨hname, _, _, spec?_type "string", by simp [names, spec?_name], rfl,
    fun _ => ⟨.string, by decide, rfl⟩⟩

theorem literalOf_stringField (name : String) : literalOf .field (stringField name) =
    Function.update (Function.update (fun _ => none) "name" (some (.string name))) "type"
      (some (.string "string")) := by
  have hnil : literalOf .field [] = fun _ => none := rfl
  have hname : literalOf .field ([] ++ [unquoted ("name", name)]) =
      Function.update (literalOf .field []) "name" (some (.string name)) :=
    literalOf_append (spec?_name name) (by simp [names]) rfl
  have htype : literalOf .field ([] ++ [unquoted ("name", name)] ++ [unquoted ("type", "string")]) =
      Function.update (literalOf .field ([] ++ [unquoted ("name", name)])) "type"
        (some (.string "string")) :=
    literalOf_append (spec?_type "string") (by simp [names, spec?_name]) rfl
  rwa [hname, hnil] at htype

/-- A string field takes every single value as its default and keeps the text of it. -/
theorem accepts_stringField (hreserved : isReserved name = false)
    (hliteral : (unquoted ("default", w)).value.literal? .any = some literal)
    (hscalar : literal.isScalar = true) :
    Accepts .field (stringField name ++ [unquoted ("default", w)]) ∧
      (Variant.field.ofArgs
        (literalOf .field (stringField name ++ [unquoted ("default", w)]))).settle =
          .field { name, type := .string, default := some (.string literal.text) } := by
  have hnew := default_notMem_names name
  have hreadable : Readable .field (stringField name ++ [unquoted ("default", w)]) :=
    readable_append_iff.2 ⟨readable_stringField name, _, _, spec?_default w, hnew, hliteral,
      fun h => absurd h (by decide)⟩
  have hrequired : ∀ spec ∈ Variant.field.args, spec.isOptional = false →
      spec.name ∈ names .field (stringField name ++ [unquoted ("default", w)]) := by
    rw [names_append (spec?_default w), names_stringField]
    decide
  have hget := literalOf_append (spec?_default w) hnew hliteral
  rw [literalOf_stringField] at hget
  have hpasses : Field.Passes
      (literalOf .field (stringField name ++ [unquoted ("default", w)])) := by
    rw [hget]
    refine ⟨⟨.string, by decide, rfl, fun other hother => ?_⟩, fun other hother => ?_,
      fun other hother => ?_⟩
    · obtain rfl : literal = other := Option.some.inj hother
      exact hscalar
    · obtain rfl : .string name = other := Option.some.inj hother
      exact hreserved
    · cases hother
  have hfield : Field.ofArgs (literalOf .field (stringField name ++ [unquoted ("default", w)])) =
      { name, type := .string, default := some literal } := by
    rw [hget]
    rfl
  refine ⟨accepts_iff.2 ⟨hreadable, hrequired, hpasses⟩, ?_⟩
  simp [Variant.ofArgs, hfield, Marker.settle, Marker.mapField, Field.settle, FieldType.accept?,
    hscalar]

/-- Name and type can be read where they stand in front of the default, and it is not among them. -/
theorem readable_before_default {before after : List (String × String)}
    (h : (before ++ ("default", w) :: after).Perm
      [("name", name), ("type", "string"), ("default", w)]) :
    Readable .field (before.map unquoted) ∧ "default" ∉ names .field (before.map unquoted) := by
  have hfront : (("default", w) :: (before ++ after)).Perm
      (("default", w) :: [("name", name), ("type", "string")]) :=
    List.perm_middle.symm.trans (h.trans (List.perm_append_singleton _ [_, _]))
  have halike : Alike (stringField name) (before.map unquoted ++ after.map unquoted) := by
    rw [← List.map_append]
    exact alike_of_perm (hfront.cons_inv.map unquoted).symm
  obtain ⟨hreadable, hnames, -⟩ := readable_of_alike halike (readable_stringField name)
  refine ⟨readable_of_append hreadable, fun hdefault => ?_⟩
  refine default_notMem_names name (hnames.mem_iff.2 ?_)
  rw [names, List.filterMap_append]
  exact List.mem_append_left _ hdefault

/-- A text that is no number stands for itself, truth values included. -/
theorem exists_literal_of_word (h : w.toList.all Char.isDigit = false) :
    ∃ literal, (unquoted ("default", w)).value.literal? .any = some literal ∧
      literal.isScalar = true ∧ literal.text = w := by
  by_cases hbool : w = "true" ∨ w = "false"
  · rcases hbool with rfl | rfl
    · exact ⟨.bool true, rfl, rfl, rfl⟩
    · exact ⟨.bool false, rfl, rfl, rfl⟩
  · have htrue : (w.toList == "true".toList) = false :=
      beq_eq_false_iff_ne.2 fun heq => hbool (.inl (String.toList_inj.1 heq))
    have hfalse : (w.toList == "false".toList) = false :=
      beq_eq_false_iff_ne.2 fun heq => hbool (.inr (String.toList_inj.1 heq))
    have hkind : Lexeme.bareKind w.toList = .stringLiteral := by
      simp only [Lexeme.bareKind, h, htrue, hfalse, Bool.and_false, Bool.or_self,
        Bool.false_eq_true, if_false]
    refine ⟨.string w, ?_, rfl, rfl⟩
    simp only [unquoted, Value.literal?, Scalar.literal?, hkind, reduceCtorEq, if_false]

theorem bareKind_of_digits (hne : w ≠ "") (h : w.toList.all Char.isDigit = true) :
    Lexeme.bareKind w.toList = .integerLiteral := by
  simp [Lexeme.bareKind, h, hne]

end Given

namespace Reader

/-- A number that does not fit is the fault of its marker, whatever stands behind it, if the
arguments in front of it can be read. -/
theorem run_arguments_of_outOfRange (registry : Registry) (p : Point) {d : Definition}
    {args : List Given} {a : Given} {spec : ArgSpec} {s : Given.Scalar}
    (hreadable : Given.Readable d.variant args)
    (hspec : a.spec? d.variant = some spec) (hnew : spec.name ∉ Given.names d.variant args)
    (hany : spec.kind = .any) (hvalue : a.value = .scalar s) (hk : s.kind = .integerLiteral)
    (hnone : integer? s.text = none) {ls : List Lexeme} {ks : List (Lexeme.Kind × String)}
    (hls : ls.map Lexeme.content = args.flatMap Given.contents ++ (a.contents ++ ks)) :
    ∃ q, run registry (.argument (opened d p [])) ls =
      [.fault (.malformed (outOfRange ⟨.integerLiteral, s.text, q⟩) q)] := by
  obtain ⟨es, ls, rfl, hes, hls⟩ := List.map_eq_append_iff.1 hls
  have hleads := leads_arguments registry (opened d p []) args
  rw [foldlM_give?_eq_some_iff.2 ⟨hreadable, rfl⟩] at hleads
  have hbefore : run registry (.argument (opened d p [])) (es ++ ls) =
      run registry (.argument (opened d p args)) ls := hleads es hes ls
  simp only [Given.contents, hvalue, Given.Value.contents, List.cons_append, List.nil_append]
    at hls
  obtain ⟨l, ls, rfl, hl, hls⟩ := List.map_eq_cons_iff.1 hls
  obtain ⟨⟨k, text, q⟩, ls, rfl, hl', -⟩ := List.map_eq_cons_iff.1 hls
  obtain ⟨rfl, rfl⟩ := Prod.mk.inj hl'
  obtain ⟨hkind, hname⟩ := Prod.mk.inj hl
  have harg : d.arg? a.name = some spec := hspec
  have hbegin : step registry (.argument (opened d p args)) l =
      .go none (.value (opened d p args) spec l.position) := by
    simp [step, hkind, beginArg, hname, opened, harg, hnew]
  have hstop : step registry (.value (opened d p args) spec l.position) ⟨s.kind, s.text, q⟩ =
      .stop (.malformed (outOfRange ⟨.integerLiteral, s.text, q⟩) q) := by
    have hscalar : scalar spec.name .any ⟨s.kind, s.text, q⟩ =
        .error (.malformed (outOfRange ⟨.integerLiteral, s.text, q⟩) q) := by
      simp only [scalar, naturalLiteral, hk, hnone, reduceCtorEq, if_false]
      rfl
    rw [step_value_scalar s.isScalar, hany, hscalar]
  refine ⟨q, ?_⟩
  rw [hbefore, run_cons_of_go (by rw [hkind]; rfl) hbegin, run_cons_of_stop hstop]
  rfl

end Reader

/-! ### Defaults -/

section

open Given

variable {name w : String} {args : List (String × String)}

/-- The lexemes of a string field with a default, with its arguments in any order. -/
theorem exists_lex_stringField (hname : Lexeme.IsUnquoted name) (hw : Lexeme.IsUnquoted w)
    (hargs : args.Perm [("name", name), ("type", "string"), ("default", w)]) :
    ∃ (scopes : List String) (ls : List Lexeme),
      operatorRegistry.get? (Reader.pathOf scopes) = some ⟨fieldPath, .field⟩ ∧
      Lexeme.lex (unquotedMarker fieldPath args) = ⟨.markerStart, "+", .origin⟩ :: ls ∧
      (⟨.markerStart, "+", .origin⟩ :: ls : List Lexeme).map Lexeme.content =
        stream scopes (args.map unquoted) := by
  have hwritable : ∀ arg ∈ args, IsWritable arg := by
    intro arg harg
    have harg := hargs.mem_iff.1 harg
    simp only [List.mem_cons, List.not_mem_nil, or_false] at harg
    rcases harg with rfl | rfl | rfl
    · exact ⟨(by decide : isIdentifier "name".toList = true), hname⟩
    · exact ⟨by decide, by decide⟩
    · exact ⟨(by decide : isIdentifier "default".toList = true), hw⟩
  have hne : args ≠ [] := by
    rintro rfl
    exact List.not_perm_nil_cons _ _ hargs
  have hpath : isPath fieldPath = true := by decide
  obtain ⟨scopes, ls, hscopes, hlex, hstream⟩ := exists_lex_unquotedMarker hpath hne hwritable
  refine ⟨scopes, ls, ?_, hlex, hstream⟩
  rw [hscopes]
  decide

theorem parseMarkers_of_literal (hname : Lexeme.IsUnquoted name)
    (hreserved : isReserved name = false) (hw : Lexeme.IsUnquoted w)
    (hargs : args.Perm [("name", name), ("type", "string"), ("default", w)]) {literal : Literal}
    (hliteral : (unquoted ("default", w)).value.literal? .any = some literal)
    (hscalar : literal.isScalar = true) :
    parseMarkers operatorRegistry (unquotedMarker fieldPath args) = .ok ([⟨fieldPath,
      .field { name, type := .string, default := some (.string literal.text) }, .origin⟩], []) := by
  obtain ⟨scopes, ls, hd, hlex, hstream⟩ := exists_lex_stringField hname hw hargs
  obtain ⟨haccepts, hsettle⟩ := accepts_stringField hreserved hliteral hscalar
  have halike : Alike (stringField name ++ [unquoted ("default", w)]) (args.map unquoted) :=
    alike_of_perm (hargs.map unquoted).symm
  obtain ⟨haccepts', hliterals⟩ := accepts_of_alike halike haccepts
  rcases readMarkers_stream hd hstream with ⟨-, hread⟩ | ⟨hnot, -⟩
  · rw [parseMarkers, hlex, hread, hliterals, hsettle]
    rfl
  · exact absurd haccepts' hnot

theorem parseMarkers_of_outOfRange (hname : Lexeme.IsUnquoted name) (hw : Lexeme.IsUnquoted w)
    (hargs : args.Perm [("name", name), ("type", "string"), ("default", w)])
    (hk : Lexeme.bareKind w.toList = .integerLiteral) (hnone : Reader.integer? w = none) :
    ∃ p, parseMarkers operatorRegistry (unquotedMarker fieldPath args) =
      .error (.malformed (Reader.outOfRange ⟨.integerLiteral, w, p⟩) p) := by
  obtain ⟨scopes, ls, hd, hlex, hstream⟩ := exists_lex_stringField hname hw hargs
  obtain ⟨ls', hls', hrun⟩ := Reader.run_scopes operatorRegistry hstream
  obtain ⟨a, more, hcons⟩ : ∃ a more, args.map unquoted = a :: more := by
    refine List.exists_cons_of_ne_nil fun hnil => ?_
    rw [List.map_eq_nil_iff.1 hnil] at hargs
    exact List.not_perm_nil_cons _ _ hargs
  have hopened : Reader.run operatorRegistry (.header .origin scopes) ls' = Reader.run
      operatorRegistry (.argument (Reader.opened ⟨fieldPath, .field⟩ .origin [])) ls' :=
    Reader.run_header_opened hd (hcons ▸ hls')
  have hmem : ("default", w) ∈ args := hargs.mem_iff.2 (by simp)
  obtain ⟨before, after, rfl⟩ := List.append_of_mem hmem
  obtain ⟨hreadable, hnew⟩ := readable_before_default hargs
  rw [List.map_append, List.map_cons, List.flatMap_append, List.flatMap_cons, List.append_assoc,
    List.append_assoc] at hls'
  obtain ⟨p, hfault⟩ := Reader.run_arguments_of_outOfRange operatorRegistry .origin
    (d := ⟨fieldPath, .field⟩) hreadable (spec?_default w) hnew rfl rfl hk hnone hls'
  refine ⟨p, ?_⟩
  rw [parseMarkers, hlex, hrun, hopened, hfault]
  rfl

theorem unquotedMarker_ordered (w : String) :
    unquotedMarker fieldPath [("name", "x"), ("type", "string"), ("default", w)] =
      "+operator-builder:field:name=x,type=string,default=" ++ w := by
  rw [← String.toList_inj]
  simp [unquotedMarker, Text.joinStrings, Text.joinWith, fieldPath]

/-- What becomes of a default without quotes in a string field, in every order of the arguments. A
text that is no number is kept as it is written. Digits are kept as the numeral of their number,
which leaves out zeros in front of it and nothing else, and numbers from two to the power of 63 on
are faults. -/
theorem parseMarkers_unquotedDefault (hname : Lexeme.IsUnquoted name)
    (hreserved : isReserved name = false) (hw : Lexeme.IsUnquoted w)
    (hargs : args.Perm [("name", name), ("type", "string"), ("default", w)]) :
    (w.toList.all Char.isDigit = false →
      parseMarkers operatorRegistry (unquotedMarker fieldPath args) = .ok ([⟨fieldPath,
        .field { name, type := .string, default := some (.string w) }, .origin⟩], [])) ∧
    (w.toList.all Char.isDigit = true → Nat.ofDigitChars 10 w.toList 0 < 2 ^ 63 →
      ∃ numeral, numeral = toString (Nat.ofDigitChars 10 w.toList 0) ∧
        parseMarkers operatorRegistry (unquotedMarker fieldPath args) = .ok ([⟨fieldPath,
          .field { name, type := .string, default := some (.string numeral) }, .origin⟩], []) ∧
        (∃ zeros, w.toList = List.replicate zeros '0' ++ numeral.toList) ∧
        (numeral = w ↔ (w.toList.head? = some '0' → w = "0"))) ∧
    (w.toList.all Char.isDigit = true → 2 ^ 63 ≤ Nat.ofDigitChars 10 w.toList 0 →
      ∃ p, parseMarkers operatorRegistry (unquotedMarker fieldPath args) =
        .error (.malformed ("integer literal " ++ Text.quoted w ++ " out of range at position: " ++
          p.text) p)) := by
  have hne : w.toList ≠ [] := by simpa using hw.ne_empty
  refine ⟨fun hword => ?_, fun hall hlt => ?_, fun hall hge => ?_⟩
  · obtain ⟨literal, hliteral, hscalar, htext⟩ := exists_literal_of_word hword
    rw [parseMarkers_of_literal hname hreserved hw hargs hliteral hscalar, htext]
  · have hdigits := List.all_eq_true.1 hall
    have hread := Reader.integer?_digits hdigits hne
    rw [String.ofList_toList, if_pos hlt] at hread
    have hliteral : (unquoted ("default", w)).value.literal? .any =
        some (.int (Nat.ofDigitChars 10 w.toList 0)) := by
      simp [unquoted, Value.literal?, Scalar.literal?, bareKind_of_digits hw.ne_empty hall, hread]
    refine ⟨_, rfl, parseMarkers_of_literal hname hreserved hw hargs hliteral rfl, ?_,
      Reader.toString_ofDigitChars_eq_iff hdigits hw.ne_empty⟩
    rw [Nat.toString_eq_ofList_toDigits, String.toList_ofList]
    exact Reader.exists_zeros hdigits hne
  · have hread := Reader.integer?_digits (List.all_eq_true.1 hall) hne
    rw [String.ofList_toList, if_neg (by omega)] at hread
    exact parseMarkers_of_outOfRange hname hw hargs (bareKind_of_digits hw.ne_empty hall) hread

/-- A word behind other signs, a number and one that does not fit, each at another place. -/
theorem parseMarkers_unquotedDefault_reordered :
    parseMarkers operatorRegistry "+operator-builder:field:default=v1=+x\x7d,type=string,name=x" =
      .ok ([⟨fieldPath,
        .field { name := "x", type := .string, default := some (.string "v1=+x\x7d") }, .origin⟩],
        []) ∧
    parseMarkers operatorRegistry "+operator-builder:field:type=string,default=10,name=x" =
      .ok ([⟨fieldPath, .field { name := "x", type := .string, default := some (.string "10") },
        .origin⟩], []) ∧
    ∃ p, parseMarkers operatorRegistry
        "+operator-builder:field:name=x,default=9223372036854775808,type=string" =
      .error (.malformed ("integer literal " ++ Text.quoted "9223372036854775808" ++
        " out of range at position: " ++ p.text) p) := by
  have hname : Lexeme.IsUnquoted "x" := by decide
  have hreserved : isReserved "x" = false := by decide
  have hword : Lexeme.IsUnquoted "v1=+x\x7d" := by decide
  have hnumber : Lexeme.IsUnquoted "10" := by decide
  have hlarge : Lexeme.IsUnquoted "9223372036854775808" := by decide
  have hfirst : [("default", "v1=+x\x7d"), ("type", "string"), ("name", "x")].Perm
      [("name", "x"), ("type", "string"), ("default", "v1=+x\x7d")] := by decide
  have hsecond : [("type", "string"), ("default", "10"), ("name", "x")].Perm
      [("name", "x"), ("type", "string"), ("default", "10")] := by decide
  have hthird : [("name", "x"), ("default", "9223372036854775808"), ("type", "string")].Perm
      [("name", "x"), ("type", "string"), ("default", "9223372036854775808")] := by decide
  obtain ⟨hkept, -, -⟩ := parseMarkers_unquotedDefault hname hreserved hword hfirst
  obtain ⟨-, hnumeral, -⟩ := parseMarkers_unquotedDefault hname hreserved hnumber hsecond
  obtain ⟨-, -, hfault⟩ := parseMarkers_unquotedDefault hname hreserved hlarge hthird
  obtain ⟨numeral, rfl, hread, -⟩ := hnumeral (by decide) (by decide)
  exact ⟨hkept (by decide), hread, hfault (by decide) (by decide)⟩

/-- Zeros in front of a number are lost, and a number that does not fit is a fault, though the type
asks for a text. -/
theorem unquotedDefault_changed :
    Lexeme.IsUnquoted "007" ∧
    parseMarkers operatorRegistry ("+operator-builder:field:name=x,type=string,default=" ++ "007") =
      .ok ([⟨fieldPath, .field { name := "x", type := .string, default := some (.string "7") },
        .origin⟩], []) ∧
    Lexeme.IsUnquoted "99999999999999999999" ∧
    (∃ f, parseMarkers operatorRegistry
      ("+operator-builder:field:name=x,type=string,default=" ++ "99999999999999999999") =
        .error f) ∧
    ¬ ∀ w, Lexeme.IsUnquoted w →
      parseMarkers operatorRegistry ("+operator-builder:field:name=x,type=string,default=" ++ w) =
        .ok ([⟨fieldPath, .field { name := "x", type := .string, default := some (.string w) },
          .origin⟩], []) := by
  have hname : Lexeme.IsUnquoted "x" := by decide
  have hzeros : Lexeme.IsUnquoted "007" := by decide
  have hlarge : Lexeme.IsUnquoted "99999999999999999999" := by decide
  have hliteral : (unquoted ("default", "007")).value.literal? .any = some (.int 7) := rfl
  have hread := parseMarkers_of_literal hname (by decide) hzeros (.refl _) hliteral rfl
  obtain ⟨p, hfault⟩ :=
    parseMarkers_of_outOfRange hname hlarge (.refl _) (by decide) (by decide)
  rw [unquotedMarker_ordered] at hread hfault
  refine ⟨hzeros, hread, hlarge, ⟨_, hfault⟩, fun h => ?_⟩
  have hkept := h "99999999999999999999" hlarge
  rw [hfault] at hkept
  cases hkept

end

end ManifestMarkers
