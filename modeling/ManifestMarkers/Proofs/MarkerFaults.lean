import ManifestMarkers.Proofs.MarkerSteps

/-!
# Syntax faults

The reader of markers has branches for lexemes out of order, and for sequences that break off. On
the lexemes of a text it gets to none of them: an error of the lexer and an integer out of range are
the only syntax faults.

* `Reader.reach` is the mode after some lexemes, and `Reader.mem_run` gives the lexeme that an item
  comes from, with the mode that it is read in.
* `Reader.guided_lex`: the lexemes of a text come as they are expected, up to a terminal one.
* `syntaxFaults_of_lex` has what follows for faults.
-/

namespace ManifestMarkers

namespace Reader

variable {registry : Registry} {mode next : Mode} {l : Lexeme} {f : Fault}

/-! ### The lexeme an item comes from -/

/-- What taking a lexeme adds to the items. -/
def Outcome.item? : Outcome → Option Item
  | .go found _ => found
  | .stop f => some (.fault f)

/-- The mode after the lexemes, unless the reader stops at one of them or one is terminal. -/
def reach (registry : Registry) (mode : Mode) : List Lexeme → Option Mode
  | [] => some mode
  | l :: ls => match step registry mode l with
    | .go _ next => if l.kind.isTerminal then none else reach registry next ls
    | .stop _ => none

theorem reach_cons_eq_some_iff {ls : List Lexeme} :
    reach registry mode (l :: ls) = some next ↔ l.kind.isTerminal = false ∧
      ∃ found m, step registry mode l = .go found m ∧ reach registry m ls = some next := by
  cases hs : step registry mode l with
  | stop f => simp [reach, hs]
  | go found m =>
    cases hl : l.kind.isTerminal with
    | true => simp [reach, hs, hl]
    | false =>
      simp only [reach, hs, hl, Bool.false_eq_true, if_false, true_and]
      refine ⟨fun h => ⟨found, m, rfl, h⟩, ?_⟩
      rintro ⟨found', m', hm, h⟩
      cases hm
      exact h

/-- Every item comes from a lexeme that the reader gets to, or from the end of the sequence. -/
theorem mem_run {ls : List Lexeme} {item : Item} (h : item ∈ run registry mode ls) :
    (∃ before l after m, ls = before ++ l :: after ∧ reach registry mode before = some m ∧
        (step registry m l).item? = some item) ∨
      ∃ m, reach registry mode ls = some m ∧ finish m = some item := by
  induction ls generalizing mode with
  | nil => exact .inr ⟨mode, rfl, by simpa [run] using h⟩
  | cons l ls ih =>
    cases hs : step registry mode l with
    | stop f =>
      rw [run_cons_of_stop hs] at h
      obtain rfl := List.mem_singleton.1 h
      exact .inl ⟨[], l, ls, mode, rfl, rfl, by rw [hs]; rfl⟩
    | go found next =>
      simp only [run, hs, List.mem_append, Option.mem_toList] at h
      rcases h with h | h
      · exact .inl ⟨[], l, ls, mode, rfl, rfl, by rw [hs]; exact h⟩
      · cases hl : l.kind.isTerminal with
        | true => simp [hl] at h
        | false =>
          have hreach {before : List Lexeme} {m : Mode} (hm : reach registry next before = some m) :
              reach registry mode (l :: before) = some m :=
            reach_cons_eq_some_iff.2 ⟨hl, found, next, hs, hm⟩
          have h := ih (by simpa [hl] using h)
          rcases h with ⟨before, l', after, m, rfl, hm, hitem⟩ | ⟨m, hm, hf⟩
          · exact .inl ⟨l :: before, l', after, m, rfl, hreach hm, hitem⟩
          · exact .inr ⟨m, hreach hm, hf⟩

/-! ### Lexemes of a text -/

theorem Guided.of_reach {P : Mode → Prop} {before after : List Lexeme} {m : Mode}
    (h : Guided registry P mode (before ++ after)) (hm : reach registry mode before = some m) :
    Guided registry P m after := by
  induction before generalizing mode with
  | nil => cases hm; exact h
  | cons l before ih =>
    obtain ⟨hl, found, next, hs, hnext⟩ := reach_cons_eq_some_iff.1 hm
    exact ih (h.2 hl found next hs) hnext

/-- The terminal lexeme of a text is expected where it comes. -/
theorem mem_expected_of_follows {m : Lexeme.Mode} (hf : Follows m mode)
    (hl : m = .text ∧ l.kind = .eof ∨ m.isRecognised ∧ l.kind = .error) :
    l.kind ∈ mode.expected := by
  cases hf with
  | idle =>
    rcases hl with ⟨-, hl⟩ | ⟨hm, -⟩
    · simp [hl, Mode.expected]
    · exact hm.elim
  | @header hasScope _ scopes h =>
    rcases hl with ⟨hm, -⟩ | ⟨hm, hl⟩
    · cases hm
    · -- one segment of a marker that is recognised has been read
      cases hasScope with
      | false => exact hm.elim
      | true => simp_all [Mode.expected]
  | skipping h =>
    rcases hl with ⟨rfl, -⟩ | ⟨-, hl⟩
    · cases h
    · simp [hl, Mode.expected]
  | afterArg | value | slice | argument =>
    rcases hl with ⟨hm, -⟩ | ⟨-, hl⟩
    · cases hm
    · simp [hl, Mode.expected]

/-- The lexemes of a text come as they are expected, and do not break off before a terminal one. -/
theorem guided_lex (registry : Registry) (text : String) :
    Guided registry (fun _ => False) .idle (Lexeme.lex text) := by
  obtain ⟨es, l, m, hlex, hmoves, hl⟩ :=
    (Lexeme.Reading.start text.toList).toEnd_moves (Lexeme.Reading.isReady_start _)
  rw [show Lexeme.lex text = es ++ [l] from hlex]
  refine guided_append (guided_moves hmoves .idle rfl) fun next hnext => ?_
  refine ⟨mem_expected_of_follows hnext hl, fun hterminal => ?_⟩
  rcases hl with ⟨-, hl⟩ | ⟨-, hl⟩ <;> simp [hl, Lexeme.Kind.isTerminal] at hterminal

/-- Wherever the reader gets to in the lexemes of a text, there is a next lexeme, and it is
expected. -/
theorem exists_cons_of_reach {text : String} {before after : List Lexeme} {m : Mode}
    (h : Lexeme.lex text = before ++ after) (hm : reach registry .idle before = some m) :
    ∃ l rest, after = l :: rest ∧ l.kind ∈ m.expected := by
  have hguided := Guided.of_reach (h ▸ guided_lex registry text) hm
  cases after with
  | nil => exact hguided.elim
  | cons l rest => exact ⟨l, rest, rfl, hguided.1⟩

/-- Every item of a text comes from a lexeme that is expected. -/
theorem mem_readMarkers_lex {text : String} {item : Item}
    (h : item ∈ readMarkers registry (Lexeme.lex text)) :
    ∃ before l after m, Lexeme.lex text = before ++ l :: after ∧
      reach registry .idle before = some m ∧ l.kind ∈ m.expected ∧
      (step registry m l).item? = some item := by
  rcases mem_run h with ⟨before, l, after, m, htext, hm, hitem⟩ | ⟨m, hm, -⟩
  · obtain ⟨l', rest, hcons, hl⟩ := exists_cons_of_reach htext hm
    obtain ⟨rfl, rfl⟩ := List.cons.inj hcons
    exact ⟨before, l, after, m, htext, hm, hl, hitem⟩
  · obtain ⟨l, rest, hcons, -⟩ := exists_cons_of_reach (List.append_nil _).symm hm
    cases hcons

/-! ### Faults of arguments -/

end Reader

/-- The fault is one of the syntax. -/
def Fault.IsSyntax : Fault → Prop
  | malformed _ _ => True
  | _ => False

theorem FieldType.not_isSyntax_of_ofText {text : String} {f : Fault} (h : ofText text = .error f) :
    ¬ f.IsSyntax := by
  unfold ofText at h
  split at h <;> cases h
  exact id

theorem Field.not_isSyntax_of_assign {g : Field} {path name : String} {value : Literal} {f : Fault}
    (h : (g.assign path name value).2 = some f) : ¬ f.IsSyntax := by
  unfold assign at h
  split at h
  · cases h
  · split at h
    · cases h
    · next he =>
      cases h
      exact FieldType.not_isSyntax_of_ofText he
  · cases h
  · cases h
  · cases h
  · cases h
    exact id

theorem Resource.not_isSyntax_of_assign {r : Resource} {name : String} {value : Literal} {f : Fault}
    (h : (r.assign name value).2 = some f) : ¬ f.IsSyntax := by
  unfold assign at h
  split at h <;> cases h
  exact id

theorem Marker.not_isSyntax_of_setArg {m : Marker} {name : String} {value : Literal} {f : Fault}
    (h : m.setArg name value = .error f) : ¬ f.IsSyntax := by
  unfold setArg at h
  split at h
  · cases h
  · next e hassign =>
    cases h
    have hfault := congrArg Prod.snd hassign
    cases m with
    | field g | collectionField g => exact Field.not_isSyntax_of_assign hfault
    | resource r => exact Resource.not_isSyntax_of_assign hfault

theorem Field.not_isSyntax_of_patternFault? {g : Field} {f : Fault}
    (h : g.patternFault? = some f) : ¬ f.IsSyntax := by
  unfold patternFault? at h
  split at h
  · split at h <;> cases h
    exact id
  · cases h

theorem Field.not_isSyntax_of_validate {g : Field} {p : Point} {f : Fault}
    (h : (g.validate p).2 = some f) : ¬ f.IsSyntax := by
  unfold validate at h
  split at h
  · cases h
    exact id
  · split at h
    · exact not_isSyntax_of_patternFault? h
    · split at h
      · exact not_isSyntax_of_patternFault? h
      · next he =>
        cases h
        unfold FieldType.coerce at he
        split at he <;> cases he
        exact id

theorem Marker.not_isSyntax_of_validate {m : Marker} {p : Point} {f : Fault}
    (h : (m.validate p).2 = some f) : ¬ f.IsSyntax := by
  cases m with
  | field g => exact Field.not_isSyntax_of_validate h
  | collectionField g => exact Field.not_isSyntax_of_validate h
  | resource r =>
    simp only [validate, Resource.validate] at h
    split at h <;> cases h
    exact id

namespace Reader

variable {registry : Registry} {mode next : Mode} {l : Lexeme} {f : Fault} {m : OpenMarker}
  {spec : ArgSpec}

theorem not_isSyntax_of_beginArg (h : (beginArg m l).item? = some (.fault f)) :
    ¬ f.IsSyntax := by
  unfold beginArg at h
  split at h
  · cases h; exact id
  · split at h <;> cases h
    exact id

theorem not_isSyntax_of_endArg {value : Literal}
    (h : (endArg m spec value).item? = some (.fault f)) : ¬ f.IsSyntax := by
  unfold endArg at h
  split at h
  · cases h
  · next he =>
    cases h
    exact Marker.not_isSyntax_of_setArg he

theorem not_isSyntax_of_closed (h : (closed m).item? = some (.fault f)) : ¬ f.IsSyntax := by
  unfold closed at h
  split at h
  · cases h
  · next he =>
    cases h
    unfold close at he
    split at he
    · cases he; exact id
    · split at he
      · cases he
      · next hv =>
        cases he
        exact Marker.not_isSyntax_of_validate (congrArg Prod.snd hv)

/-! ### Syntax faults -/

/-- The wording for an integer literal that does not fit. -/
def outOfRange (l : Lexeme) : String :=
  "integer literal " ++ Text.quoted l.value ++ " out of range at position: " ++ l.position.text

theorem isPrefix_append (a b c d : String) : a.toList <+: (a ++ b ++ c ++ d).toList := by
  simp only [String.toList_append, List.append_assoc]
  exact List.prefix_append ..

theorem isPrefix_outOfRange (l : Lexeme) : "integer literal ".toList <+: (outOfRange l).toList :=
  isPrefix_append ..

/-- Why a syntax fault arises at a lexeme: the lexeme is an error, or an integer out of range. -/
def IsSyntaxFault (l : Lexeme) (f : Fault) : Prop :=
  l.kind = .error ∧ f = .malformed l.value l.position ∨
    l.kind = .integerLiteral ∧ integer? l.value = none ∧ f = .malformed (outOfRange l) l.position

theorem isSyntaxFault_of_naturalLiteral (h : naturalLiteral l = .error f) :
    IsSyntaxFault l f := by
  unfold naturalLiteral at h
  split at h
  · next hk =>
    split at h
    · cases h
    · next hnone => exact .inr ⟨hk, hnone, (Except.error.inj h).symm⟩
  · cases h
  · cases h

theorem isSyntaxFault_of_scalar {name : String} {kind : ArgKind} (hf : f.IsSyntax)
    (h : scalar name kind l = .error f) : IsSyntaxFault l f := by
  unfold scalar at h
  split at h
  · cases h
  · split at h
    · next he =>
      cases h
      exact isSyntaxFault_of_naturalLiteral he
    · split at h <;> cases h
      exact hf.elim

/-- A lexeme that is expected makes no other syntax faults. -/
theorem isSyntaxFault_of_item? (hf : f.IsSyntax) (hl : l.kind ∈ mode.expected)
    (h : (step registry mode l).item? = some (.fault f)) : IsSyntaxFault l f := by
  have herror (hk : l.kind = .error) (h : faultOf l = f) : IsSyntaxFault l f := .inl ⟨hk, h.symm⟩
  cases mode with
  | idle =>
    simp only [Mode.expected, List.mem_cons, List.not_mem_nil, or_false] at hl
    rcases hl with hk | hk | hk <;> simp only [step, hk] at h <;> cases h
  | header position scopes =>
    simp only [step] at h
    split at h
    · cases h
    · split at h
      · exact absurd hf (not_isSyntax_of_beginArg h)
      · cases h
    · cases h
    · next hk =>
      split at h
      · exact herror hk (by cases h; rfl)
      · cases h
    · cases h
    · cases h
    · cases h
  | skipping position path =>
    simp only [step] at h
    split at h <;> cases h
  | value m spec named =>
    by_cases hs : l.kind.isScalar = true
    · rw [step_value_scalar hs] at h
      split at h
      · exact absurd hf (not_isSyntax_of_endArg h)
      · next he => cases h; exact isSyntaxFault_of_scalar hf he
    · -- the first three expected kinds are scalars
      simp only [Mode.expected, List.mem_cons, List.not_mem_nil, or_false] at hl
      rcases hl with hk | hk | hk | hk | hk
      · simp [hk, Lexeme.Kind.isScalar] at hs
      · simp [hk, Lexeme.Kind.isScalar] at hs
      · simp [hk, Lexeme.Kind.isScalar] at hs
      · simp only [step, hk] at h
        split at h <;> cases h
        exact hf.elim
      · simp only [step, hk] at h
        exact herror hk (by cases h; rfl)
  | slice m spec element start items =>
    by_cases hs : l.kind.isScalar = true
    · rw [step_slice_scalar hs] at h
      split at h
      · cases h
      · next he => cases h; exact isSyntaxFault_of_scalar hf he
    · simp only [Mode.expected, List.mem_cons, List.not_mem_nil, or_false] at hl
      rcases hl with hk | hk | hk | hk | hk | hk
      · simp [hk, Lexeme.Kind.isScalar] at hs
      · simp [hk, Lexeme.Kind.isScalar] at hs
      · simp [hk, Lexeme.Kind.isScalar] at hs
      · simp only [step, hk] at h
        cases h
      · simp only [step, hk] at h
        exact absurd hf (not_isSyntax_of_endArg h)
      · simp only [step, hk] at h
        exact herror hk (by cases h; rfl)
  | argument m =>
    simp only [Mode.expected, List.mem_cons, List.not_mem_nil, or_false] at hl
    rcases hl with hk | hk | hk <;> simp only [step, hk] at h
    · exact absurd hf (not_isSyntax_of_beginArg h)
    · exact absurd hf (not_isSyntax_of_closed h)
    · exact herror hk (by cases h; rfl)

end Reader

/-- A terminal lexeme of a text is the last one. -/
theorem Lexeme.getLast?_of_isTerminal {text : String} {before after : List Lexeme} {l : Lexeme}
    (h : lex text = before ++ l :: after) (hl : l.kind.isTerminal = true) :
    (lex text).getLast? = some l := by
  rcases List.eq_nil_or_concat after with rfl | ⟨init, last, rfl⟩
  · rw [h, List.getLast?_concat]
  · have hinit : lex text = (before ++ l :: init) ++ [last] := by simp [h]
    have := not_isTerminal_of_lex hinit l (by simp)
    simp [hl] at this

/-- Texts that begin differently. -/
theorem not_isPrefix_of_isPrefix {a b cs : List Char} (ha : a <+: cs) (hab : ¬ a <+: b)
    (hba : ¬ b <+: a) : ¬ b <+: cs := fun hb =>
  (List.prefix_or_prefix_of_prefix ha hb).elim hab hba

/-- On the lexemes of a text, a syntax fault carries the message and the place of the error that
ends the stream, or says that an integer literal is out of range. Messages about unexpected
lexemes and missing values are never given: wherever the reader gets to there is a next lexeme,
which is one of those expected in its mode, and no error outside of markers. -/
theorem syntaxFaults_of_lex (registry : Registry) (text : String) :
    (∀ message position,
      .fault (.malformed message position) ∈ readMarkers registry (Lexeme.lex text) →
      ((∃ l, (Lexeme.lex text).getLast? = some l ∧ l.kind = .error ∧ message = l.value ∧
          position = l.position) ∨
        ∃ l ∈ Lexeme.lex text, l.kind = .integerLiteral ∧ Reader.integer? l.value = none ∧
          message = "integer literal " ++ Text.quoted l.value ++ " out of range at position: " ++
            l.position.text ∧ position = l.position) ∧
      ¬ "unexpected ".toList <+: message.toList ∧
      ¬ "missing value for argument ".toList <+: message.toList) ∧
    ∀ before after mode, Lexeme.lex text = before ++ after →
      Reader.reach registry .idle before = some mode →
      ∃ l rest, after = l :: rest ∧ l.kind ∈ mode.expected ∧ (mode = .idle → l.kind ≠ .error) := by
  refine ⟨fun message position h => ?_, fun before after mode htext hm => ?_⟩
  · obtain ⟨before, l, after, m, htext, -, hl, hitem⟩ := Reader.mem_readMarkers_lex h
    have hmem : l ∈ Lexeme.lex text := by simp [htext]
    have hsyntax : (Fault.malformed message position).IsSyntax := trivial
    rcases Reader.isSyntaxFault_of_item? hsyntax hl hitem with ⟨hk, hf⟩ | ⟨hk, hnone, hf⟩
    · obtain ⟨hmessage, hposition⟩ := Fault.malformed.inj hf
      have hlast := Lexeme.getLast?_of_isTerminal htext (by rw [hk]; rfl)
      -- complaints of the lexer begin with words that none of the two messages begins with
      have hbegin := (Lexeme.Reading.start text.toList).complaint_of_mem_toEnd l hmem hk
      rw [← hmessage] at hbegin
      refine ⟨.inl ⟨l, hlast, hk, hmessage, hposition⟩, ?_, ?_⟩
      · exact not_isPrefix_of_isPrefix hbegin (by decide) (by decide)
      · exact not_isPrefix_of_isPrefix hbegin (by decide) (by decide)
    · obtain ⟨hmessage, hposition⟩ := Fault.malformed.inj hf
      have hbegin := Reader.isPrefix_outOfRange l
      rw [← hmessage] at hbegin
      refine ⟨.inr ⟨l, hmem, hk, hnone, hmessage, hposition⟩, ?_, ?_⟩
      · exact not_isPrefix_of_isPrefix hbegin (by decide) (by decide)
      · exact not_isPrefix_of_isPrefix hbegin (by decide) (by decide)
  · obtain ⟨l, rest, hafter, hl⟩ := Reader.exists_cons_of_reach htext hm
    refine ⟨l, rest, hafter, hl, ?_⟩
    rintro rfl hk
    simp [hk, Reader.Mode.expected] at hl

theorem syntaxFaults_of_lex_missing_value : ∃ message position,
    .fault (.malformed message position) ∈
        readMarkers operatorRegistry (Lexeme.lex "+operator-builder:field:name=") ∧
      ¬ "unexpected ".toList <+: message.toList ∧
      ¬ "missing value for argument ".toList <+: message.toList ∧
      ∃ l rest, Lexeme.lex "+operator-builder:field:name=" = l :: rest ∧
        l.kind ∈ Reader.Mode.idle.expected ∧ l.kind ≠ .error := by
  have h : (readMarkers operatorRegistry (Lexeme.lex "+operator-builder:field:name=")).any
      (fun | .fault (.malformed _ _) => true | _ => false) = true := by decide
  obtain ⟨item, hitem, hmalformed⟩ := List.any_eq_true.1 h
  obtain ⟨hfault, hreach⟩ :=
    syntaxFaults_of_lex operatorRegistry "+operator-builder:field:name="
  obtain ⟨l, rest, htext, hl, herror⟩ := hreach [] _ .idle rfl rfl
  split at hmalformed
  · next message position =>
    obtain ⟨-, hunexpected, hmissing⟩ := hfault message position hitem
    exact ⟨message, position, hitem, hunexpected, hmissing, l, rest, htext, hl, herror rfl⟩
  · cases hmalformed

end ManifestMarkers
