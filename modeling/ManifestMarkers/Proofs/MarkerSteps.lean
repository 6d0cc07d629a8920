import ManifestMarkers.Marker.Reader
import ManifestMarkers.Proofs.LexemeSteps

/-!
# The reader of markers behind the lexer

What the reader does with the lexemes of a text, block by block.

* `Reader.Advances` says where a few lexemes lead: to a mode, with some items, or to a fault. Either
  way the lexemes behind them are not looked at.
* `Reader.Mode.expected` has the kinds of lexemes that may come in a mode, and `Reader.Guided` says
  that no other lexeme comes.
* `Reader.Follows` relates the modes of the reader to those of the lexer; every move of the lexer
  keeps them together and emits what is expected (`Reader.guided_move`), so a run does
  (`Reader.guided_moves`).
-/

namespace ManifestMarkers

/-- Whether the lexer is inside the arguments of a marker. -/
def Lexeme.Mode.isArguments : Lexeme.Mode → Bool
  | .text | .header _ => false
  | _ => true

namespace Reader

variable {registry : Registry}

/-! ### Taking a few lexemes -/

/-- After the lexemes `es` and the items `items` the reader goes on in the mode `next`. -/
def Passes (registry : Registry) (mode : Mode) (es : List Lexeme) (items : List Item)
    (next : Mode) : Prop :=
  ∀ ls, run registry mode (es ++ ls) = items ++ run registry next ls

/-- The reader stops with the fault `f` inside of the lexemes `es`. -/
def Stops (registry : Registry) (mode : Mode) (es : List Lexeme) (items : List Item)
    (f : Fault) : Prop :=
  ∀ ls, run registry mode (es ++ ls) = items ++ [.fault f]

/-- The lexemes `es` lead to a mode with the property `P`, or to a fault. -/
def Advances (registry : Registry) (P : Mode → Prop) (mode : Mode) (es : List Lexeme) : Prop :=
  (∃ items next, P next ∧ Passes registry mode es items next) ∨
    ∃ items f, Stops registry mode es items f

theorem advances_nil {P : Mode → Prop} {mode : Mode} (h : P mode) :
    Advances registry P mode [] := .inl ⟨[], mode, h, fun _ => rfl⟩

theorem run_cons_of_go {mode next : Mode} {l : Lexeme} {found : Option Item}
    (hl : l.kind.isTerminal = false) (h : step registry mode l = .go found next)
    (ls : List Lexeme) :
    run registry mode (l :: ls) = found.toList ++ run registry next ls := by
  simp [run, h, hl]

theorem run_cons_of_stop {mode : Mode} {l : Lexeme} {f : Fault}
    (h : step registry mode l = .stop f) (ls : List Lexeme) :
    run registry mode (l :: ls) = [.fault f] := by
  simp [run, h]

theorem advances_cons {P : Mode → Prop} {mode : Mode} {l : Lexeme} {es : List Lexeme}
    (hl : l.kind.isTerminal = false)
    (h : ∀ found next, step registry mode l = .go found next → Advances registry P next es) :
    Advances registry P mode (l :: es) := by
  cases hs : step registry mode l with
  | stop f => exact .inr ⟨[], f, fun ls => run_cons_of_stop hs (es ++ ls)⟩
  | go found next =>
    rcases h found next hs with ⟨items, m, hm, hes⟩ | ⟨items, f, hes⟩
    · refine .inl ⟨found.toList ++ items, m, hm, fun ls => ?_⟩
      rw [List.cons_append, run_cons_of_go hl hs, hes, List.append_assoc]
    · refine .inr ⟨found.toList ++ items, f, fun ls => ?_⟩
      rw [List.cons_append, run_cons_of_go hl hs, hes, List.append_assoc]

/-! ### Behind the lexer -/

/-- What the reader may be doing while the lexer is in a mode. -/
inductive Follows : Lexeme.Mode → Mode → Prop
  | idle : Follows .text .idle
  | header {hasScope : Bool} {position : Point} {scopes : List String}
      (h : hasScope = !scopes.isEmpty) : Follows (.header hasScope) (.header position scopes)
  | afterArg {m : OpenMarker} {spec : ArgSpec} {named : Point} :
      Follows .afterArg (.value m spec named)
  | value {m : OpenMarker} {spec : ArgSpec} {named : Point} : Follows .value (.value m spec named)
  | slice {turn : Lexeme.SliceTurn} {m : OpenMarker} {spec : ArgSpec} {element : ArgKind}
      {start : Lexeme} {items : List Literal} :
      Follows (.slice turn) (.slice m spec element start items)
  | argument {m : OpenMarker} : Follows .afterValue (.argument m)
  | skipping {mode : Lexeme.Mode} {position : Point} {path : String}
      (h : mode.isArguments = true) : Follows mode (.skipping position path)

theorem follows_beginArg {m : OpenMarker} {l : Lexeme} {found : Option Item} {next : Mode}
    (h : beginArg m l = .go found next) : Follows .afterArg next := by
  unfold beginArg at h
  split at h
  · cases h
  · split at h
    · cases h
    · cases h; exact .afterArg

theorem follows_endArg {m : OpenMarker} {spec : ArgSpec} {value : Literal} {found : Option Item}
    {next : Mode} (h : endArg m spec value = .go found next) : Follows .afterValue next := by
  unfold endArg at h
  split at h
  · cases h; exact .argument
  · cases h

theorem follows_closed {m : OpenMarker} {found : Option Item} {next : Mode}
    (h : closed m = .go found next) : Follows .text next := by
  unfold closed at h
  split at h
  · cases h; exact .idle
  · cases h

/-- A scalar as the value of an argument. -/
theorem step_value_scalar {m : OpenMarker} {spec : ArgSpec} {named : Point} {l : Lexeme}
    (hl : l.kind.isScalar = true) :
    step registry (.value m spec named) l = match scalar spec.name spec.kind l with
      | .ok literal => endArg m spec literal
      | .error e => .stop e := by
  cases hs : scalar spec.name spec.kind l <;> cases hk : l.kind <;>
    simp_all [step, Lexeme.Kind.isScalar]

/-- A scalar as an element of a slice. -/
theorem step_slice_scalar {m : OpenMarker} {spec : ArgSpec} {element : ArgKind} {start : Lexeme}
    {items : List Literal} {l : Lexeme} (hl : l.kind.isScalar = true) :
    step registry (.slice m spec element start items) l = match scalar spec.name element l with
      | .ok literal => .go none (.slice m spec element start (items ++ [literal]))
      | .error e => .stop e := by
  cases hs : scalar spec.name element l <;> cases hk : l.kind <;>
    simp_all [step, Lexeme.Kind.isScalar]

/-- A marker that is not registered is skipped up to its end. -/
theorem step_skipping {position : Point} {path : String} {l : Lexeme}
    (hl : l.kind.isTerminal = false) (he : l.kind ≠ .markerEnd) :
    step registry (.skipping position path) l = .go none (.skipping position path) := by
  cases hk : l.kind <;> simp_all [step, Lexeme.Kind.isTerminal]

theorem follows_value_scalar {m : OpenMarker} {spec : ArgSpec} {named : Point} {l : Lexeme}
    {found : Option Item} {next : Mode} (hl : l.kind.isScalar = true)
    (h : step registry (.value m spec named) l = .go found next) : Follows .afterValue next := by
  rw [step_value_scalar hl] at h
  split at h
  · exact follows_endArg h
  · cases h

theorem isTerminal_eq_false_of_isScalar {k : Lexeme.Kind} (h : k.isScalar = true) :
    k.isTerminal = false := by
  revert h
  cases k <;> decide

theorem ne_markerEnd_of_isScalar {k : Lexeme.Kind} (h : k.isScalar = true) : k ≠ .markerEnd := by
  rintro rfl
  cases h

/-! ### Lexemes in their order -/

/-- The kinds of lexemes that may come in a mode. The other branches of `step` are for lexemes out
of order. -/
def Mode.expected : Mode → List Lexeme.Kind
  | .idle => [.comment, .markerStart, .eof]
  | .header _ scopes =>
    if scopes.isEmpty then [.scope, .warning] else [.scope, .separator, .arg, .error]
  | .skipping _ _ =>
    [.stringLiteral, .integerLiteral, .boolLiteral, .sliceBegin, .sliceDelimiter, .sliceEnd, .arg,
      .markerEnd, .error]
  | .value _ _ _ => [.stringLiteral, .integerLiteral, .boolLiteral, .sliceBegin, .error]
  | .slice _ _ _ _ _ =>
    [.stringLiteral, .integerLiteral, .boolLiteral, .sliceDelimiter, .sliceEnd, .error]
  | .argument _ => [.arg, .markerEnd, .error]

/-- Every lexeme that the reader gets to is expected, and the mode after all of them has the
property `P`. -/
def Guided (registry : Registry) (P : Mode → Prop) : Mode → List Lexeme → Prop
  | mode, [] => P mode
  | mode, l :: ls => l.kind ∈ mode.expected ∧ (l.kind.isTerminal = false →
      ∀ found next, step registry mode l = .go found next → Guided registry P next ls)

theorem guided_append {P Q : Mode → Prop} {mode : Mode} {es es' : List Lexeme}
    (h : Guided registry P mode es) (h' : ∀ next, P next → Guided registry Q next es') :
    Guided registry Q mode (es ++ es') := by
  induction es generalizing mode with
  | nil => exact h' mode h
  | cons l es ih => exact ⟨h.1, fun hl found next hs => ih (h.2 hl found next hs)⟩

/-- A single lexeme that is expected. -/
theorem guided_single {P : Mode → Prop} {mode : Mode} {k : Lexeme.Kind} {es : List Lexeme}
    (hes : es.map Lexeme.kind = [k]) (hk : k ∈ mode.expected)
    (h : ∀ l found next, l.kind = k → step registry mode l = .go found next → P next) :
    Guided registry P mode es := by
  obtain ⟨l, rfl, hl⟩ := List.map_eq_singleton_iff.1 hes
  exact ⟨by rw [hl]; exact hk, fun _ found next hs => h l found next hl hs⟩

/-- A lexeme inside a marker that is not registered. -/
theorem guided_skipping {m : Lexeme.Mode} {position : Point} {path : String} {k : Lexeme.Kind}
    {es : List Lexeme} (hes : es.map Lexeme.kind = [k])
    (hk : k ∈ (Mode.skipping position path).expected) (hl : k.isTerminal = false)
    (he : k ≠ .markerEnd) (hm : m.isArguments = true) :
    Guided registry (Follows m) (.skipping position path) es := by
  refine guided_single hes hk fun l found next hlk hs => ?_
  subst hlk
  rw [step_skipping hl he] at hs
  cases hs
  exact .skipping hm

theorem mem_expected_of_isScalar {k : Lexeme.Kind} (h : k.isScalar = true) :
    (∀ m spec named, k ∈ (Mode.value m spec named).expected) ∧
      (∀ m spec element start items, k ∈ (Mode.slice m spec element start items).expected) ∧
      ∀ position path, k ∈ (Mode.skipping position path).expected := by
  cases k <;> simp_all [Mode.expected, Lexeme.Kind.isScalar]

/-- The lexemes of a move come as the reader expects them, and leave it behind the lexer. -/
theorem guided_move {m m' : Lexeme.Mode} {ks : List Lexeme.Kind} (h : Lexeme.Move m ks m')
    {mode : Mode} (hf : Follows m mode) {es : List Lexeme} (hes : es.map Lexeme.kind = ks) :
    Guided registry (Follows m') mode es := by
  -- in every case the reader is in the mode of the lexer, or skips the arguments
  cases h with
  | skip =>
    obtain rfl := List.map_eq_nil_iff.1 hes
    exact hf
  | assign =>
    obtain rfl := List.map_eq_nil_iff.1 hes
    cases hf with
    | afterArg => exact .value
    | skipping => exact .skipping rfl
  | start =>
    cases hf with
    | idle =>
      refine guided_single hes (by simp [Mode.expected]) fun l found next hl hs => ?_
      simp only [step, hl] at hs
      cases hs
      exact .header rfl
    | skipping h => cases h
  | startInComment =>
    obtain ⟨l, es, rfl, hl, hes⟩ := List.map_eq_cons_iff.1 hes
    cases hf with
    | idle =>
      refine ⟨by simp [hl, Mode.expected], fun _ found next hs => ?_⟩
      simp only [step, hl] at hs
      cases hs
      refine guided_single hes (by simp [Mode.expected]) fun l found next hl hs => ?_
      simp only [step, hl] at hs
      cases hs
      exact .header rfl
    | skipping h => cases h
  | scope hasScope =>
    obtain ⟨l, es, rfl, hl, hes⟩ := List.map_eq_cons_iff.1 hes
    cases hf with
    | header h =>
      refine ⟨by rw [hl, Mode.expected]; split <;> simp, fun _ found next hs => ?_⟩
      simp only [step, hl] at hs
      cases hs
      refine guided_single hes (by simp [Mode.expected]) fun l found next hl hs => ?_
      simp only [step, hl] at hs
      cases hs
      exact .header (by simp)
    | skipping h => cases h
  | warning =>
    cases hf with
    | header h =>
      refine guided_single hes (by simp_all [Mode.expected]) fun l found next hl hs => ?_
      simp only [step, hl] at hs
      cases hs
      exact .idle
    | skipping h => cases h
  | firstArg =>
    cases hf with
    | header h =>
      refine guided_single hes (by simp_all [Mode.expected]) fun l found next hl hs => ?_
      simp only [step, hl] at hs
      split at hs
      · exact follows_beginArg hs
      · cases hs; exact .skipping rfl
    | skipping h => cases h
  | flag =>
    cases hf with
    | afterArg =>
      refine guided_single hes (by simp [Mode.expected]) fun l found next hl hs => ?_
      exact follows_value_scalar (by rw [hl]; rfl) hs
    | skipping => exact guided_skipping hes (by simp [Mode.expected]) rfl (by simp) rfl
  | scalar hk =>
    obtain ⟨hvalue, -, hskipping⟩ := mem_expected_of_isScalar hk
    cases hf with
    | value =>
      refine guided_single hes (hvalue ..) fun l found next hl hs => ?_
      exact follows_value_scalar (by rw [hl]; exact hk) hs
    | skipping =>
      exact guided_skipping hes (hskipping ..) (isTerminal_eq_false_of_isScalar hk)
        (ne_markerEnd_of_isScalar hk) rfl
  | openSlice =>
    cases hf with
    | value =>
      refine guided_single hes (by simp [Mode.expected]) fun l found next hl hs => ?_
      simp only [step, hl] at hs
      split at hs
      · cases hs; exact .slice
      · cases hs
    | skipping => exact guided_skipping hes (by simp [Mode.expected]) rfl (by simp) rfl
  | item hk =>
    obtain ⟨-, hslice, hskipping⟩ := mem_expected_of_isScalar hk
    cases hf with
    | slice =>
      refine guided_single hes (hslice ..) fun l found next hl hs => ?_
      rw [step_slice_scalar (by rw [hl]; exact hk)] at hs
      split at hs
      · cases hs; exact .slice
      · cases hs
    | skipping =>
      exact guided_skipping hes (hskipping ..) (isTerminal_eq_false_of_isScalar hk)
        (ne_markerEnd_of_isScalar hk) rfl
  | delimiter =>
    cases hf with
    | slice =>
      refine guided_single hes (by simp [Mode.expected]) fun l found next hl hs => ?_
      simp only [step, hl] at hs
      cases hs
      exact .slice
    | skipping => exact guided_skipping hes (by simp [Mode.expected]) rfl (by simp) rfl
  | closeSlice =>
    cases hf with
    | slice =>
      refine guided_single hes (by simp [Mode.expected]) fun l found next hl hs => ?_
      simp only [step, hl] at hs
      exact follows_endArg hs
    | skipping => exact guided_skipping hes (by simp [Mode.expected]) rfl (by simp) rfl
  | nextArg =>
    cases hf with
    | argument =>
      refine guided_single hes (by simp [Mode.expected]) fun l found next hl hs => ?_
      simp only [step, hl] at hs
      exact follows_beginArg hs
    | skipping => exact guided_skipping hes (by simp [Mode.expected]) rfl (by simp) rfl
  | finish =>
    cases hf with
    | argument =>
      refine guided_single hes (by simp [Mode.expected]) fun l found next hl hs => ?_
      simp only [step, hl] at hs
      exact follows_closed hs
    | skipping =>
      refine guided_single hes (by simp [Mode.expected]) fun l found next hl hs => ?_
      simp only [step, hl] at hs
      cases hs
      exact .idle

theorem guided_moves {m m' : Lexeme.Mode} {ks : List Lexeme.Kind} (h : Lexeme.Moves m ks m')
    {mode : Mode} (hf : Follows m mode) {es : List Lexeme} (hes : es.map Lexeme.kind = ks) :
    Guided registry (Follows m') mode es := by
  induction h generalizing mode es with
  | nil m =>
    obtain rfl := List.map_eq_nil_iff.1 hes
    exact hf
  | cons h hs ih =>
    obtain ⟨es₁, es₂, rfl, h₁, h₂⟩ := List.map_eq_append_iff.1 hes
    exact guided_append (guided_move h hf h₁) fun next hnext => ih hnext h₂

/-- Lexemes that come as they are expected lead to a mode, or to a fault. -/
theorem Guided.advances {P : Mode → Prop} {mode : Mode} {es : List Lexeme}
    (h : Guided registry P mode es) (hes : ∀ l ∈ es, l.kind.isTerminal = false) :
    Advances registry P mode es := by
  induction es generalizing mode with
  | nil => exact advances_nil h
  | cons l es ih =>
    obtain ⟨hl, hes⟩ := List.forall_mem_cons.1 hes
    exact advances_cons hl fun found next hs => ih (h.2 hl found next hs) hes

/-- After any number of moves the reader is behind the lexer, or it has stopped. -/
theorem advances_moves {m m' : Lexeme.Mode} {ks : List Lexeme.Kind} (h : Lexeme.Moves m ks m')
    {mode : Mode} (hf : Follows m mode) {es : List Lexeme} (hes : es.map Lexeme.kind = ks) :
    Advances registry (Follows m') mode es := by
  refine (guided_moves h hf hes).advances fun l hl => ?_
  exact Lexeme.not_isTerminal_of_moves h _ (hes ▸ List.mem_map_of_mem hl)

end Reader

end ManifestMarkers
