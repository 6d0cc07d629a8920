import ManifestMarkers.Proofs.LexemePlace
import ManifestMarkers.Proofs.MarkerSteps

/-!
# Reading markers line by line

The markers of a line and of the text behind it, read together.

* `Reader.run_shifted`: the reader finds the same in the same lexemes at another place.
* `parseMarkers_newline`: a line keeps the markers behind it exactly when it holds no malformed
  marker, or when there are none.
-/

namespace ManifestMarkers

/-- The marker further down and further on. -/
def FoundMarker.shift (lines bytes : Nat) (f : FoundMarker) : FoundMarker :=
  { f with position := f.position.shift lines bytes }

/-- What is found in the same lexemes at another place. Messages may differ. -/
inductive Item.Shifted (lines bytes : Nat) : Item → Item → Prop
  | marker (found : FoundMarker) :
      Shifted lines bytes (.marker found) (.marker (found.shift lines bytes))
  | noMatch (path : String) (position : Point) :
      Shifted lines bytes (.noMatch path position) (.noMatch path (position.shift lines bytes))
  | warning (w w' : Warning) : Shifted lines bytes (.warning w) (.warning w')
  | fault (f f' : Fault) : Shifted lines bytes (.fault f) (.fault f')

/-! ### Checks do not depend on the place -/

theorem FieldType.coerce_place (type : FieldType) (default : Literal) (p q : Point) :
    (∃ d, type.coerce default p = .ok d ∧ type.coerce default q = .ok d) ∨
      ∃ e e', type.coerce default p = .error e ∧ type.coerce default q = .error e' := by
  unfold coerce
  cases type.accept? default with
  | some d => exact .inl ⟨d, rfl, rfl⟩
  | none => exact .inr ⟨_, _, rfl, rfl⟩

theorem Field.validate_place (f : Field) (p q : Point) :
    (f.validate p = f.validate q) ∨
      ∃ g e e', f.validate p = (g, some e) ∧ f.validate q = (g, some e') := by
  unfold validate
  split
  · exact .inl rfl
  · split
    · exact .inl rfl
    · next default _ =>
      rcases FieldType.coerce_place f.type default p q with ⟨d, hp, hq⟩ | ⟨e, e', hp, hq⟩
      · exact .inl (by rw [hp, hq])
      · exact .inr ⟨_, e, e', by rw [hp], by rw [hq]⟩

theorem Resource.validate_place (r : Resource) (p q : Point) :
    (r.validate p = r.validate q) ∨ ∃ e e', r.validate p = some e ∧ r.validate q = some e' := by
  unfold validate
  split
  · exact .inr ⟨_, _, rfl, rfl⟩
  · exact .inl rfl

/-- The place of a marker matters only to the wording of its fault. -/
theorem Marker.validate_place (m : Marker) (p q : Point) :
    (m.validate p = m.validate q) ∨
      ∃ m' e e', m.validate p = (m', some e) ∧ m.validate q = (m', some e') := by
  cases m with
  | field f =>
    rcases f.validate_place p q with h | ⟨g, e, e', hp, hq⟩
    · exact .inl (by simp only [validate, h])
    · exact .inr ⟨.field g, e, e', by simp only [validate, hp], by simp only [validate, hq]⟩
  | collectionField f =>
    rcases f.validate_place p q with h | ⟨g, e, e', hp, hq⟩
    · exact .inl (by simp only [validate, h])
    · exact .inr ⟨.collectionField g, e, e', by simp only [validate, hp],
        by simp only [validate, hq]⟩
  | resource r =>
    rcases r.validate_place p q with h | ⟨e, e', hp, hq⟩
    · exact .inl (by simp only [validate, h])
    · exact .inr ⟨.resource r, e, e', by simp only [validate, hp], by simp only [validate, hq]⟩

namespace Reader

/-! ### One step at another place -/

/-- The open marker further down and further on. -/
def OpenMarker.shift (lines bytes : Nat) (m : OpenMarker) : OpenMarker :=
  { m with position := m.position.shift lines bytes }

/-- The mode further down and further on. -/
def Mode.shift (lines bytes : Nat) : Mode → Mode
  | .idle => .idle
  | .header position scopes => .header (position.shift lines bytes) scopes
  | .skipping position path => .skipping (position.shift lines bytes) path
  | .value m spec named => .value (m.shift lines bytes) spec (named.shift lines bytes)
  | .slice m spec element start items =>
    .slice (m.shift lines bytes) spec element (start.shift lines bytes) items
  | .argument m => .argument (m.shift lines bytes)

/-- Outcomes at two places: the items are related, and a stop stays a stop. -/
inductive Outcome.Shifted (lines bytes : Nat) : Outcome → Outcome → Prop
  | go {found found' : Option Item} (next : Mode)
      (h : Option.Rel (Item.Shifted lines bytes) found found') :
      Shifted lines bytes (.go found next) (.go found' (next.shift lines bytes))
  | stop (f f' : Fault) : Shifted lines bytes (.stop f) (.stop f')

variable {lines bytes : Nat} {registry : Registry}

theorem naturalLiteral_shift (lines bytes : Nat) (l : Lexeme) :
    (∃ v, naturalLiteral l = .ok v ∧ naturalLiteral (l.shift lines bytes) = .ok v) ∨
      ∃ e e', naturalLiteral l = .error e ∧
        naturalLiteral (l.shift lines bytes) = .error e' := by
  unfold naturalLiteral
  dsimp only [Lexeme.shift]
  split
  · split
    · exact .inl ⟨_, rfl, rfl⟩
    · exact .inr ⟨_, _, rfl, rfl⟩
  · exact .inl ⟨_, rfl, rfl⟩
  · exact .inl ⟨_, rfl, rfl⟩

theorem scalar_shift (lines bytes : Nat) (name : String) (kind : ArgKind) (l : Lexeme) :
    (∃ v, scalar name kind l = .ok v ∧ scalar name kind (l.shift lines bytes) = .ok v) ∨
      ∃ e e', scalar name kind l = .error e ∧
        scalar name kind (l.shift lines bytes) = .error e' := by
  unfold scalar
  split
  · exact .inl ⟨_, rfl, rfl⟩
  · rcases naturalLiteral_shift lines bytes l with
      ⟨v, hv, hv'⟩ | ⟨e, e', he, he'⟩
    · rw [hv, hv']
      dsimp only
      split
      · exact .inl ⟨_, rfl, rfl⟩
      · exact .inl ⟨_, rfl, rfl⟩
      · exact .inl ⟨_, rfl, rfl⟩
      · exact .inr ⟨_, _, rfl, rfl⟩
    · rw [he, he']
      exact .inr ⟨_, _, rfl, rfl⟩

theorem beginArg_shift (m : OpenMarker) (l : Lexeme) :
    (beginArg m l).Shifted lines bytes
      (beginArg (m.shift lines bytes) (l.shift lines bytes)) := by
  obtain ⟨definition, position, marker, seen⟩ := m
  unfold beginArg OpenMarker.shift Lexeme.shift
  dsimp only
  split
  · exact .stop _ _
  · next spec _ =>
    split
    · exact .stop _ _
    · exact .go (.value ⟨definition, position, marker, seen⟩ spec l.position) .none

theorem endArg_shift (m : OpenMarker) (spec : ArgSpec) (value : Literal) :
    (endArg m spec value).Shifted lines bytes (endArg (m.shift lines bytes) spec value) := by
  unfold endArg
  dsimp only [OpenMarker.shift]
  split
  · next marker _ =>
    exact .go (.argument { m with marker, seen := m.seen ++ [spec.name] }) .none
  · exact .stop _ _

theorem close_shift (lines bytes : Nat) (m : OpenMarker) :
    (∃ found, close m = .ok found ∧ close (m.shift lines bytes) = .ok (found.shift lines bytes)) ∨
      ∃ e e', close m = .error e ∧ close (m.shift lines bytes) = .error e' := by
  unfold close
  dsimp only [OpenMarker.shift]
  split
  · exact .inr ⟨_, _, rfl, rfl⟩
  · rcases m.marker.validate_place (m.position.shift lines bytes) m.position with
      h | ⟨m', e, e', hp, hq⟩
    · rw [h]
      split
      · exact .inl ⟨_, rfl, rfl⟩
      · exact .inr ⟨_, _, rfl, rfl⟩
    · rw [hp, hq]
      exact .inr ⟨_, _, rfl, rfl⟩

theorem closed_shift (m : OpenMarker) :
    (closed m).Shifted lines bytes (closed (m.shift lines bytes)) := by
  unfold closed
  rcases close_shift lines bytes m with ⟨found, h, h'⟩ | ⟨e, e', h, h'⟩
  · rw [h, h']
    exact .go .idle (.some (.marker found))
  · rw [h, h']
    exact .stop _ _

/-- A lexeme that carries a message ends the same way at every place. -/
theorem step_message {l l' : Lexeme} (h : Lexeme.Shifted lines bytes l l')
    (hk : l.kind.isMessage = true) (mode : Mode) :
    (step registry mode l).Shifted lines bytes (step registry (mode.shift lines bytes) l') := by
  have hkind := h.kind
  cases hl : l.kind <;> rw [hl] at hk hkind <;> try cases hk
  · cases mode <;> simp only [step, Mode.shift, hl, hkind]
    · exact .go .idle (.some (.warning _ _))
    · exact .go .idle (.some (.warning _ _))
    · exact .go (.skipping _ _) .none
    · exact .stop _ _
    · exact .stop _ _
    · exact .stop _ _
  · cases mode <;> simp only [step, Mode.shift, hl, hkind]
    · exact .stop _ _
    · split
      · exact .stop _ _
      · exact .go .idle (.some (.noMatch _ _))
    · exact .go .idle (.some (.noMatch _ _))
    · exact .stop _ _
    · exact .stop _ _
    · exact .stop _ _

theorem step_shifted (registry : Registry) {l l' : Lexeme} (h : Lexeme.Shifted lines bytes l l')
    (mode : Mode) :
    (step registry mode l).Shifted lines bytes (step registry (mode.shift lines bytes) l') := by
  by_cases hk : l.kind.isMessage = true
  · exact step_message h hk mode
  · obtain rfl := Lexeme.eq_shift_of_shifted h (by simpa using hk)
    cases mode with
    | idle =>
      dsimp only [step, Mode.shift, Lexeme.shift]
      split
      · exact .go (.header l.position []) .none
      · exact .go .idle (.some (.warning _ _))
      · exact .stop _ _
      · exact .go .idle .none
    | header position scopes =>
      dsimp only [step, Mode.shift, Lexeme.shift]
      split
      · exact .go (.header position _) .none
      · split
        · exact beginArg_shift _ l
        · exact .go (.skipping position _) .none
      · exact .go .idle (.some (.warning _ _))
      · split
        · exact .stop _ _
        · exact .go .idle (.some (.noMatch _ _))
      · exact .go .idle (.some (.noMatch _ _))
      · exact .go .idle (.some (.noMatch _ _))
      · exact .go (.header position scopes) .none
    | skipping position path =>
      dsimp only [step, Mode.shift, Lexeme.shift]
      split
      · exact .go .idle (.some (.noMatch _ _))
      · exact .go .idle (.some (.noMatch _ _))
      · exact .go .idle (.some (.noMatch _ _))
      · exact .go (.skipping position path) .none
    | value m spec named =>
      by_cases hs : l.kind.isScalar = true
      · rw [Mode.shift, step_value_scalar hs,
          step_value_scalar (l := l.shift lines bytes) hs]
        rcases scalar_shift lines bytes spec.name spec.kind l with
          ⟨v, hv, hv'⟩ | ⟨e, e', he, he'⟩
        · rw [hv, hv']
          exact endArg_shift m spec v
        · rw [he, he']
          exact .stop _ _
      · dsimp only [step, Mode.shift, Lexeme.shift]
        split
        · next hl => simp [hl, Lexeme.Kind.isScalar] at hs
        · next hl => simp [hl, Lexeme.Kind.isScalar] at hs
        · next hl => simp [hl, Lexeme.Kind.isScalar] at hs
        · split
          · exact .go (.slice m spec _ l []) .none
          · exact .stop _ _
        · exact .stop _ _
        · exact .stop _ _
    | slice m spec element start items =>
      by_cases hs : l.kind.isScalar = true
      · rw [Mode.shift, step_slice_scalar hs,
          step_slice_scalar (l := l.shift lines bytes) hs]
        rcases scalar_shift lines bytes spec.name element l with
          ⟨v, hv, hv'⟩ | ⟨e, e', he, he'⟩
        · rw [hv, hv']
          exact .go (.slice m spec element start (items ++ [v])) .none
        · rw [he, he']
          exact .stop _ _
      · dsimp only [step, Mode.shift, Lexeme.shift]
        split
        · exact endArg_shift m spec _
        · exact .go (.slice m spec element start items) .none
        · next hl => simp [hl, Lexeme.Kind.isScalar] at hs
        · next hl => simp [hl, Lexeme.Kind.isScalar] at hs
        · next hl => simp [hl, Lexeme.Kind.isScalar] at hs
        · exact .stop _ _
        · exact .stop _ _
    | argument m =>
      dsimp only [step, Mode.shift, Lexeme.shift]
      split
      · exact beginArg_shift m l
      · exact closed_shift m
      · exact closed_shift m
      · exact .stop _ _
      · exact .stop _ _

/-! ### Runs at another place -/

theorem finish_shifted (mode : Mode) :
    List.Forall₂ (Item.Shifted lines bytes) (finish mode).toList
      (finish (mode.shift lines bytes)).toList := by
  cases mode with
  | idle => exact .nil
  | header position scopes => exact .cons (.noMatch _ _) .nil
  | skipping position path => exact .cons (.noMatch _ _) .nil
  | value m spec named => exact .cons (.fault _ _) .nil
  | slice m spec element start items => exact .cons (.fault _ _) .nil
  | argument m =>
    rcases close_shift lines bytes m with ⟨found, h, h'⟩ | ⟨e, e', h, h'⟩
    · simp only [finish, Mode.shift, h, h']
      exact .cons (.marker found) .nil
    · simp only [finish, Mode.shift, h, h']
      exact .cons (.fault _ _) .nil

theorem toList_shifted {found found' : Option Item}
    (h : Option.Rel (Item.Shifted lines bytes) found found') :
    List.Forall₂ (Item.Shifted lines bytes) found.toList found'.toList := by
  cases h with
  | some h => exact .cons h .nil
  | none => exact .nil

/-- The same lexemes at another place yield the same there. -/
theorem run_shifted (registry : Registry) {ls ls' : List Lexeme}
    (h : List.Forall₂ (Lexeme.Shifted lines bytes) ls ls') (mode : Mode) :
    List.Forall₂ (Item.Shifted lines bytes) (run registry mode ls)
      (run registry (mode.shift lines bytes) ls') := by
  induction h generalizing mode with
  | nil => exact finish_shifted mode
  | @cons l l' ls ls' hl hls ih =>
    have hstep := step_shifted registry hl mode
    unfold run
    rw [hl.kind]
    generalize step registry mode l = o at hstep ⊢
    generalize step registry (mode.shift lines bytes) l' = o' at hstep ⊢
    cases hstep with
    | stop f f' => exact .cons (.fault f f') .nil
    | go next hfound =>
      refine List.rel_append (toList_shifted hfound) ?_
      split
      · exact .nil
      · exact ih next

end Reader

/-! ### Collecting what was found -/

theorem collectItems_append (xs ys : List Item) :
    collectItems (xs ++ ys) = match collectItems xs with
      | .error e => .error e
      | .ok r => (collectItems ys).map fun s => (r.1 ++ s.1, r.2 ++ s.2) := by
  induction xs with
  | nil =>
    rw [List.nil_append, collectItems]
    cases collectItems ys <;> rfl
  | cons x xs ih =>
    cases x with
    | fault e => rfl
    | noMatch path position => exact ih
    | marker found =>
      rw [List.cons_append, collectItems, collectItems, ih]
      cases collectItems xs with
      | error e => rfl
      | ok r => cases collectItems ys <;> rfl
    | warning w =>
      rw [List.cons_append, collectItems, collectItems, ih]
      cases collectItems xs with
      | error e => rfl
      | ok r => cases collectItems ys <;> rfl

theorem collectItems_shifted {lines bytes : Nat} {xs ys : List Item}
    (h : List.Forall₂ (Item.Shifted lines bytes) xs ys) {ns : List FoundMarker} {vs : List Warning}
    (hx : collectItems xs = .ok (ns, vs)) :
    ∃ us, collectItems ys = .ok (ns.map (FoundMarker.shift lines bytes), us) := by
  induction h generalizing ns vs with
  | nil =>
    cases hx
    exact ⟨[], rfl⟩
  | cons hxy hs ih =>
    cases hxy with
    | fault f f' => cases hx
    | noMatch path position => exact ih hx
    | marker found =>
      obtain ⟨⟨ns', vs'⟩, hx', hr⟩ := Lexeme.exists_ok_of_map_ok hx
      obtain ⟨us, hy⟩ := ih hx'
      cases hr
      exact ⟨us, by rw [collectItems, hy]; rfl⟩
    | warning w w' =>
      obtain ⟨⟨ns', vs'⟩, hx', hr⟩ := Lexeme.exists_ok_of_map_ok hx
      obtain ⟨us, hy⟩ := ih hx'
      cases hr
      exact ⟨w' :: us, by rw [collectItems, hy]; rfl⟩

/-! ### A line and the text behind it -/

/-- An error in a marker that is not registered is passed over, whatever its message. -/
theorem Reader.run_error (registry : Registry) (mode : Mode) {l l' : Lexeme}
    (hl : l.kind = .error) (hl' : l'.kind = .error) :
    run registry mode [l] = [.fault (faultOf l)] ∨
      run registry mode [l] = run registry mode [l'] := by
  cases mode with
  | idle | value | slice | argument => exact .inl (by simp only [run, step, hl])
  | header position scopes =>
    by_cases hc : registry.couldMatch (pathOf scopes) = true
    · exact .inl (by simp only [run, step, hl, if_pos hc])
    · exact .inr (by simp only [run, step, hl, hl', if_neg hc])
  | skipping position path => exact .inr (by simp only [run, step, hl, hl'])

/-- The lexemes of a text up to the last one are read block by block; before the end of the text the
reader is between two markers. -/
theorem Reader.advances_lex (registry : Registry) {text : String} {es : List Lexeme} {l : Lexeme}
    (h : Lexeme.lex text = es ++ [l]) :
    Advances registry (fun next => l.kind = .eof → next = .idle) .idle es := by
  obtain ⟨es', l', m, hlex, hmoves, hm⟩ :=
    (Lexeme.Reading.start text.toList).toEnd_moves (Lexeme.Reading.isReady_start _)
  obtain ⟨rfl, hl⟩ := List.append_inj' (h.symm.trans hlex) rfl
  obtain rfl := List.singleton_inj.1 hl
  refine (advances_moves hmoves .idle rfl).imp_left ?_
  rintro ⟨items, next, hnext, hpass⟩
  refine ⟨items, next, fun hk => ?_, hpass⟩
  obtain ⟨rfl, -⟩ | ⟨-, hl⟩ := hm
  · cases hnext with
    | idle => rfl
    | skipping h => cases h
  · rw [hl] at hk
    cases hk

theorem collectItems_append_fault (xs : List Item) (f : Fault)
    (r : List FoundMarker × List Warning) : collectItems (xs ++ [.fault f]) ≠ .ok r := by
  rw [collectItems_append]
  cases collectItems xs <;> simp [collectItems, Except.map]

section

variable {registry : Registry} {a b : String} {ms ns : List FoundMarker} {ws vs : List Warning}

/-- Behind a text without malformed markers the markers of `b` are found where they stand. -/
theorem parseMarkers_newline_of_complete (ha : parseMarkers registry a = .ok (ms, ws))
    (hb : parseMarkers registry b = .ok (ns, vs)) {es ls : List Lexeme} {p : Point}
    {lines bytes : Nat} (hes : Lexeme.lex a = es ++ [⟨.eof, "", p⟩])
    (hls : Lexeme.lex (a ++ "\n" ++ b) = es ++ ls)
    (hshift : List.Forall₂ (Lexeme.Shifted lines bytes) (Lexeme.lex b) ls) :
    ∃ us, parseMarkers registry (a ++ "\n" ++ b) =
      .ok (ms ++ ns.map (FoundMarker.shift lines bytes), us) := by
  unfold parseMarkers readMarkers at ha hb ⊢
  rw [hls]
  rw [hes] at ha
  rcases Reader.advances_lex registry hes with ⟨items, next, hnext, hpass⟩ | ⟨items, f, hstop⟩
  · -- at the end of the first text the reader is between two markers
    obtain rfl := hnext rfl
    rw [hpass] at ha ⊢
    have hend : Reader.run registry .idle [⟨.eof, "", p⟩] = [] := rfl
    rw [hend, List.append_nil] at ha
    obtain ⟨us, hus⟩ := collectItems_shifted (Reader.run_shifted registry hshift .idle) hb
    rw [collectItems_append, ha]
    exact ⟨ws ++ us, by rw [Reader.Mode.shift] at hus; rw [hus]; rfl⟩
  · rw [hstop] at ha
    exact absurd ha (collectItems_append_fault _ _ _)

/-- Behind a malformed marker that is not registered nothing is found. -/
theorem parseMarkers_newline_of_error (ha : parseMarkers registry a = .ok (ms, ws))
    {es : List Lexeme} {l l' : Lexeme} (hes : Lexeme.lex a = es ++ [l]) (hl : l.kind = .error)
    (hls : Lexeme.lex (a ++ "\n" ++ b) = es ++ [l']) (hl' : l'.kind = .error) :
    parseMarkers registry (a ++ "\n" ++ b) = .ok (ms, ws) := by
  unfold parseMarkers readMarkers at ha ⊢
  rw [hls]
  rw [hes] at ha
  rcases Reader.advances_lex registry hes with ⟨items, next, -, hpass⟩ | ⟨items, f, hstop⟩
  · rw [hpass] at ha ⊢
    rcases Reader.run_error registry next hl hl' with h | h
    · rw [h] at ha
      exact absurd ha (collectItems_append_fault _ _ _)
    · rw [← h]
      exact ha
  · rw [hstop] at ha
    exact absurd ha (collectItems_append_fault _ _ _)

/-- A line that is read without fault keeps the markers of the text behind it exactly when it holds
no malformed marker, or when there are none. A malformed marker that is not registered is no fault
and hides all that follows. -/
theorem parseMarkers_newline (hn : '\n' ∉ a.toList) (hq : '`' ∉ a.toList)
    (ha : parseMarkers registry a = .ok (ms, ws)) (hb : parseMarkers registry b = .ok (ns, vs)) :
    (∃ us, parseMarkers registry (a ++ "\n" ++ b) =
        .ok (ms ++ ns.map (FoundMarker.shift 1 (Text.byteSize a.toList + 1)), us)) ↔
      (∀ l ∈ Lexeme.lex a, l.kind ≠ .error) ∨ ns = [] := by
  rcases Lexeme.lex_newline a b with ⟨es, ls, hes, hls, hshift⟩ | ⟨es, l, hes, hl, herror⟩
  · rw [Point.line_after hn] at hshift
    refine ⟨fun _ => .inl ?_, fun _ => parseMarkers_newline_of_complete ha hb hes hls hshift⟩
    intro l hl hk
    rw [hes] at hl
    rcases List.mem_append.1 hl with hl | hl
    · have := Lexeme.not_isTerminal_of_lex hes l hl
      rw [hk] at this
      cases this
    · obtain rfl := List.mem_singleton.1 hl
      cases hk
  · -- the error ends both texts, so nothing is found behind the first one
    obtain ⟨l', hl', hls⟩ := herror hn hq
    rw [parseMarkers_newline_of_error ha hes hl hls hl']
    constructor
    · rintro ⟨us, hus⟩
      have hns : ns = [] ∧ ws = us := by simpa using hus
      exact .inr hns.1
    · rintro (h | rfl)
      · exact absurd hl (h l (by simp [hes]))
      · exact ⟨ws, by simp⟩

end

/-- The number of markers of a text tells that it is read without fault. -/
theorem exists_ok_of_count (registry : Registry) (text : String) (n : Nat)
    (h : (parseMarkers registry text).toOption.map (·.1.length) = some n) :
    ∃ ms ws, parseMarkers registry text = .ok (ms, ws) ∧ ms.length = n := by
  cases hp : parseMarkers registry text with
  | error e => simp [hp, Except.toOption] at h
  | ok r => exact ⟨r.1, r.2, rfl, by simpa [hp, Except.toOption] using h⟩

theorem parseMarkers_newline_foreign : ∃ ms ws ns vs,
    parseMarkers operatorRegistry "# +kubebuilder:object:root=true" = .ok (ms, ws) ∧
      parseMarkers operatorRegistry "# +operator-builder:field:name=x,type=int" = .ok (ns, vs) ∧
      ns.length = 1 ∧
      ∃ us, parseMarkers operatorRegistry ("# +kubebuilder:object:root=true" ++ "\n" ++
          "# +operator-builder:field:name=x,type=int") =
        .ok (ms ++ ns.map (FoundMarker.shift 1 32), us) := by
  obtain ⟨ms, ws, ha, -⟩ := exists_ok_of_count operatorRegistry
    "# +kubebuilder:object:root=true" 0 (by decide)
  obtain ⟨ns, vs, hb, hns⟩ := exists_ok_of_count operatorRegistry
    "# +operator-builder:field:name=x,type=int" 1 (by decide +kernel)
  have hsize : Text.byteSize "# +kubebuilder:object:root=true".toList + 1 = 32 := by decide
  have h := (parseMarkers_newline (by decide) (by decide) ha hb).2
    (.inl (by decide))
  rw [hsize] at h
  exact ⟨ms, ws, ns, vs, ha, hb, hns, h⟩

/-- A marker of another tool that breaks off hides the marker on the next line. -/
theorem parseMarkers_newline_broken_foreign :
    Registry.defineAll {} [(fieldPath, .field), (collectionFieldPath, .collectionField),
        (resourcePath, .resource)] = .ok operatorRegistry ∧
      ∃ ms ws ns vs, parseMarkers operatorRegistry "# +kubebuilder:" = .ok (ms, ws) ∧
        parseMarkers operatorRegistry "# +operator-builder:field:name=x,type=int" = .ok (ns, vs) ∧
        ∀ us, parseMarkers operatorRegistry ("# +kubebuilder:" ++ "\n" ++
            "# +operator-builder:field:name=x,type=int") ≠
          .ok (ms ++ ns.map (FoundMarker.shift 1 16), us) := by
  obtain ⟨ms, ws, ha, -⟩ := exists_ok_of_count operatorRegistry
    "# +kubebuilder:" 0 (by decide)
  obtain ⟨ns, vs, hb, hns⟩ := exists_ok_of_count operatorRegistry
    "# +operator-builder:field:name=x,type=int" 1 (by decide +kernel)
  obtain ⟨found, ts, hab, hfound⟩ := exists_ok_of_count operatorRegistry
    ("# +kubebuilder:" ++ "\n" ++ "# +operator-builder:field:name=x,type=int") 0
    (by decide)
  refine ⟨defineAll_operatorRegistry, ms, ws, ns, vs, ha, hb, fun us h => ?_⟩
  rw [hab] at h
  have hlen : found.length = ms.length + ns.length := by
    rw [(Prod.mk.inj (Except.ok.inj h)).1]
    simp
  omega

end ManifestMarkers
