import ManifestMarkers.Proofs.MarkerSteps

/-!
# Markers satisfy their schema

Whatever lexemes are read, a marker that is delivered has the form its variant promises.

* `Field.Conforms` and `Resource.Conforms` say what a complete marker looks like, and
  `Marker.validate_of_conforms` that the checks find nothing to change in it.
* `Reader.Mode.Fits` is the invariant: the open marker belongs to a registered definition, and every
  argument that counts as seen has been set.
* `readMarkers_conforms` is the result for all sequences of lexemes.
-/

namespace ManifestMarkers

/-! ### Complete markers -/

/-- Whether a value agrees with a type. -/
def FieldType.Agrees : FieldType → Literal → Prop
  | .unknown, _ => False
  | .string, literal => ∃ s, literal = .string s
  | .int, literal => ∃ i, literal = .int i
  | .bool, literal => ∃ b, literal = .bool b
  | .strings, literal => ∃ items, literal = .slice items ∧ ∀ x ∈ items, ∃ s, x = .string s
  | .ints, literal => ∃ items, literal = .slice items ∧ ∀ x ∈ items, ∃ i, x = .int i
  | .bools, literal => ∃ items, literal = .slice items ∧ ∀ x ∈ items, ∃ b, x = .bool b
  | .struct, _ => True

/-- A complete field: it has a type and a name of its own, its pattern can be used and its default
agrees with its type. The value of the manifest is not known yet. -/
structure Field.Conforms (f : Field) : Prop where
  type : f.type ≠ .unknown
  name : isReserved f.name = false
  manifestValue : f.manifestValue = none
  replace : ∀ pattern ∈ f.replace, Pattern.isPattern pattern = true
  default : ∀ literal ∈ f.default, f.type.Agrees literal

/-- A complete resource: it says whether to include, and compares with a single value. -/
structure Resource.Conforms (r : Resource) : Prop where
  included : ∃ b, r.included = some b
  value : (∃ s, r.value = some (.string s)) ∨ (∃ i, r.value = some (.int i)) ∨
    ∃ b, r.value = some (.bool b)

/-- A complete marker. -/
def Marker.Conforms : Marker → Prop
  | .field f | .collectionField f => f.Conforms
  | .resource r => r.Conforms

/-- The field of a complete marker is complete. -/
theorem Marker.conforms_of_field? {m : Marker} {f : Field} (h : m.Conforms)
    (hf : m.field? = some f) : f.Conforms := by
  cases m with
  | field g | collectionField g =>
    cases hf
    exact h
  | resource r => cases hf

/-- A marker that is found belongs to a registered path, has the variant of that path and is
complete. -/
structure FoundMarker.Conforms (registry : Registry) (found : FoundMarker) : Prop where
  registered : ∃ d, registry.get? found.path = some d ∧ d.variant = found.marker.variant
  marker : found.marker.Conforms

/-- Whether a marker among what was found is as it has to be. -/
def Item.Conforms (registry : Registry) : Item → Prop
  | .marker found => found.Conforms registry
  | _ => True

theorem Registry.get?_path {registry : Registry} {path : String} {d : Definition}
    (h : registry.get? path = some d) : registry.get? d.path = some d := by
  rw [path_of_get? h, h]

/-! ### Defaults -/

theorem FieldType.allOf_eq_true {kind : Literal.Kind} {items : List Literal} :
    allOf kind items = true ↔ ∀ x ∈ items, x.kind = kind := by
  simp [allOf]

/-- A default in the form of its type agrees with the type. -/
theorem FieldType.agrees_of_accept? {type : FieldType} {literal kept : Literal}
    (h : type.accept? literal = some kept) : type.Agrees kept := by
  unfold accept? at h
  split at h
  · trivial
  · cases h; exact ⟨_, rfl⟩
  · cases h; exact ⟨_, rfl⟩
  · split at h
    · cases h; exact ⟨_, rfl⟩
    · cases h
  · split at h
    · cases h
      refine ⟨_, rfl, ?_⟩
      simp only [List.mem_map]
      rintro x ⟨item, -, rfl⟩
      exact ⟨_, rfl⟩
    · cases h
  · next items =>
    split at h
    · next hall =>
      cases h
      refine ⟨items, rfl, fun x hx => ?_⟩
      have := allOf_eq_true.1 hall x hx
      cases x <;> first | exact ⟨_, rfl⟩ | cases this
    · cases h
  · next items =>
    split at h
    · next hall =>
      cases h
      refine ⟨items, rfl, fun x hx => ?_⟩
      have := allOf_eq_true.1 hall x hx
      cases x <;> first | exact ⟨_, rfl⟩ | cases this
    · cases h
  · cases h

/-- A value that agrees with its type is kept as it is. -/
theorem FieldType.accept?_of_agrees {type : FieldType} {literal : Literal}
    (h : type.Agrees literal) : type.accept? literal = some literal := by
  cases type with
  | unknown => exact h.elim
  | string | int | bool =>
    obtain ⟨v, rfl⟩ := h
    rfl
  | struct => cases literal <;> rfl
  | strings =>
    obtain ⟨items, rfl, hitems⟩ := h
    have hscalar : items.all Literal.isScalar = true := by
      rw [List.all_eq_true]
      intro x hx
      obtain ⟨s, rfl⟩ := hitems x hx
      rfl
    have hmap : (items.map fun item => Literal.string item.text) = items := by
      refine (List.map_congr_left fun x hx => ?_).trans (List.map_id items)
      obtain ⟨s, rfl⟩ := hitems x hx
      rfl
    simp only [accept?, hscalar, if_true, hmap]
  | ints =>
    obtain ⟨items, rfl, hitems⟩ := h
    have hall : allOf .int items = true := by
      refine allOf_eq_true.2 fun x hx => ?_
      obtain ⟨i, rfl⟩ := hitems x hx
      rfl
    simp only [accept?, hall, if_true]
  | bools =>
    obtain ⟨items, rfl, hitems⟩ := h
    have hall : allOf .bool items = true := by
      refine allOf_eq_true.2 fun x hx => ?_
      obtain ⟨b, rfl⟩ := hitems x hx
      rfl
    simp only [accept?, hall, if_true]

/-! ### Checks -/

theorem Field.patternFault?_eq_none {f : Field} :
    f.patternFault? = none ↔ ∀ pattern ∈ f.replace, Pattern.isPattern pattern = true := by
  unfold patternFault?
  cases f.replace <;> simp

/-- A field that passes the checks is complete, given what the checks do not look at. -/
theorem Field.conforms_of_validate {f g : Field} {p : Point} (h : f.validate p = (g, none))
    (ht : f.type ≠ .unknown) (hm : f.manifestValue = none) : g.Conforms := by
  unfold validate at h
  split at h
  · cases h
  · next hr =>
    have hname : isReserved f.name = false := by simpa using hr
    split at h
    · next hd =>
      obtain ⟨rfl, hp⟩ := Prod.mk.inj h
      exact ⟨ht, hname, hm, patternFault?_eq_none.1 hp, by simp [hd]⟩
    · next default hd =>
      unfold FieldType.coerce at h
      cases ha : f.type.accept? default with
      | none => simp [ha] at h
      | some kept =>
        rw [ha] at h
        obtain ⟨rfl, hp⟩ := Prod.mk.inj h
        refine ⟨ht, hname, hm, patternFault?_eq_none.1 hp, ?_⟩
        simpa using FieldType.agrees_of_accept? ha

theorem Field.validate_of_conforms {f : Field} (h : f.Conforms) (p : Point) :
    f.validate p = (f, none) := by
  have hp := patternFault?_eq_none.2 h.replace
  unfold validate
  rw [if_neg (by simp [h.name])]
  split
  · rw [hp]
  · next default hd =>
    have ha := FieldType.accept?_of_agrees (h.default default (by simp [hd]))
    have hf : ({ f with default := some default } : Field) = f := by rw [← hd]
    simp only [FieldType.coerce, ha, hf, hp]

theorem Resource.conforms_of_validate {r : Resource} {p : Point} (h : r.validate p = none)
    (hi : r.included.isSome = true) (hv : r.value.isSome = true) : r.Conforms := by
  refine ⟨Option.isSome_iff_exists.1 hi, ?_⟩
  obtain ⟨v, hv⟩ := Option.isSome_iff_exists.1 hv
  rw [hv]
  cases v with
  | string s => exact .inl ⟨s, rfl⟩
  | int i => exact .inr (.inl ⟨i, rfl⟩)
  | bool b => exact .inr (.inr ⟨b, rfl⟩)
  | slice items => simp [validate, hv] at h

theorem Resource.validate_of_conforms {r : Resource} (h : r.Conforms) (p : Point) :
    r.validate p = none := by
  unfold validate
  rcases h.value with ⟨s, hv⟩ | ⟨i, hv⟩ | ⟨b, hv⟩ <;> rw [hv]

/-- The checks find nothing wrong with a complete marker and leave it as it is. -/
theorem Marker.validate_of_conforms {m : Marker} (h : m.Conforms) (p : Point) :
    m.validate p = (m, none) := by
  cases m with
  | field f => simp only [validate, Field.validate_of_conforms h]
  | collectionField f => simp only [validate, Field.validate_of_conforms h]
  | resource r => simp only [validate, Resource.validate_of_conforms h]

/-! ### Arguments set one after the other -/

/-- What an open marker has, given the names of the arguments that have been set. -/
def Marker.HasSet (seen : List String) : Marker → Prop
  | .field f | .collectionField f =>
    f.manifestValue = none ∧ ("type" ∈ seen → f.type ≠ .unknown)
  | .resource r =>
    ("include" ∈ seen → r.included.isSome = true) ∧ ("value" ∈ seen → r.value.isSome = true)

theorem Variant.variant_zero (v : Variant) : v.zero.variant = v := by
  cases v <;> rfl

theorem Variant.hasSet_zero (v : Variant) : v.zero.HasSet [] := by
  cases v <;> simp [zero, Marker.HasSet]

theorem FieldType.ne_unknown_of_ofText {text : String} {type : FieldType}
    (h : ofText text = .ok type) : type ≠ .unknown := by
  unfold ofText at h
  split at h <;> cases h <;> simp

theorem Field.hasSet_setArg {f g : Field} {path : String} {spec : ArgSpec} {value : Literal}
    {seen : List String} (hspec : spec ∈ args) (hf : (Marker.field f).HasSet seen)
    (h : f.setArg path spec.name value = .ok g) :
    (Marker.field g).HasSet (seen ++ [spec.name]) := by
  obtain ⟨hm, ht⟩ := hf
  simp only [args, List.mem_cons, List.not_mem_nil, or_false] at hspec
  rcases hspec with rfl | rfl | rfl | rfl | rfl
  · cases h
    exact ⟨hm, by simpa using ht⟩
  · obtain ⟨type, htype, rfl⟩ := Lexeme.exists_ok_of_map_ok (setArg_type f path value ▸ h)
    exact ⟨hm, fun _ => FieldType.ne_unknown_of_ofText htype⟩
  · cases h
    exact ⟨hm, by simpa using ht⟩
  · cases h
    exact ⟨hm, by simpa using ht⟩
  · cases h
    exact ⟨hm, by simpa using ht⟩

theorem Resource.hasSet_setArg {r s : Resource} {spec : ArgSpec} {value : Literal}
    {seen : List String} (hspec : spec ∈ args)
    (hvalue : spec.kind = .bool → value.bool?.isSome = true) (hr : (Marker.resource r).HasSet seen)
    (h : r.setArg spec.name value = .ok s) :
    (Marker.resource s).HasSet (seen ++ [spec.name]) := by
  obtain ⟨hi, hv⟩ := hr
  simp only [args, List.mem_cons, List.not_mem_nil, or_false] at hspec
  rcases hspec with rfl | rfl | rfl | rfl
  · cases h
    exact ⟨by simpa using hi, by simpa using hv⟩
  · cases h
    exact ⟨by simpa using hi, by simpa using hv⟩
  · cases h
    exact ⟨by simpa using hi, fun _ => rfl⟩
  · cases h
    exact ⟨fun _ => hvalue rfl, by simpa using hv⟩

/-- Setting an argument keeps the variant, and the argument counts as set. Boolean arguments need a
Boolean value. -/
theorem Marker.hasSet_setArg {m n : Marker} {spec : ArgSpec} {value : Literal}
    {seen : List String} (hspec : spec ∈ m.variant.args)
    (hvalue : spec.kind = .bool → value.bool?.isSome = true) (hm : m.HasSet seen)
    (h : m.setArg spec.name value = .ok n) :
    n.variant = m.variant ∧ n.HasSet (seen ++ [spec.name]) := by
  cases m with
  | field f =>
    rw [setArg_field] at h
    obtain ⟨g, hg, rfl⟩ := Lexeme.exists_ok_of_map_ok h
    exact ⟨rfl, Field.hasSet_setArg hspec hm hg⟩
  | collectionField f =>
    rw [setArg_collectionField] at h
    obtain ⟨g, hg, rfl⟩ := Lexeme.exists_ok_of_map_ok h
    exact ⟨rfl, Field.hasSet_setArg hspec hm hg⟩
  | resource r =>
    rw [setArg_resource] at h
    obtain ⟨s, hs, rfl⟩ := Lexeme.exists_ok_of_map_ok h
    exact ⟨rfl, Resource.hasSet_setArg hspec hvalue hm hs⟩

/-- A marker with all required arguments that passes the checks is complete, and of the same
variant. -/
theorem Marker.conforms_of_validate {m n : Marker} {seen : List String} {p : Point}
    (hm : m.HasSet seen) (hseen : ∀ s ∈ m.variant.args, s.isOptional = false → s.name ∈ seen)
    (h : m.validate p = (n, none)) : n.variant = m.variant ∧ n.Conforms := by
  cases m with
  | field f =>
    obtain ⟨hn, hfault⟩ := Prod.mk.inj h
    subst hn
    have ht := hm.2 (hseen ⟨"type", .string, false⟩
      (by simp [variant, Variant.args, Field.args]) rfl)
    exact ⟨rfl, Field.conforms_of_validate (Prod.ext rfl hfault) ht hm.1⟩
  | collectionField f =>
    obtain ⟨hn, hfault⟩ := Prod.mk.inj h
    subst hn
    have ht := hm.2 (hseen ⟨"type", .string, false⟩
      (by simp [variant, Variant.args, Field.args]) rfl)
    exact ⟨rfl, Field.conforms_of_validate (Prod.ext rfl hfault) ht hm.1⟩
  | resource r =>
    obtain ⟨rfl, hfault⟩ := Prod.mk.inj h
    refine ⟨rfl, Resource.conforms_of_validate hfault (hm.1 ?_) (hm.2 ?_)⟩
    · exact hseen ⟨"include", .bool, false⟩ (by simp [variant, Variant.args, Resource.args]) rfl
    · exact hseen ⟨"value", .any, false⟩ (by simp [variant, Variant.args, Resource.args]) rfl

namespace Reader

variable {registry : Registry}

/-! ### The invariant -/

/-- The open marker belongs to a registered definition and has what it has seen. -/
structure OpenMarker.Fits (registry : Registry) (m : OpenMarker) : Prop where
  registered : registry.get? m.definition.path = some m.definition
  variant : m.marker.variant = m.definition.variant
  hasSet : m.marker.HasSet m.seen

/-- The invariant of the reader. A slice is open only where the argument accepts slices. -/
def Mode.Fits (registry : Registry) : Mode → Prop
  | .idle | .header _ _ | .skipping _ _ => True
  | .value m spec _ => m.Fits registry ∧ spec ∈ m.definition.variant.args
  | .slice m spec element _ _ =>
    m.Fits registry ∧ spec ∈ m.definition.variant.args ∧ spec.kind.element? = some element
  | .argument m => m.Fits registry

theorem fits_beginArg {m : OpenMarker} {l : Lexeme} {found : Option Item} {next : Mode}
    (hm : m.Fits registry) (h : beginArg m l = .go found next) :
    found = none ∧ next.Fits registry := by
  unfold beginArg at h
  split at h
  · cases h
  · next spec hs =>
    split at h
    · cases h
    · cases h
      exact ⟨rfl, hm, List.mem_of_find?_eq_some hs⟩

theorem fits_endArg {m : OpenMarker} {spec : ArgSpec} {value : Literal} {found : Option Item}
    {next : Mode} (hm : m.Fits registry) (hspec : spec ∈ m.definition.variant.args)
    (hvalue : spec.kind = .bool → value.bool?.isSome = true)
    (h : endArg m spec value = .go found next) : found = none ∧ next.Fits registry := by
  unfold endArg at h
  split at h
  · next marker hs =>
    cases h
    rw [← hm.variant] at hspec
    obtain ⟨hv, hset⟩ := Marker.hasSet_setArg hspec hvalue hm.hasSet hs
    exact ⟨rfl, hm.registered, hv.trans hm.variant, hset⟩
  · cases h

/-- A marker is delivered only when it is complete. -/
theorem conforms_of_close {m : OpenMarker} {found : FoundMarker} (hm : m.Fits registry)
    (h : close m = .ok found) : found.Conforms registry := by
  unfold close at h
  split at h
  · cases h
  · next hnone =>
    have hseen : ∀ s ∈ m.marker.variant.args, s.isOptional = false → s.name ∈ m.seen := by
      intro s hs ho
      rw [hm.variant] at hs
      have := List.find?_eq_none.1 hnone s hs
      simpa [ho] using this
    split at h
    · next marker hv =>
      cases h
      obtain ⟨hvariant, hmarker⟩ := Marker.conforms_of_validate hm.hasSet hseen hv
      exact ⟨⟨m.definition, hm.registered, (hvariant.trans hm.variant).symm⟩, hmarker⟩
    · cases h

theorem conforms_of_closed {m : OpenMarker} {found : Option Item} {next : Mode}
    (hm : m.Fits registry) (h : closed m = .go found next) :
    (∀ item ∈ found, item.Conforms registry) ∧ next.Fits registry := by
  unfold closed at h
  split at h
  · next f hf =>
    cases h
    refine ⟨fun item hitem => ?_, trivial⟩
    obtain rfl := Option.mem_some_iff.1 hitem
    exact conforms_of_close hm hf
  · cases h

theorem isSome_bool?_of_scalar {name : String} {kind : ArgKind} {l : Lexeme} {literal : Literal}
    (h : scalar name kind l = .ok literal) (hk : kind = .bool) : literal.bool?.isSome = true := by
  subst hk
  unfold scalar at h
  rw [if_neg (by simp)] at h
  split at h
  · cases h
  · next v _ =>
    cases v with
    | bool b => cases h; rfl
    | string | int | slice => cases h

/-- A step delivers complete markers only and keeps the invariant. -/
theorem fits_step {mode next : Mode} {l : Lexeme} {found : Option Item} (hm : mode.Fits registry)
    (h : step registry mode l = .go found next) :
    (∀ item ∈ found, item.Conforms registry) ∧ next.Fits registry := by
  have hquiet {found : Option Item} {next : Mode} (h : found = none ∧ next.Fits registry) :
      (∀ item ∈ found, item.Conforms registry) ∧ next.Fits registry := by
    rw [h.1]
    exact ⟨by simp, h.2⟩
  have hother {item : Item} (h : item.Conforms registry) :
      ∀ x ∈ some item, x.Conforms registry := by simpa using h
  cases mode with
  | idle =>
    simp only [step] at h
    split at h <;> cases h
    · exact ⟨by simp, trivial⟩
    · exact ⟨hother trivial, trivial⟩
    · exact ⟨by simp, trivial⟩
  | header position scopes =>
    simp only [step] at h
    split at h
    · cases h; exact ⟨by simp, trivial⟩
    · split at h
      · next d hd =>
        refine hquiet (fits_beginArg ⟨Registry.get?_path hd, ?_, ?_⟩ h)
        · exact d.variant.variant_zero
        · exact d.variant.hasSet_zero
      · cases h; exact ⟨by simp, trivial⟩
    · cases h; exact ⟨hother trivial, trivial⟩
    · split at h
      · cases h
      · cases h; exact ⟨hother trivial, trivial⟩
    · cases h; exact ⟨hother trivial, trivial⟩
    · cases h; exact ⟨hother trivial, trivial⟩
    · cases h; exact ⟨by simp, trivial⟩
  | skipping position path =>
    simp only [step] at h
    split at h <;> cases h
    · exact ⟨hother trivial, trivial⟩
    · exact ⟨hother trivial, trivial⟩
    · exact ⟨hother trivial, trivial⟩
    · exact ⟨by simp, trivial⟩
  | value m spec named =>
    obtain ⟨hm, hspec⟩ := hm
    by_cases hs : l.kind.isScalar = true
    · rw [step_value_scalar hs] at h
      split at h
      · next literal hl =>
        exact hquiet (fits_endArg hm hspec (isSome_bool?_of_scalar hl) h)
      · cases h
    · simp only [step] at h
      split at h
      · next hl => simp [hl, Lexeme.Kind.isScalar] at hs
      · next hl => simp [hl, Lexeme.Kind.isScalar] at hs
      · next hl => simp [hl, Lexeme.Kind.isScalar] at hs
      · split at h
        · next element he => cases h; exact ⟨by simp, hm, hspec, he⟩
        · cases h
      · cases h
      · cases h
  | slice m spec element start items =>
    obtain ⟨hm, hspec, he⟩ := hm
    by_cases hs : l.kind.isScalar = true
    · rw [step_slice_scalar hs] at h
      split at h
      · cases h; exact ⟨by simp, hm, hspec, he⟩
      · cases h
    · simp only [step] at h
      split at h
      · -- no Boolean argument accepts a slice
        refine hquiet (fits_endArg hm hspec (fun hk => ?_) h)
        rw [hk] at he
        cases he
      · cases h; exact ⟨by simp, hm, hspec, he⟩
      · next hl => simp [hl, Lexeme.Kind.isScalar] at hs
      · next hl => simp [hl, Lexeme.Kind.isScalar] at hs
      · next hl => simp [hl, Lexeme.Kind.isScalar] at hs
      · cases h
      · cases h
  | argument m =>
    simp only [step] at h
    split at h
    · exact hquiet (fits_beginArg hm h)
    · exact conforms_of_closed hm h
    · exact conforms_of_closed hm h
    · cases h
    · cases h

theorem conforms_of_finish {mode : Mode} (hm : mode.Fits registry) :
    ∀ item ∈ finish mode, item.Conforms registry := by
  intro item hitem
  cases mode with
  | idle => cases hitem
  | header | skipping | value | slice =>
    obtain rfl := Option.mem_some_iff.1 hitem
    trivial
  | argument m =>
    simp only [finish] at hitem
    split at hitem
    · next found hf =>
      obtain rfl := Option.mem_some_iff.1 hitem
      exact conforms_of_close hm hf
    · obtain rfl := Option.mem_some_iff.1 hitem
      trivial

/-- A run from a mode with the invariant delivers complete markers only. -/
theorem conforms_of_run (mode : Mode) (hm : mode.Fits registry) (ls : List Lexeme) :
    ∀ item ∈ run registry mode ls, item.Conforms registry := by
  induction ls generalizing mode with
  | nil =>
    intro item hitem
    exact conforms_of_finish hm item (by simpa [run] using hitem)
  | cons l ls ih =>
    intro item hitem
    unfold run at hitem
    split at hitem
    · obtain rfl := List.mem_singleton.1 hitem
      trivial
    · next found next hs =>
      obtain ⟨hfound, hnext⟩ := fits_step hm hs
      rcases List.mem_append.1 hitem with h | h
      · exact hfound item (by simpa using h)
      · split at h
        · cases h
        · exact ih next hnext item h

end Reader

/-- Whatever lexemes are read, a delivered marker has a registered path and the variant of that
path, is complete, and passes the checks unchanged at every place. -/
theorem readMarkers_conforms (registry : Registry) (ls : List Lexeme) (found : FoundMarker)
    (h : .marker found ∈ readMarkers registry ls) :
    found.Conforms registry ∧ ∀ p, found.marker.validate p = (found.marker, none) := by
  have hc : found.Conforms registry := Reader.conforms_of_run .idle trivial ls _ h
  exact ⟨hc, fun p => Marker.validate_of_conforms hc.marker p⟩

theorem readMarkers_conforms_unterminated : ∃ found,
    .marker found ∈ readMarkers operatorRegistry
      [⟨.markerStart, "+", .origin⟩, ⟨.scope, "operator-builder", .origin⟩,
        ⟨.scope, "field", .origin⟩, ⟨.arg, "default", .origin⟩, ⟨.integerLiteral, "7", .origin⟩,
        ⟨.arg, "TYPE", .origin⟩, ⟨.stringLiteral, "int", .origin⟩, ⟨.arg, "name", .origin⟩,
        ⟨.stringLiteral, "replicas", .origin⟩] ∧
      found.Conforms operatorRegistry ∧ ∀ p, found.marker.validate p = (found.marker, none) := by
  have h : (readMarkers operatorRegistry
      [⟨.markerStart, "+", .origin⟩, ⟨.scope, "operator-builder", .origin⟩,
        ⟨.scope, "field", .origin⟩, ⟨.arg, "default", .origin⟩, ⟨.integerLiteral, "7", .origin⟩,
        ⟨.arg, "TYPE", .origin⟩, ⟨.stringLiteral, "int", .origin⟩, ⟨.arg, "name", .origin⟩,
        ⟨.stringLiteral, "replicas", .origin⟩]).any
      (fun | .marker _ => true | _ => false) = true := by decide
  obtain ⟨item, hitem, hmarker⟩ := List.any_eq_true.1 h
  cases item with
  | marker found => exact ⟨found, hitem, readMarkers_conforms _ _ found hitem⟩
  | noMatch | warning | fault => cases hmarker

end ManifestMarkers
