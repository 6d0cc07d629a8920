import ManifestMarkers.Proofs.ArgumentSchema

/-!
# What faults leave of a marker

A marker is changed by its arguments and by the checks across them, and both can fail. What a fault
leaves is the marker that is there from then on.

* An argument that cannot be set leaves the marker as it was (`Marker.eq_of_assign_fault`).
* The checks take out the default before they look at it: `Field.validate_fst` says what they leave,
  with or without a fault.
* `Marker.left_of_fault` puts both together, with what becomes of the checks when they are repeated.
* `Marker.default_lost_of_checks`: a default that the type does not admit is gone afterwards, and
  with it the fault.
-/

namespace ManifestMarkers

/-! ### Arguments -/

section

variable {path name : String} {value : Literal} {e : Fault}

theorem Field.eq_of_assign_fault {f g : Field} (h : f.assign path name value = (g, some e)) :
    g = f := by
  unfold assign at h
  split at h
  · cases h
  · split at h
    · cases h
    · exact (Prod.mk.inj h).1.symm
  · cases h
  · cases h
  · cases h
  · exact (Prod.mk.inj h).1.symm

theorem Resource.eq_of_assign_fault {r s : Resource} (h : r.assign name value = (s, some e)) :
    s = r := by
  unfold assign at h
  split at h
  · cases h
  · cases h
  · cases h
  · cases h
  · exact (Prod.mk.inj h).1.symm

/-- An argument that cannot be set changes nothing. -/
theorem Marker.eq_of_assign_fault {m m' : Marker} (h : m.assign name value = (m', some e)) :
    m' = m := by
  obtain rfl : (m.assign name value).1 = m' := congrArg Prod.fst h
  have hfault : (m.assign name value).2 = some e := congrArg Prod.snd h
  cases m with
  | field f | collectionField f =>
    exact congrArg _ (Field.eq_of_assign_fault (Prod.ext rfl hfault))
  | resource r => exact congrArg _ (Resource.eq_of_assign_fault (Prod.ext rfl hfault))

end

/-! ### Checks of a field -/

namespace Field

variable {f : Field} {p : Point}

/-- What the checks leave of a field. The default is taken out before it is brought into the form of
its type, so it is gone if that fails. -/
theorem validate_fst (f : Field) (p : Point) :
    (f.validate p).1 = if isReserved f.name then f else f.settle := by
  unfold validate
  split
  · rfl
  · unfold settle
    split
    · next hdefault => rw [hdefault, Option.bind_none, ← hdefault]
    · next literal hdefault =>
      rw [hdefault, Option.bind_some, FieldType.coerce]
      cases f.type.accept? literal <;> rfl

theorem settle_eq_self_iff : f.settle = f ↔ ∀ literal ∈ f.default, f.type.Agrees literal := by
  have hdefault : f.settle = f ↔ f.default.bind f.type.accept? = f.default :=
    ⟨fun h => congrArg default h, fun h => by rw [settle, h]⟩
  rw [hdefault]
  cases f.default with
  | none => simp
  | some literal =>
    simp only [Option.bind_some, Option.mem_some_iff, forall_eq']
    exact ⟨FieldType.agrees_of_accept?, FieldType.accept?_of_agrees⟩

theorem validate_fst_eq_self_iff : (f.validate p).1 = f ↔
    isReserved f.name = true ∨ ∀ literal ∈ f.default, f.type.Agrees literal := by
  rw [validate_fst, ← settle_eq_self_iff]
  by_cases hname : isReserved f.name = true <;> simp [hname]

theorem validate_snd_eq_none_iff : (f.validate p).2 = none ↔
    isReserved f.name = false ∧ (∀ literal ∈ f.default, f.type.Admits literal) ∧
      ∀ pattern ∈ f.replace, Pattern.isPattern pattern = true := by
  rw [← patternFault?_eq_none]
  constructor
  · intro h
    obtain ⟨hname, hdefault, hpattern, -⟩ := validate_eq_iff.1 (Prod.ext rfl h)
    exact ⟨hname, hdefault, hpattern⟩
  · rintro ⟨hname, hdefault, hpattern⟩
    rw [validate_eq_iff.2 ⟨hname, hdefault, hpattern, rfl⟩]

/-- A default in the form of its type is admitted. -/
theorem admits_of_mem_settle : ∀ literal ∈ f.settle.default, f.type.Admits literal := by
  intro literal hliteral
  obtain ⟨given, -, haccept⟩ := Option.bind_eq_some_iff.1 hliteral
  rw [← FieldType.isSome_accept?_iff,
    FieldType.accept?_of_agrees (FieldType.agrees_of_accept? haccept)]
  rfl

/-- Checks that failed pass when they are repeated exactly if all there was to find was a default
that the type does not admit. -/
theorem validate_again_iff (h : (f.validate p).2 ≠ none) (q : Point) :
    ((f.validate p).1.validate q).2 = none ↔ isReserved f.name = false ∧
      (∃ literal ∈ f.default, ¬ f.type.Admits literal) ∧
      ∀ pattern ∈ f.replace, Pattern.isPattern pattern = true := by
  rw [Ne, validate_snd_eq_none_iff] at h
  rw [validate_fst]
  by_cases hname : isReserved f.name = true
  · simp [validate_snd_eq_none_iff, hname]
  · have hfree : isReserved f.name = false := by simpa using hname
    -- the default that is left, if any, is admitted, so only the pattern can fail again
    rw [if_neg hname, validate_snd_eq_none_iff]
    constructor
    · rintro ⟨-, -, hpattern⟩
      refine ⟨hfree, ?_, hpattern⟩
      by_contra hnone
      exact h ⟨hfree, fun literal hliteral => by_contra fun hrefused =>
        hnone ⟨literal, hliteral, hrefused⟩, hpattern⟩
    · rintro ⟨-, -, hpattern⟩
      exact ⟨hfree, admits_of_mem_settle, hpattern⟩

end Field

/-! ### Markers -/

namespace Marker

variable {m : Marker} {f : Field}

/-- The checks of a marker are those of its field. -/
theorem validate_of_field? (h : m.field? = some f) (p : Point) :
    m.validate p = (m.mapField fun _ => (f.validate p).1, (f.validate p).2) := by
  cases m with
  | field _ | collectionField _ => cases h; rfl
  | resource _ => cases h

theorem mapField_eq_self_iff (h : m.field? = some f) (g : Field) :
    (m.mapField fun _ => g) = m ↔ g = f := by
  cases m with
  | field _ | collectionField _ => cases h; simp [mapField]
  | resource _ => cases h

/-- The checks of a resource change nothing and do not depend on the place. -/
theorem validate_of_field?_eq_none (h : m.field? = none) (p q : Point) :
    (m.validate p).1 = m ∧ ((m.validate q).2 = none ↔ (m.validate p).2 = none) := by
  cases m with
  | field _ | collectionField _ => cases h
  | resource r =>
    refine ⟨rfl, ?_⟩
    show r.validate q = none ↔ r.validate p = none
    unfold Resource.validate
    split <;> simp

/-- What a fault leaves of a marker. An argument that cannot be set leaves it as it was. The checks
leave the default of a field in the form of its type, or without one if it has no such form; so the
marker is as it was exactly if its name is reserved or its default agrees with its type. Repeated,
the checks fail again, unless they failed because of the default alone. -/
theorem left_of_fault (m : Marker) :
    (∀ name value m' e, m.assign name value = (m', some e) → m' = m) ∧
    ∀ p m' e, m.validate p = (m', some e) →
      (∀ f, m.field? = some f → isReserved f.name = false → m' = m.settle) ∧
      (m' = m ↔ ∀ f, m.field? = some f →
        isReserved f.name = true ∨ ∀ literal ∈ f.default, f.type.Agrees literal) ∧
      ∀ q, (m'.validate q).2 = none ↔ ∃ f, m.field? = some f ∧ isReserved f.name = false ∧
        (∃ literal ∈ f.default, ¬ f.type.Admits literal) ∧
        ∀ pattern ∈ f.replace, Pattern.isPattern pattern = true := by
  refine ⟨fun name value m' e h => eq_of_assign_fault h, fun p m' e h => ?_⟩
  obtain rfl : (m.validate p).1 = m' := congrArg Prod.fst h
  have hfault : (m.validate p).2 = some e := congrArg Prod.snd h
  cases hfield : m.field? with
  | none =>
    obtain ⟨hsame, -⟩ := validate_of_field?_eq_none hfield p p
    have hagain (q : Point) := (validate_of_field?_eq_none hfield p q).2
    simp [hsame, hagain, hfault]
  | some f =>
    have hfails : (f.validate p).2 ≠ none := by
      rw [validate_of_field? hfield] at hfault
      exact Option.ne_none_iff_exists'.2 ⟨e, hfault⟩
    have hafter : (m.validate p).1.field? = some (f.validate p).1 := by
      rw [validate_of_field? hfield, field?_mapField, hfield]
      rfl
    simp only [Option.some.injEq, forall_eq', exists_eq_left']
    refine ⟨fun hname => ?_, ?_, fun q => ?_⟩
    · rw [validate_of_field? hfield, Field.validate_fst, if_neg (by simp [hname])]
      exact mapField_eq_of_field? hfield Field.settle
    · rw [validate_of_field? hfield, mapField_eq_self_iff hfield, Field.validate_fst_eq_self_iff]
    · rw [validate_of_field? hafter, Field.validate_again_iff hfails]

/-- With a pattern that is none the checks fail for good, but the default becomes text. -/
theorem left_of_fault_pattern : ∃ m m' e e', Marker.assign m "type" (.string "x") = (m, some e) ∧
    m.validate .origin = (m', some e') ∧ m' = m.settle ∧ m' ≠ m ∧
    ∀ q, (m'.validate q).2 ≠ none := by
  let f : Field := { name := "x", type := .string, default := some (.int 3), replace := some "(" }
  have hname : isReserved f.name = false := by decide
  have hpattern : Pattern.isPattern "(" = false := by decide
  have hvalidate : (collectionField f).validate .origin =
      (collectionField f.settle, some (.invalidPattern "(")) := by
    simp only [validate, Field.validate, hname]
    simp [f, Field.settle, FieldType.coerce, FieldType.accept?, Literal.isScalar,
      Field.patternFault?, hpattern]
  obtain ⟨hargument, hchecks⟩ := left_of_fault (collectionField f)
  obtain ⟨hsettle, hsame, hagain⟩ := hchecks _ _ _ hvalidate
  obtain ⟨m, e, hassign⟩ : ∃ m e, (collectionField f).assign "type" (.string "x") = (m, some e) :=
    ⟨_, _, rfl⟩
  obtain rfl := hargument _ _ _ _ hassign
  refine ⟨collectionField f, _, e, _, hassign, hvalidate, hsettle f rfl hname, fun h => ?_,
    fun q h => ?_⟩
  · obtain hreserved | hagrees := hsame.1 h f rfl
    · rw [hname] at hreserved
      cases hreserved
    · obtain ⟨s, hs⟩ := hagrees (.int 3) rfl
      cases hs
  · obtain ⟨g, hg, -, -, hreplace⟩ := (hagain q).1 h
    cases hg
    rw [hreplace "(" rfl] at hpattern
    cases hpattern

/-- The default of a number field is a text. The first checks say so and drop it, the second ones
find nothing. -/
theorem default_lost_of_checks : ∃ named typed m m' e,
    Variant.field.zero.assign "name" (.string "x") = (named, none) ∧
    named.assign "type" (.string "int") = (typed, none) ∧
    typed.assign "default" (.string "abc") = (m, none) ∧
    m.validate .origin = (m', some e) ∧ m' ≠ m ∧ m'.validate .origin = (m', none) := by
  have hname : isReserved "x" = false := by decide
  have hfirst : (field { name := "x", type := .int, default := some (.string "abc") }).validate
      .origin = (field { name := "x", type := .int },
        some (.mismatchedType "default" "int" "string" .origin)) := by
    simp only [validate, Field.validate, hname]
    rfl
  have hsecond : (field { name := "x", type := .int }).validate .origin =
      (field { name := "x", type := .int }, none) := by
    simp only [validate, Field.validate, hname]
    rfl
  exact ⟨_, _, _, _, _, rfl, rfl, rfl, hfirst, fun h => (by cases h), hsecond⟩

end Marker

end ManifestMarkers
