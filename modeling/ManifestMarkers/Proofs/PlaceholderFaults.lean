import ManifestMarkers.Proofs.PlaceholderEffects

/-!
# Where placeholders fail

A field can only take the place of a scalar. A finding is checked right before it is put in place,
when the findings before it have already been, so a fault leaves a manifest that is changed in part.

* `Finding.IsBlocked` says that a finding is a field on a collection. No placeholder turns a scalar
  into a collection or back, so this can be told from the manifest at the start.
* `Finding.exists_placeAll`: a run without such a finding succeeds, since patterns were checked when
  the markers were read (`Manifest.hasPattern_of_inspect`).
* `Manifest.place_error_iff`: a run fails exactly if some finding is blocked, and the first of them
  ends it.
-/

namespace ManifestMarkers

/-! ### One finding -/

namespace Finding

/-- A finding is a field on a node that is no scalar. -/
structure IsBlockedBy (m : Manifest) (f : Finding) (field : Field) (n : Manifest.Node) : Prop where
  field : f.marker.field? = some field
  node : m.node? f.target.value = some n
  kind : n.kind = .mapping ∨ n.kind = .sequence

/-- A finding that cannot be put in place. -/
def IsBlocked (m : Manifest) (f : Finding) : Prop :=
  ∃ field n, f.IsBlockedBy m field n

/-- The pattern of a field can be used. -/
def HasPattern (f : Finding) : Prop :=
  ∀ field, f.marker.field? = some field →
    ∀ pattern ∈ field.replace, Pattern.isPattern pattern = true

variable {p : Placeholders} {f f' : Finding} {m m' : Manifest} {field : Field}
  {n : Manifest.Node}

theorem exists_replacement (h : ∀ pattern ∈ field.replace, Pattern.isPattern pattern = true)
    (spec value : String) : ∃ written, replacement field spec value = .ok written := by
  unfold replacement
  cases hreplace : field.replace with
  | none => exact ⟨_, rfl⟩
  | some pattern =>
    have hcompile : (Pattern.compile? pattern).isSome = true := by
      simpa [Pattern.compile?, Pattern.isPattern] using h pattern hreplace
    obtain ⟨compiled, hcompiled⟩ := Option.isSome_iff_exists.1 hcompile
    simp only [hcompiled]
    exact ⟨_, rfl⟩

theorem exists_placeField (h : ∀ pattern ∈ field.replace, Pattern.isPattern pattern = true)
    (f : Finding) (spec : String) (m : Manifest) :
    ∃ m' f', f.placeField field spec m = (m', .ok f') := by
  obtain ⟨-, hok⟩ := placeField_eq f field spec m
  obtain ⟨written, hwritten⟩ :=
    exists_replacement h spec ((f.describe field m).valueAt f.target.value)
  rw [hwritten] at hok
  cases hplaced : (f.placeField field spec m).2 with
  | error e => rw [hplaced] at hok; cases hok
  | ok f' => exact ⟨_, f', Prod.ext rfl hplaced⟩

/-- A blocked finding changes nothing. -/
theorem place_of_isBlockedBy (p : Placeholders) (h : f.IsBlockedBy m field n) :
    f.place p m = (m, .error (.nonScalarField field.name n.line)) := by
  have hscalar : n.isScalar = false := by
    rcases h.kind with hkind | hkind <;> simp [Manifest.Node.isScalar, hkind]
  simp [place, nonScalar?, h.field, h.node, hscalar]

theorem nonScalar?_eq_none (h : ¬ f.IsBlocked m) : f.nonScalar? m = none := by
  unfold nonScalar?
  split
  · next field n hfield hn =>
    rw [if_pos]
    by_contra hscalar
    refine h ⟨field, n, hfield, hn, ?_⟩
    cases hkind : n.kind with
    | mapping => exact .inl rfl
    | sequence => exact .inr rfl
    | scalar => simp [Manifest.Node.isScalar, hkind] at hscalar
  · rfl

theorem exists_place (hpattern : f.HasPattern) (h : ¬ f.IsBlocked m) :
    ∃ m' f', f.place p m = (m', .ok f') := by
  unfold place
  rw [nonScalar?_eq_none h]
  dsimp only
  split
  · next field spec hfield _ => exact exists_placeField (hpattern field hfield) f spec _
  · exact ⟨_, _, rfl⟩

/-- Placeholders do not block findings. -/
theorem isBlocked_of_kept (hkept : Manifest.Nodewise (fun _ => Manifest.Node.Kept) m m')
    (h : f.IsBlocked m') : f.IsBlocked m := by
  obtain ⟨field, n', hfield, hn', hkind⟩ := h
  obtain ⟨n, hn, hrel⟩ := hkept.exists_left hn'
  exact ⟨field, n, hfield, hn, hrel.kind ▸ hkind⟩

/-! ### A run -/

variable {fs fs' before : List Finding}

/-- A run without blocked findings succeeds. -/
theorem exists_placeAll (hpatterns : ∀ f ∈ fs, f.HasPattern) (h : ∀ f ∈ fs, ¬ f.IsBlocked m) :
    ∃ m' fs', placeAll p fs m = (m', .ok fs') := by
  induction fs generalizing m with
  | nil => exact ⟨m, [], rfl⟩
  | cons f fs ih =>
    obtain ⟨hpattern, hpatterns⟩ := List.forall_mem_cons.1 hpatterns
    obtain ⟨hf, hfs⟩ := List.forall_mem_cons.1 h
    obtain ⟨m₁, f', hplace⟩ := exists_place (p := p) hpattern hf
    have hkept := Manifest.kept_place p f (Manifest.kept_refl m)
    rw [hplace] at hkept
    obtain ⟨m', rest, hrest⟩ :=
      ih hpatterns fun g hg hblocked => hfs g hg (isBlocked_of_kept hkept hblocked)
    exact ⟨m', f' :: rest, by simp only [placeAll, hplace, hrest]⟩

/-- A finding that fails after others ends the run, with the manifest as it leaves it. -/
theorem placeAll_append_error {e : Fault} (hbefore : placeAll p before m = (m', .ok fs'))
    (hplace : f.place p m' = (m', .error e)) (after : List Finding) :
    placeAll p (before ++ f :: after) m = (m', .error e) := by
  induction before generalizing m fs' with
  | nil =>
    cases hbefore
    simp only [List.nil_append, placeAll, hplace]
  | cons g before ih =>
    obtain ⟨m₁, g', rest, hg, hrest, -⟩ := placeAll_cons hbefore
    simp only [List.cons_append, placeAll, hg, ih hrest]

/-- A finding that is blocked at the start is blocked after other findings, by the same line. -/
theorem exists_isBlockedBy_of_placeAll (hbefore : placeAll p before m = (m', .ok fs'))
    (h : f.IsBlockedBy m field n) : ∃ n', f.IsBlockedBy m' field n' ∧ n'.line = n.line := by
  obtain ⟨n', hn', hsame, -⟩ := (Manifest.frame_placeAll hbefore).exists_right h.node
  exact ⟨n', ⟨h.field, hn', hsame.kind ▸ h.kind⟩, hsame.line⟩

end Finding

/-! ### Placeholders of an inspection -/

namespace Inspection

variable {registry : Registry} {m : Manifest}

theorem replace_withValue {value? : Option Manifest.Node} {marker : Marker} {field : Field}
    (h : (withValue value? marker).field? = some field) :
    ∃ read, marker.field? = some read ∧ field.replace = read.replace := by
  unfold withValue at h
  split at h
  · split at h
    · cases marker with
      | field read | collectionField read => cases h; exact ⟨read, rfl, rfl⟩
      | resource r => cases h
    · exact ⟨field, h, rfl⟩
  · exact ⟨field, h, rfl⟩

theorem hasPattern_of_ofId {id : Nat} {i : Inspection} (h : ofId registry m id = .ok i) :
    ∀ f ∈ i.findings, f.HasPattern := by
  unfold ofId ofNode at h
  dsimp only at h
  split at h
  · cases h; simp
  · split at h
    · split at h
      · cases h
      · next markers warnings hparse =>
        cases h
        intro f hf field hfield
        obtain ⟨found, hfound, rfl⟩ := List.mem_map.1 hf
        obtain ⟨read, hread, hreplace⟩ := replace_withValue hfield
        rw [hreplace]
        exact (conforms_of_parseMarkers hparse hfound hread).replace
    · cases h; simp

end Inspection

namespace Manifest

section

variable {registry : Registry} {text : String} {p : Placeholders} {m : Manifest} {i : Inspection}

theorem hasPattern_of_inspect (hparse : parse text = .ok m)
    (hinspect : m.inspect registry = .ok i) : ∀ f ∈ i.findings, f.HasPattern := by
  intro f hf
  rw [inspect_eq_gather hparse] at hinspect
  obtain ⟨id, -, j, hj, hfj⟩ := (Inspection.mem_findings_of_gather hinspect).2 f hf
  exact Inspection.hasPattern_of_ofId hj f hfj

/-- Placeholders fail exactly if some finding is a field on a mapping or a sequence. The first of
these findings ends the run: the fault has the name of its field and the line of its value, and the
manifest is left as the findings before it make it. So no target from there on is touched, unless it
is a target of the findings before. -/
theorem place_error_iff (hparse : parse text = .ok m) (hinspect : m.inspect registry = .ok i) :
    ((∃ m' e, i.place p m = (m', .error e)) ↔ ∃ f ∈ i.findings, f.IsBlocked m) ∧
    ∀ before f after field n, i.findings = before ++ f :: after →
      (∀ g ∈ before, ¬ g.IsBlocked m) → f.IsBlockedBy m field n →
      ∃ m' i', Inspection.place { i with findings := before } p m = (m', .ok i') ∧
        i.place p m = (m', .error (.nonScalarField field.name n.line)) ∧
        ∀ g ∈ f :: after, (∀ h ∈ before, h.target ≠ g.target) →
          ∀ id ∈ g.target.nodes, m'.node? id = m.node? id := by
  have hpatterns := hasPattern_of_inspect hparse hinspect
  have htargets := target_mem_of_inspect hinspect
  refine ⟨⟨fun hfails => ?_, fun ⟨f, hf, field, n, hblocked⟩ => ?_⟩,
    fun before f after field n hfs hfree hblocked => ?_⟩
  · by_contra hnone
    obtain ⟨m', fs', hall⟩ := Finding.exists_placeAll (p := p) hpatterns
      fun f hf hblocked => hnone ⟨f, hf, hblocked⟩
    obtain ⟨m'', e, hfails⟩ := hfails
    rw [Inspection.place, hall] at hfails
    cases hfails
  · cases hplace : i.place p m with
    | mk m' result =>
      cases result with
      | error e => exact ⟨m', e, rfl⟩
      | ok i' =>
        have hkind := scalar_of_placeAll (kept_refl m) (Inspection.placeAll_of_place hplace) f hf
          (by rw [hblocked.field]; rfl) n hblocked.node
        rcases hblocked.kind with h | h <;> rw [hkind] at h <;> cases h
  · have hmem (g : Finding) (hg : g ∈ before ++ f :: after) : g ∈ i.findings := hfs ▸ hg
    obtain ⟨m', before', hbefore⟩ := Finding.exists_placeAll (p := p)
      (fun g hg => hpatterns g (hmem g (List.mem_append_left _ hg))) hfree
    obtain ⟨n', hblocked', hline⟩ := Finding.exists_isBlockedBy_of_placeAll hbefore hblocked
    have hplace := Finding.place_of_isBlockedBy p hblocked'
    rw [hline] at hplace
    have hall := Finding.placeAll_append_error hbefore hplace after
    refine ⟨m', _, by rw [Inspection.place, hbefore], by rw [Inspection.place, hfs, hall],
      fun g hg hapart id hid => ?_⟩
    -- a node of two targets would make them one
    have hno (h : Finding) (hh : h ∈ before) : id ∉ h.target.nodes := fun hid' =>
      hapart h hh (eq_of_mem_targets hparse (htargets h (hmem h (List.mem_append_left _ hh)))
        (htargets g (hmem g (List.mem_append_right _ hg))) hid' hid)
    rw [Finding.node?_placeAll hbefore]
    cases m.node? id with
    | none => rfl
    | some n => rw [Option.map_some, Finding.onNodes_of_notMem hno]

end

/-- A field on a mapping between two fields on scalars. -/
def blockedText : String :=
  "# +f:name=x,type=int\na: 1\n# +f:name=y,type=int\nb:\n  c: 2\n# +f:name=z,type=int\ne: 3\n"

/-- A registry with a path of its own for fields. -/
def shortRegistry : Registry := ⟨[⟨"+f", .field⟩]⟩

/-- The first field is put in place, and the last one is left alone. -/
theorem place_error_iff_between : ∃ m i m' i' f g h field n, parse blockedText = .ok m ∧
    m.inspect shortRegistry = .ok i ∧ i.findings = [f, g, h] ∧ ¬ f.IsBlocked m ∧
    g.IsBlockedBy m field n ∧ (∃ m' e, i.place {} m = (m', .error e)) ∧
    Inspection.place { i with findings := [f] } {} m = (m', .ok i') ∧
    i.place {} m = (m', .error (.nonScalarField "y" 5)) ∧
    ∀ id ∈ h.target.nodes, m'.node? id = m.node? id := by
  have h : ((parse blockedText).toOption.bind fun m =>
      (m.inspect shortRegistry).toOption.map fun i => (m, i)).map (fun (m, i) =>
      i.findings.map fun f => (f.target, f.marker.field?.map (·.name),
        (m.node? f.target.value).map fun n => (n.kind, n.line))) =
      some [(.pair 1 2, some "x", some (.scalar, 2)), (.pair 3 4, some "y", some (.mapping, 5)),
        (.pair 7 8, some "z", some (.scalar, 7))] := by
    unfold blockedText
    rw [parse_eq_ite, String.toList_ofList]
    decide +kernel
  obtain ⟨⟨m, i⟩, hread, h⟩ := Option.map_eq_some_iff.1 h
  obtain ⟨m, hm, hread⟩ := Option.bind_eq_some_iff.1 hread
  obtain ⟨i, hi, heq⟩ := Option.map_eq_some_iff.1 hread
  cases heq
  have hm := eq_ok_of_toOption hm
  have hi := eq_ok_of_toOption hi
  obtain ⟨f, rest, hfindings, hf, hrest⟩ := List.map_eq_cons_iff.1 h
  obtain ⟨g, rest, rfl, hg, hrest⟩ := List.map_eq_cons_iff.1 hrest
  obtain ⟨z, rest, rfl, hz, hnil⟩ := List.map_eq_cons_iff.1 hrest
  obtain rfl := List.map_eq_nil_iff.1 hnil
  simp only [Prod.mk.injEq, Option.map_eq_some_iff] at hf hg hz
  obtain ⟨hftarget, -, n₁, hn₁, hscalar, -⟩ := hf
  obtain ⟨-, ⟨field, hfield, hname⟩, n, hn, hkind, hline⟩ := hg
  obtain ⟨hztarget, -⟩ := hz
  have hfree : ¬ f.IsBlocked m := by
    rintro ⟨-, n, -, hn, hkind⟩
    obtain rfl := Option.some.inj (hn₁.symm.trans hn)
    rw [hscalar] at hkind
    rcases hkind with hkind | hkind <;> cases hkind
  have hblocked : g.IsBlockedBy m field n := ⟨hfield, hn, .inl hkind⟩
  obtain ⟨hiff, hfirst⟩ := place_error_iff (p := {}) hm hi
  obtain ⟨m', i', hbefore, hplace, hrest⟩ :=
    hfirst [f] g [z] field n hfindings (by simpa using hfree) hblocked
  rw [hname, hline] at hplace
  refine ⟨m, i, m', i', f, g, z, field, n, hm, hi, hfindings, hfree, hblocked,
    hiff.2 ⟨g, by simp [hfindings], field, n, hblocked⟩, hbefore, hplace, hrest z (by simp) ?_⟩
  simp [hftarget, hztarget]

end Manifest

end ManifestMarkers
