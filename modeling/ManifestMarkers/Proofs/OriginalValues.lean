import Mathlib.Data.List.DropRight
import ManifestMarkers.Proofs.PlaceholderEffects

/-!
# Original values

A field keeps the value that it annotates, for the sample and the default of its descriptor. An
inspection gets it from the manifest; placeholders get it again, from the manifest that they change.

* `Finding.newValue` is what one finding makes of a value, and `valueAt_place` that it does nothing
  else to values.
* `hasOriginal_placeAll_iff` carries it through a run.
* `hasOriginal_of_place_iff`: placeholders keep the original values exactly if no field changes a
  value before another field of the same target.
* `original_lost_of_shared`: with two fields for one value the second takes the placeholder of the
  first for the original.
-/

namespace ManifestMarkers

namespace Finding

/-- A field has the value of its target in a manifest. -/
def HasOriginal (m : Manifest) (f : Finding) : Prop :=
  ∀ field, f.marker.field? = some field →
    ∃ n, m.node? f.target.value = some n ∧ field.manifestValue = some n.value

/-- What a finding makes of the value of its target. -/
def newValue (p : Placeholders) (f : Finding) (value : String) : String :=
  match f.text? p value with
  | some (text, _) => text
  | none => value

section

variable {p : Placeholders} {f f' : Finding} {m m' : Manifest}

/-- A finding that is no field leaves values alone. -/
theorem newValue_of_field? (h : f.marker.field? = none) (value : String) :
    f.newValue p value = value := by
  rw [newValue, text?_eq_none h]

theorem value_onNode (p : Placeholders) (f : Finding) (id : Nat) (n : Manifest.Node) :
    (f.onNode p id n).value = if f.target.value = id then f.newValue p n.value else n.value := by
  unfold onNode
  split
  · have hvalue : (f.comments id n).value = n.value := rfl
    rcases write_cases p f (f.comments id n) with ⟨text, tag, htext, hwrite⟩ | ⟨htext, hwrite⟩
    · rw [hvalue] at htext
      rw [hwrite, newValue, htext]
      rfl
    · rw [hvalue] at htext
      rw [hwrite, newValue, htext, hvalue]
  · rfl

theorem valueAt_place (h : f.place p m = (m', .ok f')) {id : Nat} {n : Manifest.Node}
    (hn : m.node? id = some n) :
    m'.valueAt id = if f.target.value = id then f.newValue p (m.valueAt id) else m.valueAt id := by
  unfold Manifest.valueAt
  rw [(places_of_place h).node, hn, Option.map_some]
  exact value_onNode p f id n

theorem target_of_place (h : f.place p m = (m', .ok f')) : f'.target = f.target := by
  rw [(places_of_place h).finding]
  rfl

theorem field?_placed (f : Finding) (value : String) :
    (f.placed value).marker.field? = f.marker.field?.map fun field => { field with
      description := field.description.map Field.trimLineFeeds
      manifestValue := some value } := by
  exact Marker.field?_mapField f.marker _

/-- A finding that has been put in place has the value that was there. -/
theorem hasOriginal_of_place {m₀ : Manifest} (h : f.place p m = (m', .ok f'))
    {n : Manifest.Node} (hn : m₀.node? f.target.value = some n) :
    f'.HasOriginal m₀ ↔ (f.marker.field?.isSome = true →
      m.valueAt f.target.value = m₀.valueAt f.target.value) := by
  unfold HasOriginal
  rw [target_of_place h, hn, Manifest.valueAt_of_node? hn, (places_of_place h).finding,
    field?_placed]
  cases f.marker.field? with
  | none => simp
  | some field => simp

end

end Finding

/-- The documentation does not have the leading line feeds of a description. -/
theorem Field.documentation_trimLineFeeds (field : Field) :
    Field.documentation { field with description := field.description.map trimLineFeeds } =
      field.documentation := by
  unfold documentation
  cases field.description with
  | none => rfl
  | some description => simp [trimLineFeeds, List.dropWhile_idempotent]

theorem Field.descriptor_placed {field : Field} {value? : Option String}
    (h : value? = field.manifestValue) :
    Field.descriptor { field with
      description := field.description.map trimLineFeeds
      manifestValue := value? } = field.descriptor := by
  subst h
  have hdocumentation := documentation_trimLineFeeds field
  unfold descriptor
  dsimp only
  rw [← hdocumentation]
  rfl

/-! ### A run -/

namespace Manifest

section

variable {p : Placeholders} {fs fs' : List Finding} {m₀ m m' : Manifest}

/-- The fields of a run have the values of an earlier manifest exactly if these are still there at
the start, and no field changes one before another field gets it. -/
theorem hasOriginal_placeAll_iff (hkept : Nodewise (fun _ => Node.Kept) m₀ m)
    (hnodes : ∀ f ∈ fs, ∃ n, m₀.node? f.target.value = some n)
    (h : Finding.placeAll p fs m = (m', .ok fs')) :
    (∀ f ∈ fs', f.HasOriginal m₀) ↔
      (∀ f ∈ fs, f.marker.field?.isSome = true →
        m.valueAt f.target.value = m₀.valueAt f.target.value) ∧
      fs.Pairwise fun f g => f.target.value = g.target.value → g.marker.field?.isSome = true →
        f.newValue p (m₀.valueAt g.target.value) = m₀.valueAt g.target.value := by
  induction fs generalizing m fs' with
  | nil => cases h; simp
  | cons f fs ih =>
    obtain ⟨m₁, f', rest, hplace, hrest, rfl⟩ := Finding.placeAll_cons h
    obtain ⟨⟨n, hn⟩, hnodes⟩ := List.forall_mem_cons.1 hnodes
    have hnext : Nodewise (fun _ => Node.Kept) m₀ m₁ := by
      have hnext := kept_place p f hkept
      rwa [hplace] at hnext
    -- where `f` had the original, later fields have it if `f` did not change it
    have hstep (hf : f.marker.field?.isSome = true →
        m.valueAt f.target.value = m₀.valueAt f.target.value) {g : Finding} (hg : g ∈ fs) :
        m₁.valueAt g.target.value = m₀.valueAt g.target.value ↔
          m.valueAt g.target.value = m₀.valueAt g.target.value ∧
          (f.target.value = g.target.value →
            f.newValue p (m₀.valueAt g.target.value) = m₀.valueAt g.target.value) := by
      obtain ⟨n₀, hn₀⟩ := hnodes g hg
      obtain ⟨n₁, hn₁, -⟩ := hkept.exists_right hn₀
      rw [Finding.valueAt_place hplace hn₁]
      by_cases hsame : f.target.value = g.target.value
      · rw [if_pos hsame]
        rw [hsame] at hf
        cases hfield : f.marker.field? with
        | none => simp [Finding.newValue_of_field? hfield]
        | some field =>
          rw [hf (by rw [hfield]; rfl)]
          simp [hsame]
      · simp [hsame]
    rw [List.forall_mem_cons, Finding.hasOriginal_of_place hplace hn, ih hnext hnodes hrest,
      List.forall_mem_cons, List.pairwise_cons]
    constructor
    · rintro ⟨hf, hvalues, hpairs⟩
      exact ⟨⟨hf, fun g hg hfield => ((hstep hf hg).1 (hvalues g hg hfield)).1⟩,
        fun g hg hsame hfield => ((hstep hf hg).1 (hvalues g hg hfield)).2 hsame, hpairs⟩
    · rintro ⟨⟨hf, hvalues⟩, hfirst, hpairs⟩
      exact ⟨hf, fun g hg hfield => (hstep hf hg).2 ⟨hvalues g hg hfield,
        fun hsame => hfirst g hg hsame hfield⟩, hpairs⟩

/-- Fields that have the same value before and after have the same descriptor: of a description only
the lines of the documentation count. -/
theorem descriptor?_of_place {f f' : Finding} (h : f.place p m = (m', .ok f'))
    (hf : f.HasOriginal m₀) (hf' : f'.HasOriginal m₀) :
    f'.marker.descriptor? = f.marker.descriptor? := by
  have hplaced := (Finding.places_of_place h).finding
  unfold Marker.descriptor?
  rw [Finding.HasOriginal, Finding.target_of_place h] at hf'
  rw [hplaced, Finding.field?_placed] at hf' ⊢
  cases hfield : f.marker.field? with
  | none => rfl
  | some field =>
    rw [hfield] at hf'
    obtain ⟨n, hn, hvalue⟩ := hf field hfield
    obtain ⟨n', hn', hvalue'⟩ := hf' _ rfl
    obtain rfl : n = n' := Option.some.inj (hn.symm.trans hn')
    exact congrArg some (Field.descriptor_placed (hvalue'.trans hvalue.symm))

theorem descriptors_placeAll (h : Finding.placeAll p fs m = (m', .ok fs'))
    (hbefore : ∀ f ∈ fs, f.HasOriginal m₀) (hafter : ∀ f ∈ fs', f.HasOriginal m₀) :
    fs'.map (·.marker.descriptor?) = fs.map (·.marker.descriptor?) := by
  induction fs generalizing m fs' with
  | nil => cases h; rfl
  | cons f fs ih =>
    obtain ⟨m₁, f', rest, hplace, hrest, rfl⟩ := Finding.placeAll_cons h
    obtain ⟨hf, hbefore⟩ := List.forall_mem_cons.1 hbefore
    obtain ⟨hf', hafter⟩ := List.forall_mem_cons.1 hafter
    rw [List.map_cons, List.map_cons, descriptor?_of_place hplace hf hf', ih hrest hbefore hafter]

end

/-! ### Placeholders of an inspection -/

section

variable {registry : Registry} {text : String} {p : Placeholders} {m m' : Manifest}
  {i i' : Inspection}

/-- An inspection whose placeholders can be put in place has the values that the fields annotate. -/
theorem hasOriginal_of_inspect (hparse : parse text = .ok m) (hinspect : m.inspect registry = .ok i)
    (hplace : i.place p m = (m', .ok i')) : ∀ f ∈ i.findings, f.HasOriginal m := by
  intro f hf field hfield
  obtain ⟨n, hn, hvalue⟩ := manifestValue_of_inspect hparse hinspect f hf field hfield
  have hscalar : n.kind = .scalar := scalar_of_placeAll (kept_refl m)
    (Inspection.placeAll_of_place hplace) f hf (by rw [hfield]; rfl) n hn
  rw [if_pos (by simp [Node.isScalar, hscalar])] at hvalue
  exact ⟨n, hn, hvalue⟩

/-- The fields still have their original values after placeholders exactly if no field changes one
before another field of the same target gets it. Then their descriptors are what they were. -/
theorem hasOriginal_of_place_iff (hparse : parse text = .ok m)
    (hinspect : m.inspect registry = .ok i) (hplace : i.place p m = (m', .ok i')) :
    (∀ f ∈ i.findings, f.HasOriginal m) ∧
    ((∀ f ∈ i'.findings, f.HasOriginal m) ↔
      i.findings.Pairwise fun f g => f.target = g.target → g.marker.field?.isSome = true →
        ∀ n, m.node? g.target.value = some n → f.newValue p n.value = n.value) ∧
    ((∀ f ∈ i'.findings, f.HasOriginal m) →
      i'.findings.map (·.marker.descriptor?) = i.findings.map (·.marker.descriptor?)) := by
  have hbefore := hasOriginal_of_inspect hparse hinspect hplace
  have hall := Inspection.placeAll_of_place hplace
  have htargets := target_mem_of_inspect hinspect
  have hnodes (f : Finding) (hf : f ∈ i.findings) : ∃ n, m.node? f.target.value = some n :=
    exists_node_of_mem_targets hparse (htargets f hf) (Target.mem_nodes_iff.2 (.inr rfl))
  refine ⟨hbefore, ?_, fun hafter => descriptors_placeAll hall hbefore hafter⟩
  rw [hasOriginal_placeAll_iff (kept_refl m) hnodes hall]
  constructor
  · rintro ⟨-, hpairs⟩
    refine hpairs.imp fun {f g} hpair hsame hfield n hn => ?_
    have hnew := hpair (congrArg Target.value hsame) hfield
    rwa [valueAt_of_node? hn] at hnew
  · intro hpairs
    refine ⟨fun f _ _ => rfl, hpairs.imp_of_mem fun {f g} hf hg hpair hsame hfield => ?_⟩
    -- a node belongs to one target only
    have htarget : f.target = g.target := eq_of_mem_targets hparse (htargets f hf) (htargets g hg)
      (Target.mem_nodes_iff.2 (.inr hsame)) (Target.mem_nodes_iff.2 (.inr rfl))
    obtain ⟨n, hn⟩ := hnodes g hg
    rw [valueAt_of_node? hn]
    exact hpair htarget hfield n hn

end

/-- The pattern of the first field matches nothing, so the second one still gets the value. -/
theorem hasOriginal_of_place_iff_splice : ∃ m i m' i',
    parse ("# +operator-builder:field:name=x,type=string,replace=\"w\"\n" ++
      "# +operator-builder:field:name=y,type=string\na: v\n") = .ok m ∧
    m.inspect operatorRegistry = .ok i ∧ i.place {} m = (m', .ok i') ∧ i.findings.length = 2 ∧
    (∀ f ∈ i'.findings, f.HasOriginal m) ∧
    i'.findings.map (·.marker.descriptor?) = i.findings.map (·.marker.descriptor?) := by
  have h : (placement? operatorRegistry {}
      ("# +operator-builder:field:name=x,type=string,replace=\"w\"\n" ++
        "# +operator-builder:field:name=y,type=string\na: v\n")).map
      (fun (m, i, _) => i.findings.map fun f => (m.valueAt f.target.value, f.newValue {} "v")) =
        some [("v", "v"), ("v", "parent.Spec.Y")] := by
    rw [placement?, parse_eq_ite, String.toList_append, String.toList_ofList, String.toList_ofList]
    decide +kernel
  obtain ⟨⟨m, i, m', i'⟩, hplaced, h⟩ := Option.map_eq_some_iff.1 h
  obtain ⟨hm, hi, hplace⟩ := place_of_placement? hplaced
  obtain ⟨f, rest, hfindings, hf, hrest⟩ := List.map_eq_cons_iff.1 h
  obtain ⟨g, rest, rfl, hg, hnil⟩ := List.map_eq_cons_iff.1 hrest
  obtain rfl := List.map_eq_nil_iff.1 hnil
  obtain ⟨-, hnew⟩ := Prod.mk.inj hf
  obtain ⟨hvalue, -⟩ := Prod.mk.inj hg
  obtain ⟨-, hiff, hdescriptors⟩ := hasOriginal_of_place_iff hm hi hplace
  have hafter : ∀ f ∈ i'.findings, f.HasOriginal m := by
    refine hiff.2 (hfindings ▸ List.pairwise_pair.2 fun _ _ n hn => ?_)
    rw [← valueAt_of_node? hn, hvalue, hnew]
  exact ⟨m, i, m', i', hm, hi, hplace, by rw [hfindings]; rfl, hafter, hdescriptors hafter⟩

/-- The second of two fields for one value takes the placeholder of the first for the original. -/
theorem original_lost_of_shared : ∃ m i m' i' f field n,
    parse ("# +operator-builder:field:name=x,type=string\n" ++
      "# +operator-builder:field:name=y,type=string\na: v\n") = .ok m ∧
    m.inspect operatorRegistry = .ok i ∧ i.place {} m = (m', .ok i') ∧
    f ∈ i'.findings ∧ f.marker.field? = some field ∧ m.node? f.target.value = some n ∧
    n.value = "v" ∧ field.manifestValue = some "parent.Spec.X" := by
  have h : (placement? operatorRegistry {}
      ("# +operator-builder:field:name=x,type=string\n" ++
        "# +operator-builder:field:name=y,type=string\na: v\n")).map
      (fun (m, _, _, i') => i'.findings.map fun f =>
        ((m.node? f.target.value).map (·.value), f.marker.field?.bind (·.manifestValue))) =
        some [(some "v", some "v"), (some "v", some "parent.Spec.X")] := by
    rw [placement?, parse_eq_ite, String.toList_append, String.toList_ofList, String.toList_ofList]
    decide +kernel
  obtain ⟨⟨m, i, m', i'⟩, hplaced, h⟩ := Option.map_eq_some_iff.1 h
  obtain ⟨hm, hi, hplace⟩ := place_of_placement? hplaced
  obtain ⟨f, hf, heq⟩ := List.mem_map.1 (h ▸ List.mem_cons_of_mem _ List.mem_cons_self)
  obtain ⟨hvalue, hkept⟩ := Prod.mk.inj heq
  obtain ⟨n, hn, hvalue⟩ := Option.map_eq_some_iff.1 hvalue
  obtain ⟨field, hfield, hkept⟩ := Option.bind_eq_some_iff.1 hkept
  exact ⟨m, i, m', i', f, field, n, hm, hi, hplace, hf, hfield, hn, hvalue, hkept⟩

end Manifest

end ManifestMarkers
