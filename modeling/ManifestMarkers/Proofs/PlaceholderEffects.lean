import ManifestMarkers.Proofs.Descriptions

/-!
# What placeholders change

Findings are put in place one after the other, and several of them may name the same value. What
they leave behind is told by the last ones.

* `Finding.onNode` is what one finding does to one node, as a function of the node;
  `Finding.places_of_place` says that this is all that placing does.
* `node?_placeAll` carries it through a run, and `placeAll_append` takes a run apart at a finding.
  `onNodes_of_notMem` and `text_onNodes` say what later findings leave as it is.
* `effects_of_place`: the tree stays as it is, the comments of a target are those of its last
  finding, and its value is that of its last field.
-/

namespace ManifestMarkers

theorem Target.mem_nodes_iff {t : Target} {id : Nat} :
    id ∈ t.nodes ↔ t.key = id ∨ t.value = id := by
  cases t <;> simp [nodes, key, value, eq_comm]

namespace Finding

/-! ### One finding -/

/-- The comment that a finding puts above its target, empty without a description. -/
def headComment (f : Finding) : String :=
  match f.marker.field?.bind fun field => field.description.map fun description =>
      descriptionComment (Field.trimLineFeeds description) field.name with
  | some comment => comment
  | none => ""

/-- The value and the tag that a finding puts in place of a value. -/
def text? (p : Placeholders) (f : Finding) (value : String) : Option (String × String) :=
  f.marker.field?.bind fun field => (specOf p f.marker).bind fun spec =>
    (replacement field spec value).toOption

/-- The comments of the node `id` after a finding. -/
def comments (f : Finding) (id : Nat) (n : Manifest.Node) : Manifest.Node :=
  { n with
    headComment := if f.target.key = id then f.headComment else n.headComment
    footComment := if f.target.key = id then "" else n.footComment
    lineComment := if f.target.key = id ∨ f.target.value = id then "" else n.lineComment }

/-- The value and the tag of a node after a finding. -/
def write (p : Placeholders) (f : Finding) (n : Manifest.Node) : Manifest.Node :=
  match f.text? p n.value with
  | some (text, tag) => (n.setTag tag).setValue text
  | none => n

/-- What a finding does to the node `id`. -/
def onNode (p : Placeholders) (f : Finding) (id : Nat) (n : Manifest.Node) : Manifest.Node :=
  if f.target.value = id then f.write p (f.comments id n) else f.comments id n

/-- A finding after it has been put in place of a value. -/
def placed (f : Finding) (value : String) : Finding :=
  { f with marker := f.marker.mapField fun field => { field with
      description := field.description.map Field.trimLineFeeds
      manifestValue := some value } }

end Finding

namespace Manifest

theorem valueAt_of_node? {m : Manifest} {id : Nat} {n : Node} (h : m.node? id = some n) :
    m.valueAt id = n.value := by
  rw [valueAt, h]

theorem valueAt_modify (m : Manifest) (id i : Nat) {g : Node → Node}
    (hg : ∀ n, (g n).value = n.value) : (m.modify id g).valueAt i = m.valueAt i := by
  by_cases hid : id = i
  · cases hn : m.node? i <;> simp [valueAt, node?_modify, hid, hn, hg]
  · simp [valueAt, node?_modify, hid]

end Manifest

namespace Finding

variable {p : Placeholders} {f f' : Finding} {m m' : Manifest}

theorem valueAt_clearComments (f : Finding) (m : Manifest) (id : Nat) :
    (f.clearComments m).valueAt id = m.valueAt id := by
  unfold clearComments
  rw [Manifest.valueAt_modify, Manifest.valueAt_modify]
  · exact fun _ => rfl
  · exact fun _ => rfl

theorem valueAt_describe (f : Finding) (field : Field) (m : Manifest) (id : Nat) :
    (f.describe field m).valueAt id = m.valueAt id := by
  unfold describe
  split
  · exact Manifest.valueAt_modify _ _ _ fun _ => rfl
  · rfl

/-- Only fields have a text to put in place. -/
theorem text?_eq_none (h : f.marker.field? = none) (value : String) : f.text? p value = none := by
  simp [text?, h]

theorem finding_of_placeField {field : Field} {spec : String}
    (hfield : f.marker.field? = some field) (h : f.placeField field spec m = (m', .ok f')) :
    f' = f.placed (m.valueAt f.target.value) := by
  rw [← valueAt_describe f field m, placed, ← Marker.mapField_eq_of_field? hfield]
  unfold placeField at h
  unfold describe Manifest.valueAt
  cases hdescription : field.description <;>
    simp only [hdescription, Option.map_none, Option.map_some] at h ⊢ <;>
    split at h <;> cases h <;> rfl

theorem node?_clearComments (f : Finding) (m : Manifest) (id : Nat) :
    (f.clearComments m).node? id = (m.node? id).map fun n =>
      { f.comments id n with
        headComment := if f.target.key = id then "" else n.headComment } := by
  unfold clearComments
  simp only [Manifest.node?_modify]
  cases m.node? id with
  | none => simp
  | some n =>
    by_cases hkey : f.target.key = id <;> by_cases hvalue : f.target.value = id <;>
      simp [comments, hkey, hvalue]

/-- Without a description the comments of a target are only removed. -/
theorem node?_clearComments_of_headComment (h : f.headComment = "") (m : Manifest) (id : Nat) :
    (f.clearComments m).node? id = (m.node? id).map (f.comments id) := by
  rw [node?_clearComments]
  cases m.node? id with
  | none => rfl
  | some n => simp only [Option.map_some, comments, h]

/-- The comments of a target are removed, and a description takes their place. -/
theorem node?_describe {field : Field} (hfield : f.marker.field? = some field) (m : Manifest)
    (id : Nat) :
    (f.describe field (f.clearComments m)).node? id = (m.node? id).map (f.comments id) := by
  unfold describe
  cases hdescription : field.description with
  | none =>
    have hhead : f.headComment = "" := by simp [headComment, hfield, hdescription]
    exact node?_clearComments_of_headComment hhead m id
  | some description =>
    have hhead : f.headComment =
        descriptionComment (Field.trimLineFeeds description) field.name := by
      simp [headComment, hfield, hdescription]
    rw [Manifest.node?_modify, node?_clearComments]
    cases m.node? id with
    | none => simp
    | some n => by_cases hkey : f.target.key = id <;> simp [comments, hkey, hhead]

/-- What placing a finding comes to. -/
structure Places (p : Placeholders) (f : Finding) (m m' : Manifest) (f' : Finding) : Prop where
  node : ∀ id, m'.node? id = (m.node? id).map (f.onNode p id)
  finding : f' = f.placed (m.valueAt f.target.value)
  text : f.marker.field?.isSome = true → (f.text? p (m.valueAt f.target.value)).isSome = true

theorem places_placeField {field : Field} {spec : String} (hfield : f.marker.field? = some field)
    (hspec : specOf p f.marker = some spec)
    (h : f.placeField field spec (f.clearComments m) = (m', .ok f')) : Places p f m m' f' := by
  obtain ⟨hmanifest, hok⟩ := placeField_eq f field spec (f.clearComments m)
  rw [h, valueAt_describe, valueAt_clearComments] at hmanifest hok
  cases hreplacement : replacement field spec (m.valueAt f.target.value) with
  | error e => rw [hreplacement] at hok; cases hok
  | ok written =>
    obtain ⟨text, tag⟩ := written
    rw [hreplacement] at hmanifest
    have htext : f.text? p (m.valueAt f.target.value) = some (text, tag) := by
      simp [text?, hfield, hspec, hreplacement, Except.toOption]
    refine ⟨fun id => ?_, ?_, fun _ => by rw [htext]; rfl⟩
    · show m'.node? id = _
      have hm' : m' = _ := hmanifest
      rw [hm', Manifest.node?_modify, node?_describe hfield]
      cases hn : m.node? id with
      | none => simp
      | some n =>
        by_cases hvalue : f.target.value = id
        · -- the value has not been changed by the comments
          have hat : m.valueAt f.target.value = (f.comments id n).value := by
            rw [hvalue, Manifest.valueAt_of_node? hn]
            rfl
          rw [hat] at htext
          simp [onNode, hvalue, write, htext]
        · simp [onNode, hvalue]
    · rw [finding_of_placeField hfield h, valueAt_clearComments]

/-- A finding that is no field only loses its comments. -/
theorem places_clearComments (h : f.marker.field? = none) :
    Places p f m (f.clearComments m) f := by
  refine ⟨fun id => ?_, ?_, fun hfield => by rw [h] at hfield; cases hfield⟩
  · rw [node?_clearComments_of_headComment (by simp [headComment, h])]
    congr 1
    funext n
    simp [onNode, write, text?_eq_none h]
  · obtain ⟨path, marker, target, raw, position, line⟩ := f
    cases marker with
    | field _ | collectionField _ => cases h
    | resource r => rfl

/-- A finding that is put in place changes the nodes of its target and nothing else. -/
theorem places_of_place (h : f.place p m = (m', .ok f')) : Places p f m m' f' := by
  unfold place at h
  split at h
  · cases h
  · dsimp only at h
    split at h
    · next field spec hfield hspec => exact places_placeField hfield hspec h
    · next hno =>
      cases h
      refine places_clearComments ?_
      cases hfield : f.marker.field? with
      | none => rfl
      | some field =>
        obtain ⟨spec, hspec⟩ := exists_specOf p hfield
        exact absurd hspec (hno field spec hfield)

/-! ### All findings -/

/-- What findings do to the node `id`, one after the other. -/
def onNodes (p : Placeholders) (fs : List Finding) (id : Nat) (n : Manifest.Node) :
    Manifest.Node :=
  fs.foldl (fun n f => f.onNode p id n) n

theorem node?_placeAll {fs fs' : List Finding} (h : placeAll p fs m = (m', .ok fs')) (id : Nat) :
    m'.node? id = (m.node? id).map (onNodes p fs id) := by
  induction fs generalizing m fs' with
  | nil =>
    cases h
    cases m'.node? id <;> rfl
  | cons f fs ih =>
    obtain ⟨m₁, f', rest, hplace, hrest, -⟩ := placeAll_cons h
    rw [ih hrest, (places_of_place hplace).node, Option.map_map]
    rfl

theorem placeAll_append {fs gs hs : List Finding} (h : placeAll p (fs ++ gs) m = (m', .ok hs)) :
    ∃ m₁ fs' gs', placeAll p fs m = (m₁, .ok fs') ∧ placeAll p gs m₁ = (m', .ok gs') ∧
      hs = fs' ++ gs' := by
  induction fs generalizing m hs with
  | nil => exact ⟨m, [], hs, rfl, h, rfl⟩
  | cons f fs ih =>
    obtain ⟨m₁, f', rest, hplace, hrest, rfl⟩ := placeAll_cons h
    obtain ⟨m₂, fs', gs', hfs, hgs, rfl⟩ := ih hrest
    exact ⟨m₂, f' :: fs', gs', by simp only [placeAll, hplace, hfs], hgs, rfl⟩

/-- In a run, a field has a text for what the findings before it have made of its value. -/
theorem isSome_text?_of_placeAll {before after fs' : List Finding} {n : Manifest.Node}
    (h : placeAll p (before ++ f :: after) m = (m', .ok fs'))
    (hfield : f.marker.field?.isSome = true) (hn : m.node? f.target.value = some n) :
    (f.text? p (onNodes p before f.target.value n).value).isSome = true := by
  obtain ⟨m₁, before', rest, hbefore, hrest, rfl⟩ := placeAll_append h
  obtain ⟨m₂, f', after', hplace, -, rfl⟩ := placeAll_cons hrest
  have hn₁ : m₁.node? f.target.value = some (onNodes p before f.target.value n) := by
    rw [node?_placeAll hbefore, hn]
    rfl
  rw [← Manifest.valueAt_of_node? hn₁]
  exact (places_of_place hplace).text hfield

/-! ### What is left of a node -/

section

variable {id : Nat} {n : Manifest.Node} {fs before after : List Finding}

theorem write_cases (p : Placeholders) (f : Finding) (n : Manifest.Node) :
    (∃ text tag, f.text? p n.value = some (text, tag) ∧
      f.write p n = (n.setTag tag).setValue text) ∨
      f.text? p n.value = none ∧ f.write p n = n := by
  unfold write
  cases f.text? p n.value with
  | none => exact .inr ⟨rfl, rfl⟩
  | some written => exact .inl ⟨_, _, rfl, rfl⟩

/-- The comments after a finding do not depend on the value. -/
theorem onNode_comments (p : Placeholders) (f : Finding) (id : Nat) (n : Manifest.Node) :
    (f.onNode p id n).headComment = (f.comments id n).headComment ∧
      (f.onNode p id n).footComment = (f.comments id n).footComment ∧
      (f.onNode p id n).lineComment = (f.comments id n).lineComment := by
  unfold onNode
  split
  · rcases write_cases p f (f.comments id n) with ⟨text, tag, -, hwrite⟩ | ⟨-, hwrite⟩ <;>
      rw [hwrite] <;> exact ⟨rfl, rfl, rfl⟩
  · exact ⟨rfl, rfl, rfl⟩

/-- The nodes of other targets stay as they are. -/
theorem onNode_of_notMem (h : id ∉ f.target.nodes) : f.onNode p id n = n := by
  rw [Target.mem_nodes_iff, not_or] at h
  simp [onNode, comments, h.1, h.2]

theorem onNodes_of_notMem (h : ∀ f ∈ fs, id ∉ f.target.nodes) : onNodes p fs id n = n := by
  induction fs generalizing n with
  | nil => rfl
  | cons f fs ih =>
    show onNodes p fs id (f.onNode p id n) = n
    rw [onNode_of_notMem (h f (by simp)), ih fun g hg => h g (by simp [hg])]

theorem onNodes_append : onNodes p (before ++ f :: after) id n =
    onNodes p after id (f.onNode p id (onNodes p before id n)) := by
  simp only [onNodes, List.foldl_append, List.foldl_cons]

/-- What a field writes, by its pattern. -/
theorem text?_cases {field : Field} {spec value text tag : String}
    (hfield : f.marker.field? = some field) (hspec : specOf p f.marker = some spec)
    (h : f.text? p value = some (text, tag)) :
    (field.replace = none → text = field.reference spec ∧ tag = "!!var") ∧
      (field.replace ≠ none → tag = "!!str") := by
  simp only [text?, hfield, hspec, Option.bind_some, replacement] at h
  cases hreplace : field.replace with
  | none =>
    rw [hreplace] at h
    obtain ⟨rfl, rfl⟩ := Prod.mk.inj (Option.some.inj h)
    exact ⟨fun _ => ⟨rfl, rfl⟩, fun hne => absurd rfl hne⟩
  | some pattern =>
    refine ⟨fun hnone => (by cases hnone), fun _ => ?_⟩
    simp only [hreplace] at h
    split at h
    · cases h
    · cases h
      rfl

/-- A finding that is no field leaves values alone, and every finding leaves those of others. -/
theorem text_onNode (p : Placeholders) (n : Manifest.Node)
    (h : f.target.value = id → f.marker.field? = none) :
    (f.onNode p id n).tag = n.tag ∧ (f.onNode p id n).value = n.value := by
  unfold onNode
  split
  · next hvalue =>
    simp only [write, text?_eq_none (h hvalue)]
    exact ⟨rfl, rfl⟩
  · exact ⟨rfl, rfl⟩

theorem text_onNodes (p : Placeholders) (n : Manifest.Node)
    (h : ∀ f ∈ fs, f.target.value = id → f.marker.field? = none) :
    (onNodes p fs id n).tag = n.tag ∧ (onNodes p fs id n).value = n.value := by
  induction fs generalizing n with
  | nil => exact ⟨rfl, rfl⟩
  | cons f fs ih =>
    obtain ⟨htag, hvalue⟩ := ih (f.onNode p id n) fun g hg => h g (by simp [hg])
    obtain ⟨htag', hvalue'⟩ := text_onNode p n (h f (by simp))
    exact ⟨htag.trans htag', hvalue.trans hvalue'⟩

end

end Finding

namespace Manifest

/-- A node before and after: where it stands in the tree and in the text stays. -/
structure Node.SamePlace (n n' : Node) : Prop where
  kind : n'.kind = n.kind
  content : n'.content = n.content
  anchor : n'.anchor = n.anchor
  line : n'.line = n.line
  column : n'.column = n.column

theorem Node.SamePlace.trans {n n' n'' : Node} (h : n.SamePlace n') (h' : n'.SamePlace n'') :
    n.SamePlace n'' :=
  ⟨h'.kind.trans h.kind, h'.content.trans h.content, h'.anchor.trans h.anchor,
    h'.line.trans h.line, h'.column.trans h.column⟩

theorem samePlace_onNode (p : Placeholders) (f : Finding) (id : Nat) (n : Node) :
    n.SamePlace (f.onNode p id n) := by
  have hcomments : n.SamePlace (f.comments id n) := ⟨rfl, rfl, rfl, rfl, rfl⟩
  unfold Finding.onNode
  split
  · rcases f.write_cases p (f.comments id n) with ⟨text, tag, -, hwrite⟩ | ⟨-, hwrite⟩
    · rw [hwrite]
      exact hcomments.trans ⟨rfl, rfl, rfl, rfl, rfl⟩
    · rw [hwrite]
      exact hcomments
  · exact hcomments

theorem samePlace_onNodes (p : Placeholders) (fs : List Finding) (id : Nat) (n : Node) :
    n.SamePlace (Finding.onNodes p fs id n) := by
  induction fs generalizing n with
  | nil => exact ⟨rfl, rfl, rfl, rfl, rfl⟩
  | cons f fs ih => exact (samePlace_onNode p f id n).trans (ih _)

section

variable {p : Placeholders} {f : Finding} {m m' : Manifest} {fs fs' before after : List Finding}

/-- The tree stays as it is, and nodes that no finding names stay altogether. -/
theorem frame_placeAll (h : Finding.placeAll p fs m = (m', .ok fs')) :
    Nodewise (fun id n n' => n.SamePlace n' ∧ ((∀ f ∈ fs, id ∉ f.target.nodes) → n' = n)) m m' := by
  have hkept := kept_placeAll p fs (kept_refl m)
  rw [h] at hkept
  refine ⟨hkept.documents, hkept.size, fun id => ?_⟩
  rw [Finding.node?_placeAll h]
  cases m.node? id with
  | none => exact .none
  | some n => exact .some ⟨samePlace_onNodes p fs id n, fun hno => Finding.onNodes_of_notMem hno⟩

/-- What the last finding of a target leaves of its comments: nothing, or a description. -/
theorem comments_placeAll (h : Finding.placeAll p (before ++ f :: after) m = (m', .ok fs'))
    {id : Nat} (hid : id ∈ f.target.nodes) (hlast : ∀ g ∈ after, id ∉ g.target.nodes) {n : Node}
    (hn : m'.node? id = some n) : n.lineComment = "" ∧
      (f.target.key = id → n.headComment = f.headComment ∧ n.footComment = "") := by
  rw [Finding.node?_placeAll h] at hn
  obtain ⟨n₀, -, rfl⟩ := Option.map_eq_some_iff.1 hn
  rw [Finding.onNodes_append, Finding.onNodes_of_notMem hlast]
  obtain ⟨hhead, hfoot, hline⟩ := f.onNode_comments p id (Finding.onNodes p before id n₀)
  rw [hhead, hfoot, hline]
  exact ⟨if_pos (Target.mem_nodes_iff.1 hid), fun hkey => ⟨if_pos hkey, if_pos hkey⟩⟩

/-- What the last field of a value puts in its place. -/
theorem written_placeAll (h : Finding.placeAll p (before ++ f :: after) m = (m', .ok fs'))
    (hlast : ∀ g ∈ after, g.target.value = f.target.value → g.marker.field? = none) {field : Field}
    {spec : String} (hfield : f.marker.field? = some field)
    (hspec : Finding.specOf p f.marker = some spec) {n : Node}
    (hn : m'.node? f.target.value = some n) :
    (field.replace = none → n.tag = some "!!var" ∧ n.value = spec ++ "." ++ Text.title field.name) ∧
      (field.replace ≠ none → n.tag = some "!!str") := by
  rw [Finding.node?_placeAll h] at hn
  obtain ⟨n₀, hn₀, rfl⟩ := Option.map_eq_some_iff.1 hn
  rw [Finding.onNodes_append]
  obtain ⟨htag, hvalue⟩ := Finding.text_onNodes p
    (f.onNode p f.target.value (Finding.onNodes p before f.target.value n₀)) hlast
  rw [htag, hvalue]
  generalize hn₁ : Finding.onNodes p before f.target.value n₀ = n₁
  have hsome := Finding.isSome_text?_of_placeAll h (by rw [hfield]; rfl) hn₀
  rw [hn₁] at hsome
  obtain ⟨⟨text, tag⟩, htext⟩ := Option.isSome_iff_exists.1 hsome
  have hwrite : f.onNode p f.target.value n₁ =
      ((f.comments f.target.value n₁).setTag tag).setValue text := by
    have hcomments : f.text? p (f.comments f.target.value n₁).value = some (text, tag) := htext
    rw [Finding.onNode, if_pos rfl, Finding.write, hcomments]
  rw [hwrite]
  obtain ⟨hwhole, hpart⟩ := Finding.text?_cases hfield hspec htext
  refine ⟨fun hnone => ?_, fun hne => congrArg some (hpart hne)⟩
  obtain ⟨rfl, rfl⟩ := hwhole hnone
  exact ⟨rfl, rfl⟩

end

/-! ### Placeholders of an inspection -/

section

variable {registry : Registry} {text : String} {p : Placeholders} {m m' : Manifest}
  {i i' : Inspection}

theorem commentParts_headComment (f : Finding) :
    commentParts f.headComment = f.descriptionLines.map fun line => '#' :: ' ' :: line := by
  unfold Finding.headComment Finding.descriptionLines
  cases f.marker.field? with
  | none => rfl
  | some field =>
    cases hdescription : field.description with
    | none => simp [hdescription, commentParts]
    | some description => simp [hdescription, commentParts_descriptionComment]

/-- The nodes of a finding are still there. -/
theorem exists_nodes_of_place (hparse : parse text = .ok m) (hinspect : m.inspect registry = .ok i)
    (hplace : i.place p m = (m', .ok i')) {f : Finding} (hf : f ∈ i.findings) :
    (∃ k, m'.node? f.target.key = some k) ∧ ∃ v, m'.node? f.target.value = some v := by
  have htarget := target_mem_of_inspect hinspect f hf
  have hframe := frame_placeAll (Inspection.placeAll_of_place hplace)
  have hnode {id : Nat} (hid : id ∈ f.target.nodes) : ∃ n, m'.node? id = some n := by
    obtain ⟨n, hn⟩ := exists_node_of_mem_targets hparse htarget hid
    obtain ⟨n', hn', -⟩ := hframe.exists_right hn
    exact ⟨n', hn'⟩
  exact ⟨hnode (Target.mem_nodes_iff.2 (.inl rfl)), hnode (Target.mem_nodes_iff.2 (.inr rfl))⟩

/-- Placeholders change what the findings name and nothing else: the tree stays as it is, and so do
the nodes that no finding names. The comments of a target are removed, but for the description of
its last finding. The value of a target is the reference to the field of its last field marker, or,
with a pattern, text of its own. -/
theorem effects_of_place (hparse : parse text = .ok m) (hinspect : m.inspect registry = .ok i)
    (hplace : i.place p m = (m', .ok i')) :
    Nodewise (fun id n n' => n.SamePlace n' ∧
      ((∀ f ∈ i.findings, id ∉ f.target.nodes) → n' = n)) m m' ∧
    (∀ before f after, i.findings = before ++ f :: after → (∀ g ∈ after, g.target ≠ f.target) →
      ∃ k v, m'.node? f.target.key = some k ∧ m'.node? f.target.value = some v ∧
        k.footComment = "" ∧ v.lineComment = "" ∧ k.lineComment = "" ∧
        commentParts k.headComment = f.descriptionLines.map fun line => '#' :: ' ' :: line) ∧
    ∀ before f after, i.findings = before ++ f :: after →
      (∀ g ∈ after, g.target = f.target → g.marker.field? = none) →
      ∀ field spec, f.marker.field? = some field → Finding.specOf p f.marker = some spec →
      ∃ v, m'.node? f.target.value = some v ∧
        (field.replace = none →
          v.tag = some "!!var" ∧ v.value = spec ++ "." ++ Text.title field.name) ∧
        (field.replace ≠ none → v.tag = some "!!str") := by
  have hall := Inspection.placeAll_of_place hplace
  refine ⟨frame_placeAll hall, fun before f after hfs hlast => ?_,
    fun before f after hfs hlast field spec hfield hspec => ?_⟩
  · have hf : f ∈ i.findings := by simp [hfs]
    obtain ⟨⟨k, hk⟩, v, hv⟩ := exists_nodes_of_place hparse hinspect hplace hf
    -- a node of two targets would make them one
    have hapart (id : Nat) (hid : id ∈ f.target.nodes) (g : Finding) (hg : g ∈ after) :
        id ∉ g.target.nodes := fun hid' =>
      hlast g hg (eq_of_mem_targets hparse (target_mem_of_inspect hinspect g (by simp [hfs, hg]))
        (target_mem_of_inspect hinspect f hf) hid' hid)
    have hkey : f.target.key ∈ f.target.nodes := Target.mem_nodes_iff.2 (.inl rfl)
    have hvalue : f.target.value ∈ f.target.nodes := Target.mem_nodes_iff.2 (.inr rfl)
    rw [hfs] at hall
    obtain ⟨hline, hhead⟩ := comments_placeAll hall hkey (hapart _ hkey) hk
    obtain ⟨hline', -⟩ := comments_placeAll hall hvalue (hapart _ hvalue) hv
    obtain ⟨hhead, hfoot⟩ := hhead rfl
    exact ⟨k, v, hk, hv, hfoot, hline', hline, hhead ▸ commentParts_headComment f⟩
  · have hf : f ∈ i.findings := by simp [hfs]
    obtain ⟨-, v, hv⟩ := exists_nodes_of_place hparse hinspect hplace hf
    have hlast' (g : Finding) (hg : g ∈ after) (hvalue : g.target.value = f.target.value) :
        g.marker.field? = none := by
      refine hlast g hg (eq_of_mem_targets hparse
        (target_mem_of_inspect hinspect g (by simp [hfs, hg]))
        (target_mem_of_inspect hinspect f hf) (Target.mem_nodes_iff.2 (.inr hvalue))
        (Target.mem_nodes_iff.2 (.inr rfl)))
    rw [hfs] at hall
    obtain ⟨hwhole, hpart⟩ := written_placeAll hall hlast' hfield hspec hv
    exact ⟨v, hv, hwhole, hpart⟩

end

/-- A manifest and its inspection, and what placeholders make of them, if all of it succeeds. -/
def placement? (registry : Registry) (p : Placeholders) (text : String) :
    Option (Manifest × Inspection × Manifest × Inspection) :=
  (parse text).toOption.bind fun m => (m.inspect registry).toOption.bind fun i =>
    match i.place p m with
    | (m', .ok i') => some (m, i, m', i')
    | _ => none

theorem place_of_placement? {registry : Registry} {p : Placeholders} {text : String}
    {m m' : Manifest} {i i' : Inspection} (h : placement? registry p text = some (m, i, m', i')) :
    parse text = .ok m ∧ m.inspect registry = .ok i ∧ i.place p m = (m', .ok i') := by
  obtain ⟨m₀, hm, h⟩ := Option.bind_eq_some_iff.1 h
  obtain ⟨i₀, hi, h⟩ := Option.bind_eq_some_iff.1 h
  split at h
  · next hplace =>
    cases h
    exact ⟨eq_ok_of_toOption hm, eq_ok_of_toOption hi, hplace⟩
  · cases h

/-- Two fields for one value, the second with a description. -/
def sharedText : String :=
  "# +operator-builder:field:name=x,type=string,replace=\"v\"\n" ++
    "# +operator-builder:collection:field:name=y,type=string,description=\"\\nb\\nc\"\n" ++
    "a: v\nd: e\n"

/-- The second field counts. -/
theorem effects_of_place_shared : ∃ m i m' i' f g k v, parse sharedText = .ok m ∧
    m.inspect operatorRegistry = .ok i ∧ i.place {} m = (m', .ok i') ∧ i.findings = [f, g] ∧
    f.target = g.target ∧ m'.node? g.target.key = some k ∧ m'.node? g.target.value = some v ∧
    commentParts k.headComment = ["# b".toList, "# c, controlled by y".toList] ∧
    v.tag = some "!!var" ∧ v.value = "collection.Spec.Y" := by
  have h : (placement? operatorRegistry {} sharedText).map (fun (_, i, _) =>
      i.findings.map fun f => (f.target, f.descriptionLines,
        [Finding.specOf {} f.marker, f.marker.field?.map (·.name),
          f.marker.field?.bind (·.replace)])) =
      some [(.pair 1 2, [], [some "parent.Spec", some "x", some "v"]),
        (.pair 1 2, ["b".toList, "c, controlled by y".toList],
          [some "collection.Spec", some "y", none])] := by
    unfold sharedText
    rw [placement?, parse_eq_ite, String.toList_append, String.toList_append,
      String.toList_ofList, String.toList_ofList, String.toList_ofList]
    decide +kernel
  obtain ⟨⟨m, i, m', i'⟩, hplaced, h⟩ := Option.map_eq_some_iff.1 h
  obtain ⟨hm, hi, hplace⟩ := place_of_placement? hplaced
  obtain ⟨f, rest, hfindings, hf, hrest⟩ := List.map_eq_cons_iff.1 h
  obtain ⟨g, rest, rfl, hg, hnil⟩ := List.map_eq_cons_iff.1 hrest
  obtain rfl := List.map_eq_nil_iff.1 hnil
  simp only [Prod.mk.injEq, List.cons.injEq, and_true] at hf hg
  obtain ⟨htarget, -⟩ := hf
  obtain ⟨htarget', hlines, hspec, hname, hreplace⟩ := hg
  obtain ⟨field, hfield, hname⟩ := Option.map_eq_some_iff.1 hname
  rw [hfield, Option.bind_some] at hreplace
  obtain ⟨-, hcomments, hvalues⟩ := effects_of_place hm hi hplace
  obtain ⟨k, v, hk, hv, -, -, -, hhead⟩ := hcomments [f] g [] hfindings (by simp)
  obtain ⟨v', hv', hwhole, -⟩ := hvalues [f] g [] hfindings (by simp) field _ hfield hspec
  obtain rfl : v = v' := Option.some.inj (hv.symm.trans hv')
  obtain ⟨htag, hvalue⟩ := hwhole hreplace
  rw [hlines] at hhead
  rw [hname] at hvalue
  exact ⟨m, i, m', i', f, g, k, v, hm, hi, hplace, hfindings, htarget.trans htarget'.symm, hk, hv,
    hhead, htag, hvalue.trans (by decide)⟩

end Manifest

end ManifestMarkers
