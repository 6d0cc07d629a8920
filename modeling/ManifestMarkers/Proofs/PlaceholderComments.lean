import Mathlib.Data.List.Pairwise
import Mathlib.Data.Option.Defs
import ManifestMarkers.Placeholder
import ManifestMarkers.Proofs.InspectionOrder

/-!
# Comments after placeholders are in place

A field that has been replaced should not be found again. The comments of a marked key are removed,
but a value that stands on a line of its own keeps the comments around it.

* `Inspection.Quiet`: comments that can be inspected and have no marker; an inspection without
  findings is one of quiet comments only (`inspect_eq_nil_iff`).
* `Cleared` says what placeholders do to the comments of every node, step by step and in all.
* `inspect_place_iff`: markers are left exactly where a marked value has markers in comments of its
  own.
-/

namespace ManifestMarkers

namespace Inspection

/-! ### Quiet comments -/

/-- A comment text that can be inspected and has no marker. -/
def Quiet (registry : Registry) (text : String) : Prop :=
  mentionsMarker registry text.toList = true →
    ∃ warnings, parseMarkers registry text = .ok ([], warnings)

variable {registry : Registry} {target : Target} {value? : Option Manifest.Node}
  {n : Manifest.Node} {i : Inspection}

/-- Every path starts with a plus sign, so a text without one is quiet. -/
theorem quiet_of_not_mem (hpaths : ∀ d ∈ registry.definitions, isPath d.path = true)
    {text : String} (h : '+' ∉ text.toList) : Quiet registry text := by
  intro hmention
  have hno : mentionsMarker registry text.toList = false := by
    refine mentionsMarker_eq_false.2 fun path hpath hinfix => h ?_
    obtain ⟨d, hd, rfl⟩ := List.mem_map.1 hpath
    obtain ⟨segments, -, -, hpath⟩ := exists_segments_of_isPath (hpaths d hd)
    exact hinfix.subset (by simp [hpath])
  rw [hno] at hmention
  cases hmention

theorem ofNode_eq_nil_iff :
    (∃ j, ofNode registry target value? n = .ok j ∧ j.findings = []) ↔
      Quiet registry n.commentText := by
  unfold ofNode Quiet
  dsimp only
  split
  · next hmention =>
    split
    · next e he => simp [hmention, he]
    · next markers warnings hok => simp [hmention, hok]
  · next hno => simp [hno]

theorem gather_eq_nil_iff {α : Type} {f : α → Except Fault Inspection} {xs : List α} :
    (∃ j, gather f xs = .ok j ∧ j.findings = []) ↔
      ∀ x ∈ xs, ∃ j, f x = .ok j ∧ j.findings = [] := by
  induction xs with
  | nil => simp [gather]
  | cons x xs ih =>
    rw [List.forall_mem_cons, ← ih, gather]
    cases f x with
    | error e => simp
    | ok first =>
      cases gather f xs with
      | error e => simp
      | ok rest => simp [append]

theorem target_of_ofNode (h : ofNode registry target value? n = .ok i) :
    ∀ f ∈ i.findings, f.target = target := by
  unfold ofNode at h
  dsimp only at h
  split at h
  · split at h
    · cases h
    · cases h
      intro f hf
      obtain ⟨found, -, rfl⟩ := List.mem_map.1 hf
      rfl
  · cases h; simp

theorem target_of_ofTarget {m : Manifest} (h : ofTarget registry m target = .ok i) :
    ∀ f ∈ i.findings, f.target = target := by
  intro f hf
  obtain ⟨n, -, j, hj, hfj⟩ := (mem_findings_of_gather h).2 f hf
  exact target_of_ofNode hj f hfj

end Inspection

namespace Manifest

variable {registry : Registry} {m : Manifest} {i : Inspection}

/-- A manifest without findings has only quiet comments. -/
theorem inspect_eq_nil_iff :
    (∃ j, m.inspect registry = .ok j ∧ j.findings = []) ↔
      ∀ id ∈ targetNodes m.targets, ∀ n, m.node? id = some n →
        Inspection.Quiet registry n.commentText := by
  unfold inspect Inspection.ofTarget targetNodes
  simp only [Inspection.gather_eq_nil_iff, Inspection.ofNode_eq_nil_iff, List.mem_filterMap,
    List.mem_flatMap]
  constructor
  · rintro h id ⟨t, ht, hid⟩ n hn
    exact h t ht n ⟨id, hid, hn⟩
  · rintro h t ht n ⟨id, hid, hn⟩
    exact h id ⟨t, ht, hid⟩ n hn

theorem target_mem_of_inspect (h : m.inspect registry = .ok i) :
    ∀ f ∈ i.findings, f.target ∈ m.targets := by
  intro f hf
  obtain ⟨t, ht, j, hj, hfj⟩ := (Inspection.mem_findings_of_gather h).2 f hf
  rwa [Inspection.target_of_ofTarget hj f hfj]

/-- A target without findings has quiet comments. -/
theorem quiet_of_inspect (h : m.inspect registry = .ok i) {t : Target} (ht : t ∈ m.targets)
    (hno : ∀ f ∈ i.findings, f.target ≠ t) {id : Nat} (hid : id ∈ t.nodes) {n : Node}
    (hn : m.node? id = some n) : Inspection.Quiet registry n.commentText := by
  obtain ⟨j, hj, hsub⟩ := (Inspection.mem_findings_of_gather h).1 t ht
  have hnil : j.findings = [] := by
    rw [List.eq_nil_iff_forall_not_mem]
    intro f hf
    exact hno f (hsub f hf) (Inspection.target_of_ofTarget hj f hf)
  have hnodes := Inspection.gather_eq_nil_iff.1 ⟨j, hj, hnil⟩
  exact Inspection.ofNode_eq_nil_iff.1 (hnodes n (List.mem_filterMap.2 ⟨id, hid, hn⟩))

end Manifest

/-! ### What placeholders do to comments -/

/-- The name and the description that a marker may bring into the manifest have no plus sign. -/
def Finding.IsPlain (f : Finding) : Prop :=
  ∀ field ∈ f.marker.field?, '+' ∉ field.name.toList ∧
    ∀ description ∈ field.description, '+' ∉ description.toList

instance (f : Finding) : Decidable f.IsPlain :=
  inferInstanceAs (Decidable (∀ field ∈ f.marker.field?, '+' ∉ field.name.toList ∧
    ∀ description ∈ field.description, '+' ∉ description.toList))

/-- A node before and after the placeholders of some findings: a key loses its comments, a value its
line comment, and what takes their place has no plus sign. -/
structure ClearedNode (fs : List Finding) (id : Nat) (n n' : Manifest.Node) : Prop where
  kind : n'.kind = n.kind
  content : n'.content = n.content
  key : id ∈ fs.map (·.target.key) → '+' ∉ n'.commentText.toList
  head : id ∉ fs.map (·.target.key) → n'.headComment = n.headComment
  foot : id ∉ fs.map (·.target.key) → n'.footComment = n.footComment
  value : id ∉ fs.map (·.target.key) → id ∈ fs.map (·.target.value) → n'.lineComment = ""
  line : id ∉ fs.map (·.target.key) → id ∉ fs.map (·.target.value) →
    n'.lineComment = n.lineComment

/-- A manifest before and after the placeholders of some findings. -/
structure Cleared (fs : List Finding) (m m' : Manifest) : Prop where
  documents : m'.documents = m.documents
  size : m'.nodes.size = m.nodes.size
  node : ∀ id, Option.Rel (ClearedNode fs id) (m.node? id) (m'.node? id)

theorem Manifest.node?_modify (m : Manifest) (id i : Nat) (g : Node → Node) :
    (m.modify id g).node? i = if id = i then (m.node? i).map g else m.node? i :=
  Array.getElem?_modify

theorem Manifest.Node.not_mem_commentText {c : Char} {n : Node} (hc : c ≠ '\n') :
    c ∉ n.commentText.toList ↔ c ∉ n.headComment.toList ∧ c ∉ n.lineComment.toList ∧
      c ∉ n.footComment.toList := by
  simp [commentText, hc]

theorem ClearedNode.refl (id : Nat) (n : Manifest.Node) : ClearedNode [] id n n :=
  ⟨rfl, rfl, by simp, fun _ => rfl, fun _ => rfl, by simp, fun _ _ => rfl⟩

theorem ClearedNode.trans {f : Finding} {fs : List Finding} {id : Nat} {n n₁ n₂ : Manifest.Node}
    (h : ClearedNode [f] id n n₁) (h' : ClearedNode fs id n₁ n₂) :
    ClearedNode (f :: fs) id n n₂ := by
  have hsplit {g : Finding → Nat} : id ∉ (f :: fs).map g → id ∉ [f].map g ∧ id ∉ fs.map g := by
    simp
  refine ⟨h'.kind.trans h.kind, h'.content.trans h.content, fun hkey => ?_, fun hkey => ?_,
    fun hkey => ?_, fun hkey hvalue => ?_, fun hkey hvalue => ?_⟩
  · by_cases hfs : id ∈ fs.map (·.target.key)
    · exact h'.key hfs
    · -- the comments are those of the first step, or fewer
      have hf : id ∈ [f].map (·.target.key) := by simpa [hfs] using hkey
      obtain ⟨hhead, hline, hfoot⟩ := (Manifest.Node.not_mem_commentText (by decide)).1 (h.key hf)
      rw [Manifest.Node.not_mem_commentText (by decide), h'.head hfs, h'.foot hfs]
      refine ⟨hhead, ?_, hfoot⟩
      by_cases hv : id ∈ fs.map (·.target.value)
      · simp [h'.value hfs hv]
      · rwa [h'.line hfs hv]
  · obtain ⟨hf, hfs⟩ := hsplit hkey
    rw [h'.head hfs, h.head hf]
  · obtain ⟨hf, hfs⟩ := hsplit hkey
    rw [h'.foot hfs, h.foot hf]
  · obtain ⟨hf, hfs⟩ := hsplit hkey
    by_cases hv : id ∈ fs.map (·.target.value)
    · exact h'.value hfs hv
    · rw [h'.line hfs hv]
      exact h.value hf (by simpa [hv] using hvalue)
  · obtain ⟨hf, hfs⟩ := hsplit hkey
    obtain ⟨hfv, hfsv⟩ := hsplit hvalue
    rw [h'.line hfs hfsv, h.line hf hfv]

theorem Cleared.refl (m : Manifest) : Cleared [] m m := by
  refine ⟨rfl, rfl, fun id => ?_⟩
  cases m.node? id with
  | none => exact .none
  | some n => exact .some (.refl id n)

theorem Cleared.trans {f : Finding} {fs : List Finding} {m m₁ m₂ : Manifest}
    (h : Cleared [f] m m₁) (h' : Cleared fs m₁ m₂) : Cleared (f :: fs) m m₂ := by
  refine ⟨h'.documents.trans h.documents, h'.size.trans h.size, fun id => ?_⟩
  have hnode := h.node id
  have hnode' := h'.node id
  generalize m.node? id = x at hnode ⊢
  generalize m₁.node? id = y at hnode hnode'
  generalize m₂.node? id = z at hnode' ⊢
  cases hnode with
  | none => cases hnode'; exact .none
  | some hn =>
    cases hnode' with
    | some hn' => exact .some (hn.trans hn')

/-- One more change of a node that keeps what has been said about it. -/
theorem Cleared.modify {fs : List Finding} {m m' : Manifest} (h : Cleared fs m m') {id : Nat}
    {g : Manifest.Node → Manifest.Node}
    (hg : ∀ n n', ClearedNode fs id n n' → ClearedNode fs id n (g n')) :
    Cleared fs m (m'.modify id g) := by
  refine ⟨h.documents, by simp [Manifest.modify, h.size], fun i => ?_⟩
  have hnode := h.node i
  rw [Manifest.node?_modify]
  split
  · next hi =>
    subst hi
    generalize m.node? id = x at hnode ⊢
    generalize m'.node? id = y at hnode ⊢
    cases hnode with
    | none => exact .none
    | some hn => exact .some (hg _ _ hn)
  · exact hnode

/-- Removing the comments of a target. -/
theorem cleared_clearComments (f : Finding) (m : Manifest) : Cleared [f] m (f.clearComments m) := by
  refine ⟨rfl, by simp [Finding.clearComments, Manifest.modify], fun id => ?_⟩
  simp only [Finding.clearComments, Manifest.node?_modify]
  cases m.node? id with
  | none => split <;> split <;> exact .none
  | some n =>
    by_cases hkey : f.target.key = id <;> by_cases hvalue : f.target.value = id <;>
      simp only [hkey, hvalue, if_true, if_false, Option.map_some]
    · refine .some ⟨rfl, rfl, fun _ => ?_, ?_, ?_, ?_, ?_⟩ <;>
        simp [hkey, Manifest.Node.commentText]
    · refine .some ⟨rfl, rfl, fun _ => ?_, ?_, ?_, ?_, ?_⟩ <;>
        simp [hkey, Manifest.Node.commentText]
    · refine .some ⟨rfl, rfl, ?_, fun _ => rfl, fun _ => rfl, fun _ _ => rfl, ?_⟩ <;>
        simp [hvalue, Ne.symm hkey]
    · refine .some ⟨rfl, rfl, ?_, fun _ => rfl, fun _ => rfl, ?_, fun _ _ => rfl⟩ <;>
        simp [Ne.symm hkey, Ne.symm hvalue]

theorem Finding.not_mem_descriptionComment {description name : String}
    (hd : '+' ∉ description.toList) (hn : '+' ∉ name.toList) :
    '+' ∉ (descriptionComment description name).toList := by
  have hlines : ∀ line ∈ Text.lines (description ++ ", controlled by " ++ name).toList,
      '+' ∉ line := by
    intro line hline hplus
    have hmem : '+' ∈ (description ++ ", controlled by " ++ name).toList := by
      rw [← Text.joinWith_splitOn '\n' (description ++ ", controlled by " ++ name).toList,
        Text.mem_joinWith (by decide)]
      exact ⟨line, hline, hplus⟩
    simp [hd, hn] at hmem
  rw [descriptionComment, String.toList_ofList, Text.mem_joinWith (by decide)]
  simpa using hlines

theorem Field.mem_of_mem_trimLineFeeds {c : Char} {s : String} (h : c ∈ (trimLineFeeds s).toList) :
    c ∈ s.toList := by
  rw [trimLineFeeds, String.toList_ofList] at h
  exact (List.dropWhile_sublist _).subset h

/-- The placeholder of a field, after the comments have been removed. -/
theorem cleared_placeField {f : Finding} {field : Field} {spec : String} {m m₁ m₂ : Manifest}
    {r : Except Fault Finding} (hname : '+' ∉ field.name.toList)
    (hdescription : ∀ description ∈ field.description, '+' ∉ description.toList)
    (hm : Cleared [f] m m₁) (h : f.placeField field spec m₁ = (m₂, r)) : Cleared [f] m m₂ := by
  have hhead {description : String} (hd : field.description = some description) :
      Cleared [f] m (m₁.modify f.target.key fun n =>
        { n with
          headComment :=
            Finding.descriptionComment (Field.trimLineFeeds description) field.name }) := by
    refine hm.modify fun n n' hn => ?_
    have hcomment : '+' ∉ (Finding.descriptionComment (Field.trimLineFeeds description)
        field.name).toList :=
      Finding.not_mem_descriptionComment
        (fun h => hdescription description hd (Field.mem_of_mem_trimLineFeeds h)) hname
    have hkey : f.target.key ∈ [f].map (·.target.key) := by simp
    obtain ⟨-, hline, hfoot⟩ := (Manifest.Node.not_mem_commentText (by decide)).1 (hn.key hkey)
    refine ⟨hn.kind, hn.content, fun _ => ?_, fun h => absurd hkey h, fun h => absurd hkey h,
      fun h => absurd hkey h, fun h => absurd hkey h⟩
    exact (Manifest.Node.not_mem_commentText (by decide)).2 ⟨hcomment, hline, hfoot⟩
  have hvalue {m' : Manifest} (hm' : Cleared [f] m m') (tag text : String) :
      Cleared [f] m (m'.modify f.target.value fun n => (n.setTag tag).setValue text) :=
    hm'.modify fun n n' hn => ⟨hn.kind, hn.content, hn.key, hn.head, hn.foot, hn.value, hn.line⟩
  unfold Finding.placeField at h
  cases hd : field.description with
  | none =>
    simp only [hd, Option.map_none] at h
    split at h
    · cases h; exact hm
    · cases h; exact hvalue hm _ _
  | some description =>
    simp only [hd, Option.map_some] at h
    split at h
    · cases h; exact hhead hd
    · cases h; exact hvalue (hhead hd) _ _

/-- The placeholder of one finding. -/
theorem cleared_place {p : Placeholders} {f f' : Finding} {m m' : Manifest} (hf : f.IsPlain)
    (h : f.place p m = (m', .ok f')) : Cleared [f] m m' := by
  have hclear := cleared_clearComments f m
  unfold Finding.place at h
  split at h
  · cases h
  · dsimp only at h
    split at h
    · next field spec hfield _ =>
      obtain ⟨hname, hdescription⟩ := hf field hfield
      exact cleared_placeField hname hdescription hclear h
    · cases h; exact hclear

/-- A run that succeeds puts every finding in place. -/
theorem Finding.placeAll_cons {p : Placeholders} {f : Finding} {fs fs' : List Finding}
    {m m' : Manifest} (h : placeAll p (f :: fs) m = (m', .ok fs')) :
    ∃ m₁ f' rest, f.place p m = (m₁, .ok f') ∧ placeAll p fs m₁ = (m', .ok rest) ∧
      fs' = f' :: rest := by
  unfold placeAll at h
  split at h
  · cases h
  · next m₁ f' hplace =>
    split at h
    · cases h
    · next m₂ rest hrest =>
      cases h
      exact ⟨m₁, f', rest, hplace, hrest, rfl⟩

/-- An inspection that has been put in place has its findings put in place. -/
theorem Inspection.placeAll_of_place {p : Placeholders} {i i' : Inspection} {m m' : Manifest}
    (h : i.place p m = (m', .ok i')) :
    Finding.placeAll p i.findings m = (m', .ok i'.findings) := by
  unfold place at h
  split at h
  · cases h
  · next hall =>
    cases h
    exact hall

/-- The placeholders of all findings. -/
theorem cleared_placeAll {p : Placeholders} {fs fs' : List Finding} {m m' : Manifest}
    (hfs : ∀ f ∈ fs, f.IsPlain) (h : Finding.placeAll p fs m = (m', .ok fs')) :
    Cleared fs m m' := by
  induction fs generalizing m fs' with
  | nil => cases h; exact .refl _
  | cons f fs ih =>
    obtain ⟨hf, hfs⟩ := List.forall_mem_cons.1 hfs
    obtain ⟨m₁, f', rest, hplace, hrest, -⟩ := Finding.placeAll_cons h
    exact (cleared_place hf hplace).trans (ih hfs hrest)

/-! ### Inspecting again -/

section

variable {fs : List Finding} {m m' : Manifest}

/-- What comments annotate depends on the kind and the content of nodes only. -/
theorem targets_congr {R : Nat → Manifest.Node → Manifest.Node → Prop}
    (hR : ∀ id n n', R id n n' → n'.kind = n.kind ∧ n'.content = n.content)
    (hdocuments : m'.documents = m.documents) (hsize : m'.nodes.size = m.nodes.size)
    (hnode : ∀ id, Option.Rel (R id) (m.node? id) (m'.node? id)) : m'.targets = m.targets := by
  have hbelow (fuel id : Nat) : m'.targetsBelow fuel id = m.targetsBelow fuel id := by
    induction fuel generalizing id with
    | zero => rfl
    | succ fuel ih =>
      have hrel := hnode id
      unfold Manifest.targetsBelow
      generalize m.node? id = x at hrel ⊢
      generalize m'.node? id = y at hrel ⊢
      cases hrel with
      | none => rfl
      | some hn => simp only [(hR _ _ _ hn).1, (hR _ _ _ hn).2, ih]
  unfold Manifest.targets Manifest.roots
  simp only [hdocuments, hsize, hbelow]

/-- Placeholders do not change what comments annotate. -/
theorem Cleared.targets_eq (h : Cleared fs m m') : m'.targets = m.targets :=
  targets_congr (fun _ _ _ hn => ⟨hn.kind, hn.content⟩) h.documents h.size h.node

theorem Cleared.exists_node (h : Cleared fs m m') {id : Nat} {n' : Manifest.Node}
    (hn' : m'.node? id = some n') : ∃ n, m.node? id = some n ∧ ClearedNode fs id n n' := by
  have hnode := h.node id
  rw [hn'] at hnode
  generalize hx : m.node? id = x at hnode
  cases hnode with
  | some hn => exact ⟨_, rfl, hn⟩

theorem Cleared.exists_node' (h : Cleared fs m m') {id : Nat} {n : Manifest.Node}
    (hn : m.node? id = some n) : ∃ n', m'.node? id = some n' ∧ ClearedNode fs id n n' := by
  have hnode := h.node id
  rw [hn] at hnode
  generalize hx : m'.node? id = x at hnode
  cases hnode with
  | some hn => exact ⟨_, rfl, hn⟩

end

/-- The value of a pair is no key. -/
theorem Manifest.value_ne_key_of_parse {text : String} {m : Manifest} (h : parse text = .ok m)
    {k v : Nat} (hpair : .pair k v ∈ m.targets) {t : Target} (ht : t ∈ m.targets) : t.key ≠ v := by
  intro hkey
  have hv : v ∈ t.nodes := by
    cases t <;> simp_all [Target.key, Target.nodes]
  obtain rfl := eq_of_mem_targets h ht hpair hv (by simp [Target.nodes])
  have hnodup := (List.nodup_flatMap.1 (nodup_targets_of_parse h)).1 _ hpair
  simp only [Target.key] at hkey
  simp [Target.nodes, hkey] at hnodup

/-- The key of a pair is no value. -/
theorem Manifest.key_ne_value_of_parse {text : String} {m : Manifest} (h : parse text = .ok m)
    {k v : Nat} (hpair : .pair k v ∈ m.targets) {t : Target} (ht : t ∈ m.targets) :
    t.value ≠ k := by
  intro hvalue
  have hk : k ∈ t.nodes := by
    cases t <;> simp_all [Target.value, Target.nodes]
  obtain rfl := eq_of_mem_targets h ht hpair hk (by simp [Target.nodes])
  have hnodup := (List.nodup_flatMap.1 (nodup_targets_of_parse h)).1 _ hpair
  simp only [Target.value] at hvalue
  simp [Target.nodes, hvalue] at hnodup

/-- With placeholders in place, a manifest has no markers exactly if no value of a marked pair has
markers in its own head or foot comment: those are the comments that stay. -/
theorem inspect_place_iff {registry : Registry} {defs : List (String × Variant)}
    (hregistry : Registry.defineAll {} defs = .ok registry) {text : String} {m : Manifest}
    (hparse : Manifest.parse text = .ok m) {i : Inspection}
    (hinspect : m.inspect registry = .ok i) (hplain : ∀ f ∈ i.findings, f.IsPlain)
    {p : Placeholders} {m' : Manifest} {i' : Inspection} (hplace : i.place p m = (m', .ok i')) :
    (∃ j, m'.inspect registry = .ok j ∧ j.findings = []) ↔
      ∀ f ∈ i.findings, ∀ k v n, f.target = .pair k v → m.node? v = some n →
        Inspection.Quiet registry (n.headComment ++ "\n\n" ++ n.footComment) := by
  have hpaths := Registry.isPath_of_defineAll (by simp) hregistry
  have hcleared : Cleared i.findings m m' := by
    unfold Inspection.place at hplace
    split at hplace
    · cases hplace
    · next hall =>
      cases hplace
      exact cleared_placeAll hplain hall
  have htext (n : Manifest.Node) : n.lineComment = "" →
      n.commentText = n.headComment ++ "\n\n" ++ n.footComment := by
    intro hline
    simp only [Manifest.Node.commentText, hline, String.append_assoc]
    rfl
  rw [Manifest.inspect_eq_nil_iff, hcleared.targets_eq]
  constructor
  · intro hquiet f hf k v n htarget hn
    have hpair : .pair k v ∈ m.targets := htarget ▸ Manifest.target_mem_of_inspect hinspect f hf
    have hkey : v ∉ i.findings.map (·.target.key) := by
      intro hmem
      obtain ⟨g, hg, hgv⟩ := List.mem_map.1 hmem
      exact Manifest.value_ne_key_of_parse hparse hpair
        (Manifest.target_mem_of_inspect hinspect g hg) hgv
    have hvalue : v ∈ i.findings.map (·.target.value) :=
      List.mem_map.2 ⟨f, hf, by rw [htarget]; rfl⟩
    obtain ⟨n', hn', hnode⟩ := hcleared.exists_node' hn
    have hv : v ∈ Manifest.targetNodes m.targets :=
      List.mem_flatMap.2 ⟨.pair k v, hpair, by simp [Target.nodes]⟩
    have hq := hquiet v hv n' hn'
    rwa [htext n' (hnode.value hkey hvalue), hnode.head hkey, hnode.foot hkey] at hq
  · intro hquiet id hid n' hn'
    obtain ⟨n, hn, hnode⟩ := hcleared.exists_node hn'
    by_cases hkey : id ∈ i.findings.map (·.target.key)
    · exact Inspection.quiet_of_not_mem hpaths (hnode.key hkey)
    by_cases hvalue : id ∈ i.findings.map (·.target.value)
    · obtain ⟨f, hf, hfv⟩ := List.mem_map.1 hvalue
      rw [htext n' (hnode.value hkey hvalue), hnode.head hkey, hnode.foot hkey]
      cases htarget : f.target with
      | node id' =>
        -- a single node is its own key
        refine absurd (List.mem_map.2 ⟨f, hf, ?_⟩) hkey
        rw [← hfv, htarget]
        rfl
      | pair k v =>
        have hv : v = id := by rw [← hfv, htarget]; rfl
        exact hquiet f hf k v n htarget (hv ▸ hn)
    · obtain ⟨t, ht, hidt⟩ := List.mem_flatMap.1 hid
      have hsame : n'.commentText = n.commentText := by
        simp only [Manifest.Node.commentText, hnode.head hkey, hnode.foot hkey,
          hnode.line hkey hvalue]
      rw [hsame]
      refine Manifest.quiet_of_inspect hinspect ht (fun f hf hft => ?_) hidt hn
      -- a target that was found has its nodes among the keys and values
      have hnodes : id = t.key ∨ id = t.value := by
        cases t <;> simpa [Target.nodes, Target.key, Target.value] using hidt
      rcases hnodes with h | h
      · exact hkey (List.mem_map.2 ⟨f, hf, by rw [hft, h]⟩)
      · exact hvalue (List.mem_map.2 ⟨f, hf, by rw [hft, h]⟩)

/-- How many markers a second inspection finds, if everything before it succeeds and no marker has a
plus sign in its name or description. -/
def Manifest.countAfterPlace? (registry : Registry) (p : Placeholders) (text : String) :
    Option Nat :=
  (parse text).toOption.bind fun m => (m.inspect registry).toOption.bind fun i =>
    if ∀ f ∈ i.findings, f.IsPlain then
      match i.place p m with
      | (m', .ok _) => (m'.inspect registry).toOption.map (·.findings.length)
      | (_, .error _) => none
    else none

theorem Manifest.exists_of_countAfterPlace? {registry : Registry} {p : Placeholders}
    {text : String} {count : Nat} (h : countAfterPlace? registry p text = some count) :
    ∃ m i m' i' j, parse text = .ok m ∧ m.inspect registry = .ok i ∧
      (∀ f ∈ i.findings, f.IsPlain) ∧ i.place p m = (m', .ok i') ∧
      m'.inspect registry = .ok j ∧ j.findings.length = count := by
  obtain ⟨m, hm, h⟩ := Option.bind_eq_some_iff.1 h
  obtain ⟨i, hi, h⟩ := Option.bind_eq_some_iff.1 h
  split at h
  · next hplain =>
    split at h
    · next m' i' hplace =>
      obtain ⟨j, hj, hcount⟩ := Option.map_eq_some_iff.1 h
      exact ⟨m, i, m', i', j, eq_ok_of_toOption hm, eq_ok_of_toOption hi, hplain, hplace,
        eq_ok_of_toOption hj, hcount⟩
    · cases h
  · cases h

/-- A value below its marked key, with a comment of its own. -/
theorem inspect_place_iff_comment : ∃ m i m' i',
    Manifest.parse "# +operator-builder:field:name=x,type=string\na:\n  # b\n  v\n" = .ok m ∧
    m.inspect operatorRegistry = .ok i ∧ i.place {} m = (m', .ok i') ∧
    (∃ j, m'.inspect operatorRegistry = .ok j ∧ j.findings = []) ∧
    ∀ f ∈ i.findings, ∀ k v n, f.target = .pair k v → m.node? v = some n →
      Inspection.Quiet operatorRegistry (n.headComment ++ "\n\n" ++ n.footComment) := by
  have hcount : Manifest.countAfterPlace? operatorRegistry {}
      "# +operator-builder:field:name=x,type=string\na:\n  # b\n  v\n" = some 0 := by
    rw [Manifest.countAfterPlace?, Manifest.parse_eq_ite, String.toList_ofList]
    decide +kernel
  obtain ⟨m, i, m', i', j, hm, hi, hplain, hplace, hj, hlength⟩ :=
    Manifest.exists_of_countAfterPlace? hcount
  have hnil : ∃ j, m'.inspect operatorRegistry = .ok j ∧ j.findings = [] :=
    ⟨j, hj, List.eq_nil_of_length_eq_zero hlength⟩
  exact ⟨m, i, m', i', hm, hi, hplace, hnil,
    (inspect_place_iff defineAll_operatorRegistry hm hi hplain hplace).1 hnil⟩

/-- A marker above a value that stands on a line of its own is found again. -/
theorem inspect_place_ne_nil_of_value_comment : ∃ m i m' i' j,
    Manifest.parse "a:\n  # +operator-builder:field:name=x,type=string\n  v\n" = .ok m ∧
    m.inspect operatorRegistry = .ok i ∧ (∀ f ∈ i.findings, f.IsPlain) ∧
    i.place {} m = (m', .ok i') ∧ m'.inspect operatorRegistry = .ok j ∧ j.findings ≠ [] := by
  have hcount : Manifest.countAfterPlace? operatorRegistry {}
      "a:\n  # +operator-builder:field:name=x,type=string\n  v\n" = some 1 := by
    rw [Manifest.countAfterPlace?, Manifest.parse_eq_ite, String.toList_ofList]
    decide +kernel
  obtain ⟨m, i, m', i', j, hm, hi, hplain, hplace, hj, hlength⟩ :=
    Manifest.exists_of_countAfterPlace? hcount
  refine ⟨m, i, m', i', j, hm, hi, hplain, hplace, hj, fun hnil => ?_⟩
  simp [hnil] at hlength

end ManifestMarkers
