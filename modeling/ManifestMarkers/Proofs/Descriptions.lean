import ManifestMarkers.Proofs.PlaceholderComments
import ManifestMarkers.Proofs.PrunedPieces

/-!
# Descriptions in the manifest

The description of a field becomes a comment above the marked value. It should not change what the
manifest says.

* `Inspection.undescribed` is an inspection without its descriptions. Placing both leads to
  manifests that differ in head comments only (`reheaded_placeAll`).
* `value_eq_of_place`: the values of the documents are the same, if YAML takes the lines of the
  descriptions as lines and reads tokens behind them.
* `value_ne_of_description_break`: a line break that is none to the writer lets a description into
  the manifest.
-/

namespace ManifestMarkers

/-! ### Without descriptions -/

/-- A finding without its description. -/
def Finding.undescribed (f : Finding) : Finding :=
  { f with marker := f.marker.mapField fun field => { field with description := none } }

/-- An inspection without descriptions. -/
def Inspection.undescribed (i : Inspection) : Inspection :=
  { i with findings := i.findings.map Finding.undescribed }

namespace Yaml

/-- The value of a document depends on its tokens only. -/
theorem decode?_congr {a b : List Char} (h : scan? a = scan? b) : decode? a = decode? b := by
  unfold decode? documents?
  rw [h]

end Yaml

/-! ### Two runs of the placeholders -/

/-- The lines of the comment that a finding brings into the manifest. -/
def Finding.descriptionLines (f : Finding) : List (List Char) :=
  match f.marker.field? with
  | none => []
  | some field => match field.description with
    | none => []
    | some description => Text.lines
      (Field.trimLineFeeds description ++ ", controlled by " ++ field.name).toList

/-- The value of a node, or nothing. -/
def Manifest.valueAt (m : Manifest) (id : Nat) : String :=
  match m.node? id with
  | some n => n.value
  | none => ""

/-- Put the description of a field in place. -/
def Finding.describe (f : Finding) (field : Field) (m : Manifest) : Manifest :=
  match field.description with
  | some description => m.modify f.target.key fun n =>
    { n with
      headComment := Finding.descriptionComment (Field.trimLineFeeds description) field.name }
  | none => m

/-- Every field has a spec. -/
theorem Finding.exists_specOf {f : Finding} {field : Field} (p : Placeholders)
    (h : f.marker.field? = some field) : ∃ spec, specOf p f.marker = some spec := by
  revert h
  cases f.marker with
  | field _ => exact fun _ => ⟨p.parent, rfl⟩
  | collectionField _ => exact fun _ => ⟨p.collection, rfl⟩
  | resource _ => exact fun h => by cases h

/-- The manifest after a placeholder, and whether there is one. -/
theorem Finding.placeField_eq (f : Finding) (field : Field) (spec : String) (m : Manifest) :
    (f.placeField field spec m).1 =
        (match replacement field spec ((f.describe field m).valueAt f.target.value) with
        | .error _ => f.describe field m
        | .ok (text, tag) => (f.describe field m).modify f.target.value
          fun n => (n.setTag tag).setValue text) ∧
      (f.placeField field spec m).2.isOk =
        (replacement field spec ((f.describe field m).valueAt f.target.value)).isOk := by
  have hsame (description value? : Option String) (value : String) :
      replacement { field with
        description
        manifestValue := value? } spec value = replacement field spec value := rfl
  unfold placeField describe Manifest.valueAt
  cases field.description <;> dsimp only [Option.map_some, Option.map_none] <;> rw [hsame] <;>
    generalize replacement field spec _ = r <;> cases r <;> exact ⟨rfl, rfl⟩

namespace Manifest

section

variable {R : Nat → Node → Node → Prop} {m m' : Manifest}

theorem Nodewise.modify (h : Nodewise R m m') (id : Nat) {g g' : Node → Node}
    (hg : ∀ n n', m'.node? id = some n' → R id n n' → R id (g n) (g' n')) :
    Nodewise R (m.modify id g) (m'.modify id g') := by
  refine ⟨h.documents, by simp [Manifest.modify, h.size], fun i => ?_⟩
  rw [node?_modify, node?_modify]
  rcases h.node_cases i with ⟨hn, hn'⟩ | ⟨n, n', hn, hn', hnode⟩
  · rw [hn, hn']
    split <;> exact .none
  · rw [hn, hn']
    split
    · next heq =>
      subst heq
      exact .some (hg n n' hn' hnode)
    · exact .some hnode

theorem modify_self (m : Manifest) (id : Nat) : m.modify id (fun n => n) = m := by
  have hsame : m.nodes.modify id (fun n => n) = m.nodes := by
    apply Array.ext_getElem?
    intro i
    rw [Array.getElem?_modify]
    split <;> simp
  simp [Manifest.modify, hsame]

theorem Nodewise.modify_left (h : Nodewise R m m') (id : Nat) {g : Node → Node}
    (hg : ∀ n n', m'.node? id = some n' → R id n n' → R id (g n) n') :
    Nodewise R (m.modify id g) m' := by
  rw [← modify_self m' id]
  exact h.modify id hg

theorem Nodewise.modify_right (h : Nodewise R m m') (id : Nat) {g : Node → Node}
    (hg : ∀ n n', m'.node? id = some n' → R id n n' → R id n (g n')) :
    Nodewise R m (m'.modify id g) := by
  rw [← modify_self m id]
  exact h.modify id hg

/-- A node of the second manifest has one of the first. -/
theorem Nodewise.exists_left (h : Nodewise R m m') {id : Nat} {n' : Node}
    (hn' : m'.node? id = some n') : ∃ n, m.node? id = some n ∧ R id n n' := by
  rcases h.node_cases id with ⟨-, hnone⟩ | ⟨n, n'', hn, hn'', hrel⟩
  · rw [hn'] at hnone
    cases hnone
  · obtain rfl : n' = n'' := by simpa [hn'] using hn''
    exact ⟨n, hn, hrel⟩

/-- A node of the first manifest has one of the second. -/
theorem Nodewise.exists_right (h : Nodewise R m m') {id : Nat} {n : Node}
    (hn : m.node? id = some n) : ∃ n', m'.node? id = some n' ∧ R id n n' := by
  rcases h.node_cases id with ⟨hnone, -⟩ | ⟨n₀, n', hn₀, hn', hrel⟩
  · rw [hn] at hnone
    cases hnone
  · obtain rfl : n = n₀ := by simpa [hn] using hn₀
    exact ⟨n', hn', hrel⟩

end

/-- A node before and after placeholders: its place in the tree stays, and no foot comment comes. -/
structure Node.Kept (n n' : Node) : Prop where
  kind : n'.kind = n.kind
  content : n'.content = n.content
  foot : n.footComment = "" → n'.footComment = ""

section

variable {m m' m'' : Manifest}

theorem kept_refl (m : Manifest) : Nodewise (fun _ => Node.Kept) m m := by
  refine ⟨rfl, rfl, fun id => ?_⟩
  cases m.node? id with
  | none => exact .none
  | some n => exact .some ⟨rfl, rfl, fun h => h⟩

theorem kept_modify (h : Nodewise (fun _ => Node.Kept) m m') (id : Nat) {g : Node → Node}
    (hg : ∀ n : Node, n.Kept (g n)) : Nodewise (fun _ => Node.Kept) m (m'.modify id g) :=
  h.modify_right id fun _ n' _ hn => ⟨(hg n').kind.trans hn.kind,
    (hg n').content.trans hn.content, fun hfoot => (hg n').foot (hn.foot hfoot)⟩

theorem kept_placeField (f : Finding) (field : Field) (spec : String)
    (h : Nodewise (fun _ => Node.Kept) m m') :
    Nodewise (fun _ => Node.Kept) m (f.placeField field spec m').1 := by
  have hhead : Nodewise (fun _ => Node.Kept) m (f.describe field m') := by
    unfold Finding.describe
    split
    · exact kept_modify h _ fun _ => ⟨rfl, rfl, fun h => h⟩
    · exact h
  rw [(Finding.placeField_eq f field spec m').1]
  split
  · exact hhead
  · exact kept_modify hhead _ fun _ => ⟨rfl, rfl, fun h => h⟩

theorem kept_clearComments (f : Finding) (h : Nodewise (fun _ => Node.Kept) m m') :
    Nodewise (fun _ => Node.Kept) m (f.clearComments m') := by
  unfold Finding.clearComments
  refine kept_modify (kept_modify h _ fun n => ?_) _ fun n => ?_
  · exact ⟨rfl, rfl, fun _ => rfl⟩
  · exact ⟨rfl, rfl, fun h => h⟩

theorem kept_place (p : Placeholders) (f : Finding) (h : Nodewise (fun _ => Node.Kept) m m') :
    Nodewise (fun _ => Node.Kept) m (f.place p m').1 := by
  have hclear := kept_clearComments f h
  unfold Finding.place
  split
  · exact h
  · dsimp only
    split
    · exact kept_placeField f _ _ hclear
    · exact hclear

theorem kept_placeAll (p : Placeholders) (fs : List Finding)
    (h : Nodewise (fun _ => Node.Kept) m m') :
    Nodewise (fun _ => Node.Kept) m (Finding.placeAll p fs m').1 := by
  induction fs generalizing m' with
  | nil => exact h
  | cons f fs ih =>
    have hplace := kept_place p f h
    unfold Finding.placeAll
    split
    · next heq => rwa [heq] at hplace
    · next m₁ f' heq =>
      rw [heq] at hplace
      have hrest := ih hplace
      split
      · next heq' => rwa [heq'] at hrest
      · next heq' => rwa [heq'] at hrest

/-- Only scalars have placeholders put in their place. -/
theorem scalar_of_placeAll {p : Placeholders} {fs fs' : List Finding} {m₁ : Manifest}
    (hkept : Nodewise (fun _ => Node.Kept) m m₁) (h : Finding.placeAll p fs m₁ = (m', .ok fs')) :
    ∀ f ∈ fs, f.marker.field?.isSome = true → ∀ n, m.node? f.target.value = some n →
      n.kind = .scalar := by
  induction fs generalizing m₁ fs' with
  | nil => simp
  | cons f fs ih =>
    have hnext := kept_place p f hkept
    obtain ⟨m₂, f', rest, hplace, hrest, -⟩ := Finding.placeAll_cons h
    rw [hplace] at hnext
    intro g hg hfield n hn
    rcases List.mem_cons.1 hg with rfl | hg
    · obtain ⟨n₁, hn₁, hrel⟩ := hkept.exists_right hn
      obtain ⟨field, hfield⟩ := Option.isSome_iff_exists.1 hfield
      rw [Finding.place, Finding.nonScalar?, hfield, hn₁] at hplace
      dsimp only at hplace
      rw [← hrel.kind]
      by_contra hkind
      rw [if_neg (by simpa [Node.isScalar] using hkind)] at hplace
      cases hplace
    · exact ih hnext hrest g hg hfield n hn

/-- What the writer relies on is kept. -/
theorem IsWritable.of_kept (hm : m.IsWritable) (h : Nodewise (fun _ => Node.Kept) m m') :
    m'.IsWritable := by
  refine ⟨fun id n' hn' i hi => ?_, fun id n' hn' hkind => ?_, fun id n' hn' hkind i hi => ?_,
    fun id n' hn' hkind => ?_⟩
  all_goals obtain ⟨n, hn, hkept⟩ := h.exists_left hn'
  · rw [hkept.content] at hi
    exact hm.rising id n hn i hi
  · rw [hkept.kind] at hkind
    obtain ⟨hne, heven, hpairs⟩ := hm.mapping id n hn hkind
    rw [hkept.content]
    refine ⟨hne, heven, fun k v hpair => ?_⟩
    obtain ⟨⟨key, hkey, hscalar⟩, value, hvalue, hfoot⟩ := hpairs k v hpair
    obtain ⟨key', hkey', hkept⟩ := h.exists_right hkey
    obtain ⟨value', hvalue', hkept'⟩ := h.exists_right hvalue
    exact ⟨⟨key', hkey', hkept.kind.trans hscalar⟩, value', hvalue', hkept'.foot hfoot⟩
  · rw [hkept.kind] at hkind
    rw [hkept.content] at hi
    obtain ⟨item, hitem⟩ := hm.sequence id n hn hkind i hi
    obtain ⟨item', hitem', -⟩ := h.exists_right hitem
    exact ⟨item', hitem'⟩
  · rw [hkept.kind] at hkind
    rw [hkept.content]
    exact hm.scalar id n hn hkind

end

section

variable {lines : List (List Char)} {m m' : Manifest} {f : Finding}

theorem commentParts_descriptionComment (description name : String) :
    commentParts (Finding.descriptionComment description name) =
      (Text.lines (description ++ ", controlled by " ++ name).toList).map
        fun line => '#' :: ' ' :: line := by
  have hne : Text.lines (description ++ ", controlled by " ++ name).toList ≠ [] :=
    Text.splitOn_ne_nil _ _
  have hempty : (Finding.descriptionComment description name).isEmpty = false := by
    obtain ⟨first, rest, hlines⟩ := List.exists_cons_of_ne_nil hne
    unfold Finding.descriptionComment
    rw [hlines]
    cases rest <;> simp [Text.joinWith]
  unfold commentParts
  rw [hempty, if_neg Bool.false_ne_true, Finding.descriptionComment, String.toList_ofList,
    Text.lines_joinWith (List.map_eq_nil_iff.not.2 hne)]
  intro part hpart
  obtain ⟨line, hline, rfl⟩ := List.mem_map.1 hpart
  simpa using Text.notMem_of_mem_splitOn hline

theorem reheaded_placeField {field : Field} (spec : String)
    (h : Nodewise (fun _ => Node.Reheaded lines) m m')
    (hkey : ∀ n', m'.node? f.target.key = some n' → n'.kind = .scalar ∧ n'.headComment = "")
    (hlines : ∀ description ∈ field.description, ∀ line ∈ Text.lines
      (Field.trimLineFeeds description ++ ", controlled by " ++ field.name).toList, line ∈ lines) :
    Nodewise (fun _ => Node.Reheaded lines) (f.placeField field spec m).1
        (f.undescribed.placeField { field with description := none } spec m').1 ∧
      (f.placeField field spec m).2.isOk =
        (f.undescribed.placeField { field with description := none } spec m').2.isOk := by
  have hhead : Nodewise (fun _ => Node.Reheaded lines) (f.describe field m) m' := by
    unfold Finding.describe
    cases hd : field.description with
    | none => exact h
    | some description =>
      refine h.modify_left f.target.key fun n n' hn' hrel => ?_
      obtain ⟨head, rfl, -⟩ := hrel
      obtain ⟨hscalar, hempty⟩ := hkey n' hn'
      refine ⟨_, rfl, .inr ⟨hscalar, hempty, fun part hpart => ?_⟩⟩
      rw [commentParts_descriptionComment] at hpart
      obtain ⟨line, hline, rfl⟩ := List.mem_map.1 hpart
      exact ⟨line, hlines description hd line hline, rfl⟩
  have hvalue : (f.describe field m).valueAt f.target.value = m'.valueAt f.target.value := by
    unfold valueAt
    rcases hhead.node_cases f.target.value with ⟨hn, hn'⟩ | ⟨n, n', hn, hn', head, rfl, -⟩
    · rw [hn, hn']
    · rw [hn, hn']
  have hleft := Finding.placeField_eq f field spec m
  have hright := Finding.placeField_eq f.undescribed { field with description := none } spec m'
  change _ = (match Finding.replacement field spec (m'.valueAt f.target.value) with
    | .error _ => m'
    | .ok (text, tag) => m'.modify f.target.value fun n => (n.setTag tag).setValue text) ∧
      _ = (Finding.replacement field spec (m'.valueAt f.target.value)).isOk at hright
  rw [hleft.1, hleft.2, hright.1, hright.2, hvalue]
  refine ⟨?_, rfl⟩
  split
  · exact hhead
  · refine hhead.modify f.target.value fun n n' _ hrel => ?_
    obtain ⟨head, rfl, hrel⟩ := hrel
    exact ⟨head, rfl, hrel⟩

theorem reheaded_clearComments (h : Nodewise (fun _ => Node.Reheaded lines) m m') :
    Nodewise (fun _ => Node.Reheaded lines) (f.clearComments m) (f.clearComments m') := by
  unfold Finding.clearComments
  refine (h.modify f.target.key fun n n' _ hrel => ?_).modify f.target.value fun n n' _ hrel => ?_
  · obtain ⟨head, rfl, -⟩ := hrel
    exact ⟨"", rfl, .inl rfl⟩
  · obtain ⟨head, rfl, hrel⟩ := hrel
    exact ⟨head, rfl, hrel⟩

theorem headComment_clearComments {n : Node}
    (hn : (f.clearComments m).node? f.target.key = some n) : n.headComment = "" := by
  simp only [Finding.clearComments, node?_modify, if_true] at hn
  cases hkey : m.node? f.target.key with
  | none => split at hn <;> simp [hkey] at hn
  | some n₀ =>
    rw [hkey] at hn
    split at hn <;> cases hn <;> rfl

theorem field?_undescribed (f : Finding) : f.undescribed.marker.field? =
    f.marker.field?.map fun field => { field with description := none } := by
  unfold Finding.undescribed
  cases f.marker <;> rfl

theorem nonScalar?_undescribed (h : Nodewise (fun _ => Node.Reheaded lines) m m') :
    f.undescribed.nonScalar? m' = f.nonScalar? m := by
  unfold Finding.nonScalar?
  rw [field?_undescribed]
  cases f.marker.field? with
  | none => rfl
  | some field =>
    have htarget : f.undescribed.target = f.target := rfl
    rw [htarget]
    rcases h.node_cases f.target.value with ⟨hn, hn'⟩ | ⟨n, n', hn, hn', head, rfl, -⟩
    · rw [hn, hn']
      rfl
    · rw [hn, hn']
      rfl

theorem reheaded_place (p : Placeholders) (h : Nodewise (fun _ => Node.Reheaded lines) m m')
    (hkey : ∀ k v, f.target = .pair k v → ∀ n', m'.node? k = some n' → n'.kind = .scalar)
    (hlines : ∀ line ∈ f.descriptionLines, line ∈ lines) :
    Nodewise (fun _ => Node.Reheaded lines) (f.place p m).1 (f.undescribed.place p m').1 ∧
      (f.place p m).2.isOk = (f.undescribed.place p m').2.isOk := by
  have hclear := reheaded_clearComments (f := f) h
  have hspec : Finding.specOf p f.undescribed.marker = Finding.specOf p f.marker := by
    unfold Finding.undescribed
    cases f.marker <;> rfl
  unfold Finding.place
  rw [nonScalar?_undescribed h, field?_undescribed, hspec]
  cases hscalar : f.nonScalar? m with
  | some e => exact ⟨h, rfl⟩
  | none =>
    dsimp only
    cases hfield : f.marker.field? with
    | none => exact ⟨hclear, rfl⟩
    | some field =>
      cases Finding.specOf p f.marker with
      | none => exact ⟨hclear, rfl⟩
      | some spec =>
        refine reheaded_placeField spec hclear
          (fun n' hn' => ⟨?_, headComment_clearComments hn'⟩) ?_
        · obtain ⟨n, hn, hkept⟩ := (kept_clearComments f (kept_refl m')).exists_left hn'
          rw [hkept.kind]
          cases htarget : f.target with
          | pair k v =>
            rw [htarget] at hn
            exact hkey k v htarget n hn
          | node id =>
            -- a single node is its own value
            have htarget' : f.undescribed.target.value = f.target.key := by
              change f.target.value = f.target.key
              rw [htarget]
              rfl
            rw [← nonScalar?_undescribed h, Finding.nonScalar?, field?_undescribed, hfield,
              htarget', hn] at hscalar
            simpa [Node.isScalar] using hscalar
        · intro description hd line hline
          refine hlines line ?_
          unfold Finding.descriptionLines
          rw [hfield]
          dsimp only
          rw [Option.mem_def.1 hd]
          exact hline

theorem reheaded_placeAll (p : Placeholders) {fs : List Finding}
    (h : Nodewise (fun _ => Node.Reheaded lines) m m')
    (hkey : ∀ f ∈ fs, ∀ k v, f.target = .pair k v →
      ∀ n', m'.node? k = some n' → n'.kind = .scalar)
    (hlines : ∀ f ∈ fs, ∀ line ∈ f.descriptionLines, line ∈ lines) :
    Nodewise (fun _ => Node.Reheaded lines) (Finding.placeAll p fs m).1
        (Finding.placeAll p (fs.map Finding.undescribed) m').1 ∧
      (Finding.placeAll p fs m).2.isOk =
        (Finding.placeAll p (fs.map Finding.undescribed) m').2.isOk := by
  induction fs generalizing m m' with
  | nil => exact ⟨h, rfl⟩
  | cons f fs ih =>
    rw [List.forall_mem_cons] at hkey hlines
    have hplace := reheaded_place p h hkey.1 hlines.1
    have hkept := kept_place p f.undescribed (kept_refl m')
    rw [List.map_cons]
    unfold Finding.placeAll
    generalize f.place p m = a at hplace
    generalize f.undescribed.place p m' = b at hplace hkept
    obtain ⟨m₁, r⟩ := a
    obtain ⟨m₂, r'⟩ := b
    obtain ⟨hm, hok⟩ := hplace
    have hrest := ih hm (fun g hg k v htarget n' hn' => by
      obtain ⟨n, hn, hkind⟩ := hkept.exists_left hn'
      rw [hkind.kind]
      exact hkey.2 g hg k v htarget n hn) hlines.2
    cases r with
    | error e =>
      cases r' with
      | error e' => exact ⟨hm, rfl⟩
      | ok f' => cases hok
    | ok f' =>
      cases r' with
      | error e' => cases hok
      | ok f'' =>
        dsimp only
        generalize Finding.placeAll p fs m₁ = a at hrest ⊢
        generalize Finding.placeAll p (fs.map Finding.undescribed) m₂ = b at hrest ⊢
        obtain ⟨m₃, r⟩ := a
        obtain ⟨m₄, r'⟩ := b
        cases r <;> cases r' <;> exact hrest

end

end Manifest

namespace Manifest

/-- The key of a marked pair is a scalar. -/
theorem scalar_of_target {registry : Registry} {text : String} {m : Manifest} {i : Inspection}
    (hparse : parse text = .ok m) (hinspect : m.inspect registry = .ok i) :
    ∀ f ∈ i.findings, ∀ k v, f.target = .pair k v → ∀ n, m.node? k = some n → n.kind = .scalar := by
  intro f hf k v htarget n hn
  have hmem : .pair k v ∈ m.targets := htarget ▸ target_mem_of_inspect hinspect f hf
  obtain ⟨id, parent, hparent, hkind, hpair⟩ := mem_pairs_iff.1 (mem_pairs_of_mem_targets hmem)
  obtain ⟨-, -, hpairs⟩ := (isWritable_of_parse hparse).mapping id parent hparent hkind
  obtain ⟨⟨key, hkey, hscalar⟩, -⟩ := hpairs k v hpair
  obtain rfl : key = n := by simpa [hkey] using hn
  exact hscalar

/-- Whether a token that may be a key starts behind each comment line that the first manifest has
and the second one has not. -/
def tokensBehind (m₁ m₂ : Manifest) (index : Nat) : Bool :=
  match m₂.documents[index]? with
  | none => true
  | some root => (behind (differs m₁ m₂) (documentPieces m₁ false index root)).all
    (Yaml.starts (documentText m₂ false root)).contains

/-- A description does not change the values of documents, if YAML takes its lines as lines and a
token starts behind it. -/
theorem value_eq_of_place {registry : Registry} {p : Placeholders} {text : String}
    {m m₁ : Manifest} {i i₁ : Inspection} (hparse : parse text = .ok m)
    (hinspect : m.inspect registry = .ok i) (hplace : i.place p m = (m₁, .ok i₁))
    (hlines : ∀ f ∈ i.findings, ∀ line ∈ f.descriptionLines, Yaml.isOneLine line = true) :
    ∃ m₂ i₂, i.undescribed.place p m = (m₂, .ok i₂) ∧
      ∀ index, tokensBehind m₁ m₂ index = true → m₁.value index = m₂.value index := by
  have hself : Nodewise (fun _ => Node.Reheaded (i.findings.flatMap Finding.descriptionLines))
      m m := by
    refine ⟨rfl, rfl, fun id => ?_⟩
    cases m.node? id with
    | none => exact .none
    | some n => exact .some ⟨n.headComment, rfl, .inl rfl⟩
  have hrel := reheaded_placeAll p hself (scalar_of_target hparse hinspect)
    fun f hf line hline => List.mem_flatMap.2 ⟨f, hf, hline⟩
  have hkept := kept_placeAll p i.findings (kept_refl m)
  unfold Inspection.place at hplace ⊢
  generalize Finding.placeAll p i.findings m = a at hplace hrel hkept
  have hfindings : i.undescribed.findings = i.findings.map Finding.undescribed := rfl
  rw [hfindings]
  generalize Finding.placeAll p (i.findings.map Finding.undescribed) m = b at hrel
  obtain ⟨m', r⟩ := a
  obtain ⟨m₂, r'⟩ := b
  obtain ⟨hnodes, hok⟩ := hrel
  cases r with
  | error e => cases hplace
  | ok findings =>
    cases hplace
    cases r' with
    | error e => cases hok
    | ok findings' =>
      refine ⟨m₂, _, rfl, fun index htokens => ?_⟩
      have hflat : ∀ line ∈ i.findings.flatMap Finding.descriptionLines,
          Yaml.isOneLine line = true := by
        intro line hline
        obtain ⟨f, hf, hline⟩ := List.mem_flatMap.1 hline
        exact hlines f hf line hline
      unfold value tokensBehind at *
      rw [hnodes.documents]
      cases hroot : m₂.documents[index]? with
      | none => rfl
      | some root =>
        rw [hroot] at htokens
        have hbehind : ∀ x ∈ behind (differs m₁ m₂) (documentPieces m₁ false index root),
            x ∈ Yaml.starts (documentText m₂ false root) := by
          simpa using htokens
        dsimp only
        rw [Yaml.decode?_congr (scan?_documentText hnodes hflat
          ((isWritable_of_parse hparse).of_kept hkept) index root hbehind)]

/-- An inspection and the manifests after two runs of its placeholders, with the descriptions and
without them, if everything before it succeeds. -/
def placedTwice? (registry : Registry) (p : Placeholders) (text : String) :
    Option (Inspection × Manifest × Manifest) :=
  (parse text).toOption.bind fun m => (m.inspect registry).toOption.bind fun i =>
    match i.place p m, i.undescribed.place p m with
    | (m₁, .ok _), (m₂, .ok _) => some (i, m₁, m₂)
    | _, _ => none

theorem exists_of_placedTwice? {registry : Registry} {p : Placeholders} {text : String}
    {i : Inspection} {m₁ m₂ : Manifest} (h : placedTwice? registry p text = some (i, m₁, m₂)) :
    ∃ m i₁ i₂, parse text = .ok m ∧ m.inspect registry = .ok i ∧
      i.place p m = (m₁, .ok i₁) ∧ i.undescribed.place p m = (m₂, .ok i₂) := by
  obtain ⟨m, hm, h⟩ := Option.bind_eq_some_iff.1 h
  obtain ⟨i, hi, h⟩ := Option.bind_eq_some_iff.1 h
  split at h
  · next i₁ _ i₂ hplace hplace' =>
    cases h
    exact ⟨m, i₁, i₂, eq_ok_of_toOption hm, eq_ok_of_toOption hi, hplace, hplace'⟩
  · cases h

/-- A description with two lines and with what would be a pair elsewhere. -/
theorem value_eq_of_place_lines : ∃ m i m₁ i₁ m₂ i₂,
    parse "# +operator-builder:field:name=x,type=string,description=\"b: c\\nd\"\na: v\n" = .ok m ∧
    m.inspect operatorRegistry = .ok i ∧ i.place {} m = (m₁, .ok i₁) ∧
    (∀ f ∈ i.findings, ∀ line ∈ f.descriptionLines, Yaml.isOneLine line = true) ∧
    i.undescribed.place {} m = (m₂, .ok i₂) ∧ m₁.text ≠ m₂.text ∧
    tokensBehind m₁ m₂ 0 = true ∧ m₁.value 0 = m₂.value 0 := by
  have h : (placedTwice? operatorRegistry {}
      "# +operator-builder:field:name=x,type=string,description=\"b: c\\nd\"\na: v\n").map
      (fun (i, m₁, m₂) =>
        i.findings.all (fun f => f.descriptionLines.all Yaml.isOneLine) &&
          m₁.text != m₂.text && tokensBehind m₁ m₂ 0) = some true := by
    rw [placedTwice?, parse_eq_ite, String.toList_ofList]
    decide +kernel
  obtain ⟨⟨i, m₁, m₂⟩, hplaced, h⟩ := Option.map_eq_some_iff.1 h
  obtain ⟨m, i₁, i₂, hm, hi, hplace, hplace'⟩ := exists_of_placedTwice? hplaced
  simp only [Bool.and_eq_true, List.all_eq_true, bne_iff_ne] at h
  obtain ⟨⟨hlines, htext⟩, htokens⟩ := h
  obtain ⟨m₂', i₂', hplace'', hvalue⟩ := value_eq_of_place hm hi hplace hlines
  obtain rfl : m₂ = m₂' := congrArg Prod.fst (hplace'.symm.trans hplace'')
  exact ⟨m, i, m₁, i₁, m₂, i₂, hm, hi, hplace, hlines, hplace', htext, htokens, hvalue 0 htokens⟩

/-- A carriage return in a description ends the comment, and what follows becomes a key. -/
theorem value_ne_of_description_break : ∃ m i m₁ i₁ m₂ i₂ v w,
    parse "# +operator-builder:field:name=x,type=string,description=\"a\\rb: c\"\na: v\n" = .ok m ∧
    m.inspect operatorRegistry = .ok i ∧ i.place {} m = (m₁, .ok i₁) ∧
    i.undescribed.place {} m = (m₂, .ok i₂) ∧ m₁.value 0 = .ok v ∧ m₂.value 0 = .ok w ∧
    v.same w = false := by
  have h : ((placedTwice? operatorRegistry {}
      "# +operator-builder:field:name=x,type=string,description=\"a\\rb: c\"\na: v\n").bind fun m =>
        (m.2.1.value 0).toOption.bind fun v => (m.2.2.value 0).toOption.map fun w => v.same w) =
      some false := by
    rw [placedTwice?, parse_eq_ite, String.toList_ofList]
    decide +kernel
  obtain ⟨⟨i, m₁, m₂⟩, hplaced, h⟩ := Option.bind_eq_some_iff.1 h
  obtain ⟨v, hv, h⟩ := Option.bind_eq_some_iff.1 h
  obtain ⟨w, hw, h⟩ := Option.map_eq_some_iff.1 h
  obtain ⟨m, i₁, i₂, hm, hi, hplace, hplace'⟩ := exists_of_placedTwice? hplaced
  exact ⟨m, i, m₁, i₁, m₂, i₂, v, w, hm, hi, hplace, hplace', eq_ok_of_toOption hv,
    eq_ok_of_toOption hw, h⟩

end Manifest

end ManifestMarkers
