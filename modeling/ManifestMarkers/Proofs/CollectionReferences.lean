import ManifestMarkers.Proofs.Descriptions
import ManifestMarkers.Proofs.StoredTexts
import ManifestMarkers.Proofs.WrittenReferences

/-!
# References to the collection that are left

When a collection is its own resource, `collectionToParent` is the last step after the placeholders:
it rewrites the references of the collection in the text of the manifest.

* `Node.IsPlaced`: what is known of a node after placeholders, by the findings that have been
  placed. `isPlaced_placeAll` carries it through a run.
* `hasReference_variable_iff` and `hasReference_string_iff` say when a new text has one: a whole
  value that is written plainly has none, but a value with a replaced part is tagged `!!str`, and
  keeps its references.
* `Finding.IsWhole`: a finding that brings in no reference but the one behind the tag, such as a
  field without a pattern whose expression is written plainly (`not_hasReference_reference`).
* `reference_left_iff`: in a manifest whose source has no reference, one is left exactly where the
  new text of a marked value, or the comment that its description became, has one that is not
  behind the tag `!!var`. None is left where all fields take the place of whole values.
* `reference_left_of_splice`: the manifest of a value with a replaced part refers to the collection.
-/

namespace ManifestMarkers

namespace Finding

/-- The finding has put a value and its tag in place. -/
def Writes (p : Placeholders) (f : Finding) (n : Manifest.Node) : Prop :=
  ∃ field spec value tag, f.marker.field? = some field ∧ specOf p f.marker = some spec ∧
    replacement field spec value = .ok (n.value, tag) ∧ n.tag = some tag

/-- The description of the finding has become a comment. -/
def Describes (f : Finding) (comment : String) : Prop :=
  ∃ field, f.marker.field? = some field ∧ ∃ description ∈ field.description,
    comment = descriptionComment (Field.trimLineFeeds description) field.name

/-- Whether the value that a field marks, or the comment above it, has a reference that is not
behind the tag. -/
def Refers (m : Manifest) (f : Finding) : Prop :=
  f.marker.field?.isSome = true ∧
    ((∃ n, m.node? f.target.value = some n ∧ HasReference (n.scalarText true)) ∨
      ∃ n, m.node? f.target.key = some n ∧
        ∃ comment ∈ Manifest.commentParts n.headComment, HasReference comment)

/-- Whether a finding takes the place of a whole value, and neither the expression behind the tag
nor its description brings in a reference to the collection. -/
def IsWhole (p : Placeholders) (f : Finding) : Prop :=
  ∀ field spec, f.marker.field? = some field → specOf p f.marker = some spec →
    field.replace = none ∧
    (∀ description ∈ field.description,
      IsClear (descriptionComment (Field.trimLineFeeds description) field.name).toList) ∧
    ¬ HasReference (variableTag ++ Manifest.Node.quote (field.reference spec).toList)

section

variable {p : Placeholders} {f : Finding} {n : Manifest.Node} {comment : String}

theorem Writes.isField (h : f.Writes p n) : f.marker.field?.isSome = true := by
  obtain ⟨field, -, -, -, hfield, -⟩ := h
  rw [hfield]
  rfl

theorem Describes.isField (h : f.Describes comment) : f.marker.field?.isSome = true := by
  obtain ⟨field, hfield, -⟩ := h
  rw [hfield]
  rfl

theorem Describes.sign (h : f.Describes comment) :
    ∀ line ∈ Manifest.commentParts comment, line.head? = some '#' := by
  obtain ⟨field, -, description, -, rfl⟩ := h
  intro line hmem
  rw [Manifest.commentParts_descriptionComment] at hmem
  obtain ⟨line, -, rfl⟩ := List.mem_map.1 hmem
  rfl

end

end Finding

namespace Manifest

/-! ### Clear texts of nodes -/

theorem isTextual_isClear : IsTextual IsClear where
  nil := isClear_of_all rfl
  part hpart h := h.part hpart
  lines {a b} ha hb := by
    have hb : IsClear ('\n' :: b) := by
      have happart : Apart ['\n'] b := apart_of_gap (.inl (by decide))
      exact (isClear_append_iff happart).2 ⟨isClear_of_all (by decide), hb⟩
    exact (isClear_append_iff (apart_of_gap (.inr rfl))).2 ⟨ha, hb⟩

section

variable {n : Node} {tags : Bool} {cs lead : List Char}

theorem isClear_joinWith {parts : List (List Char)} (h : ∀ part ∈ parts, IsClear part) :
    IsClear (Text.joinWith [' '] parts) := by
  fun_induction Text.joinWith [' '] parts with
  | case1 => exact isTextual_isClear.nil
  | case2 part => exact h part (by simp)
  | case3 part next parts ih =>
    have hblank : IsClear (part ++ [' ']) := (isClear_append_iff (apart_of_gap (.inr rfl))).2
      ⟨h part (by simp), isClear_of_all (by decide)⟩
    refine (isClear_append_iff (apart_of_gap (.inl ?_))).2
      ⟨hblank, ih fun p hp => h p (by simp [hp])⟩
    rw [endsGap_append]
    rfl

/-- What stands behind gaps. -/
theorem hasReference_lead (hlead : ∀ c ∈ lead, isGap c = true) (hcs : Anchored cs) :
    Anchored (lead ++ cs) ∧ (HasReference (lead ++ cs) ↔ HasReference cs) := by
  have hapart : Apart lead cs := apart_of_gap (.inl (endsGap_of_forall hlead))
  have hclear := isClear_of_forall hlead
  refine ⟨hclear.anchored.append hapart hcs, ?_⟩
  rw [hasReference_append hapart hcs, or_iff_right hclear.not_hasReference]

/-- The text of a scalar without its properties. -/
def Node.ownText (n : Node) : List Char :=
  match n.raw with
  | some raw => raw.toList
  | none => Node.quote n.value.toList

theorem scalarText_cases (n : Node) (tags : Bool) :
    n.properties tags = [] ∧ n.scalarText tags = n.ownText ∨
      n.ownText = [] ∧ n.scalarText tags = n.properties tags ∨
      n.scalarText tags = (n.properties tags ++ [' ']) ++ n.ownText := by
  have heq : n.scalarText tags = if (n.properties tags).isEmpty then n.ownText
      else if n.ownText.isEmpty then n.properties tags
      else n.properties tags ++ ' ' :: n.ownText := rfl
  rw [heq]
  split
  · next hempty => exact .inl ⟨List.isEmpty_iff.1 hempty, rfl⟩
  · split
    · next hempty => exact .inr (.inl ⟨List.isEmpty_iff.1 hempty, rfl⟩)
    · exact .inr (.inr (by simp))

theorem endsGap_blank (gap : Bool) (cs : List Char) : endsGap gap (cs ++ [' ']) = true := by
  rw [endsGap_append]
  rfl

theorem isClear_blank (h : IsClear cs) : IsClear (cs ++ [' ']) :=
  (isClear_append_iff (apart_of_gap (.inr rfl))).2 ⟨h, isClear_of_all (by decide)⟩

theorem isClear_properties
    (h : ∀ property ∈ n.anchor.toList ++ n.tag.toList, IsClear property.toList) :
    IsClear (n.properties tags) := by
  refine isClear_joinWith fun part hpart => ?_
  obtain ⟨property, hproperty, rfl⟩ := List.mem_map.1 hpart
  refine h property ?_
  rcases List.mem_append.1 hproperty with hanchor | htag
  · exact List.mem_append_left _ hanchor
  · refine List.mem_append_right _ ?_
    cases tags with
    | true => exact htag
    | false => cases htag

theorem isClear_scalarText
    (h : ∀ property ∈ n.anchor.toList ++ n.tag.toList, IsClear property.toList)
    (htext : IsClear n.ownText) : IsClear (n.scalarText tags) := by
  have hproperties : IsClear (n.properties tags) := isClear_properties h
  rcases scalarText_cases n tags with ⟨-, heq⟩ | ⟨-, heq⟩ | heq
  · rwa [heq]
  · rwa [heq]
  · rw [heq]
    exact (isClear_append_iff (apart_of_gap (.inl (endsGap_blank true _)))).2
      ⟨isClear_blank hproperties, htext⟩

/-! ### The text of a value that has been replaced -/

/-- A value that has been replaced is tagged, and has no text of its own. -/
def Node.IsReplaced (n : Node) : Prop :=
  n.raw = none ∧ (n.tag = some "!!var" ∨ n.tag = some "!!str") ∧
    ∀ anchor ∈ n.anchor, IsClear anchor.toList

/-- The tag comes behind the anchor. -/
theorem exists_properties {tag : String} (htag : n.tag = some tag)
    (hanchor : ∀ anchor ∈ n.anchor, IsClear anchor.toList) :
    ∃ lead, IsClear lead ∧ endsGap true lead = true ∧ n.properties true = lead ++ tag.toList := by
  cases hn : n.anchor with
  | none =>
    exact ⟨[], isTextual_isClear.nil, rfl, by simp [Node.properties, hn, htag, Text.joinWith]⟩
  | some anchor =>
    exact ⟨anchor.toList ++ [' '], isClear_blank (hanchor anchor hn), endsGap_blank true _,
      by simp [Node.properties, hn, htag, Text.joinWith]⟩

theorem Node.IsReplaced.isClear_properties (h : n.IsReplaced) :
    IsClear (n.properties true) ∧ 5 ≤ (n.properties true).length := by
  obtain ⟨tag, htag, hclear, hlength, hstart⟩ : ∃ tag, n.tag = some tag ∧ IsClear tag.toList ∧
      tag.toList.length = 5 ∧ startsGap tag.toList = true := by
    unfold IsClear
    rcases h.2.1 with htag | htag
    · exact ⟨_, htag, by decide, rfl, rfl⟩
    · exact ⟨_, htag, by decide, rfl, rfl⟩
  obtain ⟨lead, hlead, -, heq⟩ := exists_properties htag h.2.2
  rw [heq]
  refine ⟨(isClear_append_iff (apart_of_gap (.inr hstart))).2 ⟨hlead, hclear⟩, ?_⟩
  rw [List.length_append]
  omega

/-- The tag is written before the new text. -/
theorem Node.IsReplaced.anchored (h : n.IsReplaced) : Anchored (n.scalarText true) := by
  obtain ⟨hclear, hlength⟩ := h.isClear_properties
  rcases scalarText_cases n true with ⟨hempty, -⟩ | ⟨-, heq⟩ | heq
  · rw [hempty] at hlength
    cases hlength
  · rw [heq]
    exact hclear.anchored
  · rw [heq]
    refine (isClear_blank hclear).anchored_append (apart_of_gap (.inl (endsGap_blank true _)))
      (.inl ?_)
    rw [List.length_append]
    simp only [List.length_singleton]
    omega

/-- A text with its tag, behind the anchor. -/
theorem Node.IsReplaced.exists_scalarText (h : n.IsReplaced) {tag : String}
    (htag : n.tag = some tag) : ∃ lead, IsClear lead ∧ endsGap true lead = true ∧
      (n.scalarText true = lead ++ (tag.toList ++ ' ' :: Node.quote n.value.toList) ∨
        Node.quote n.value.toList = [] ∧ n.scalarText true = n.properties true) := by
  have hown : n.ownText = Node.quote n.value.toList := by rw [Node.ownText, h.1]
  obtain ⟨lead, hlead, hend, hproperties⟩ := exists_properties htag h.2.2
  refine ⟨lead, hlead, hend, ?_⟩
  rcases scalarText_cases n true with ⟨hempty, -⟩ | ⟨hempty, heq⟩ | heq
  · have hlength := h.isClear_properties.2
    rw [hempty] at hlength
    cases hlength
  · exact .inr ⟨hown ▸ hempty, heq⟩
  · refine .inl ?_
    rw [heq, hproperties, hown]
    simp

/-- A value with the tag of a reference is searched from the tag on. -/
theorem hasReference_scalarText_iff (h : n.IsReplaced) (htag : n.tag = some "!!var") :
    HasReference (n.scalarText true) ↔ HasReference (variableTag ++ Node.quote n.value.toList) := by
  have hvariable : IsClear variableTag := by
    unfold IsClear
    decide
  obtain ⟨lead, hlead, hend, heq | ⟨hempty, heq⟩⟩ := h.exists_scalarText htag
  · have htext : n.scalarText true = lead ++ (variableTag ++ Node.quote n.value.toList) := heq
    have htagged : Anchored (variableTag ++ Node.quote n.value.toList) :=
      hvariable.anchored_append (apart_of_gap (.inl rfl)) (.inl (by decide))
    rw [htext, hasReference_append (apart_of_gap (.inl hend)) htagged,
      or_iff_right hlead.not_hasReference]
  · rw [heq, hempty, List.append_nil]
    exact iff_of_false h.isClear_properties.1.not_hasReference hvariable.not_hasReference

/-- A reference as a whole value does not count, if it is written without quotes. -/
theorem hasReference_variable_iff (h : n.IsReplaced) (htag : n.tag = some "!!var")
    {rest : List Char} (hvalue : Node.quote n.value.toList = collectionWord ++ rest) :
    HasReference (n.scalarText true) ↔ HasReference rest := by
  rw [hasReference_scalarText_iff h htag, hvalue, ← List.append_assoc, hasReference_tagged]

/-- All references in a value with a replaced part count. -/
theorem hasReference_string_iff (h : n.IsReplaced) (htag : n.tag = some "!!str") :
    HasReference (n.scalarText true) ↔ HasReference (Node.quote n.value.toList) := by
  obtain ⟨lead, hlead, hend, heq | ⟨hempty, heq⟩⟩ := h.exists_scalarText htag
  · have htext : n.scalarText true = lead ++ stringTag ++ Node.quote n.value.toList := by
      rw [heq, List.append_assoc]
      rfl
    rw [htext, hasReference_string hlead]
  · rw [heq, hempty]
    exact iff_of_false h.isClear_properties.1.not_hasReference not_hasReference_nil

end

/-! ### Nodes after placeholders -/

/-- What is known of a node, if placeholders of some findings are in place: all of its texts are
clear, but for the text of a marked value and the comment that a description became. -/
structure Node.IsPlaced (p : Placeholders) (fs : List Finding) (id : Nat) (n : Node) : Prop where
  anchor : ∀ anchor ∈ n.anchor, IsClear anchor.toList
  text : (∃ f ∈ fs, f.target.value = id ∧ f.Writes p n) ∧ n.IsReplaced ∨
    (∀ tag ∈ n.tag, IsClear tag.toList) ∧ IsClear n.ownText
  head : (∃ f ∈ fs, f.target.key = id ∧ f.Describes n.headComment) ∨ IsClear n.headComment.toList
  trail : IsClear n.lineComment.toList
  foot : IsClear n.footComment.toList

/-- Every node of a manifest is as placeholders leave it. -/
def IsPlaced (p : Placeholders) (fs : List Finding) (m : Manifest) : Prop :=
  ∀ id n, m.node? id = some n → n.IsPlaced p fs id

section

variable {p : Placeholders} {fs : List Finding} {f : Finding} {m m' : Manifest}

theorem isPlaced_of_stored {n : Node} (h : n.Stored IsClear) (p : Placeholders)
    (fs : List Finding) (id : Nat) : n.IsPlaced p fs id := by
  refine ⟨fun anchor hanchor => ?_, .inr ⟨fun tag htag => ?_, ?_⟩, .inr h.head, h.trail, h.foot⟩
  · exact h.properties anchor (List.mem_append_left _ (by simpa using hanchor))
  · exact h.properties tag (List.mem_append_right _ (by simpa using htag))
  · unfold Node.ownText
    rcases h.text with ⟨hraw, hvalue⟩ | ⟨raw, hraw, hclear⟩
    · rw [hraw, hvalue]
      unfold IsClear
      decide
    · rw [hraw]
      exact hclear

/-- Other comments. -/
theorem Node.IsPlaced.withComments {n : Node} {id : Nat} (h : n.IsPlaced p fs id)
    {head line foot : String}
    (hhead : (∃ f ∈ fs, f.target.key = id ∧ f.Describes head) ∨ IsClear head.toList)
    (hline : IsClear line.toList) (hfoot : IsClear foot.toList) :
    { n with headComment := head, lineComment := line, footComment := foot }.IsPlaced p fs id :=
  ⟨h.anchor, h.text, hhead, hline, hfoot⟩

theorem IsPlaced.modify (h : m.IsPlaced p fs) {id : Nat} {g : Node → Node}
    (hg : ∀ n : Node, n.IsPlaced p fs id → (g n).IsPlaced p fs id) :
    (m.modify id g).IsPlaced p fs := by
  intro i n hn
  rw [node?_modify] at hn
  split at hn
  · next heq =>
    subst heq
    obtain ⟨n', hn', rfl⟩ := Option.map_eq_some_iff.1 hn
    exact hg n' (h id n' hn')
  · exact h i n hn

theorem isPlaced_clearComments (h : m.IsPlaced p fs) : (f.clearComments m).IsPlaced p fs := by
  have hempty : IsClear "".toList := isTextual_isClear.nil
  unfold Finding.clearComments
  refine (h.modify fun n hn => ?_).modify fun n hn => ?_
  · exact hn.withComments (.inr hempty) hempty hempty
  · exact hn.withComments hn.head hempty hn.foot

theorem isPlaced_describe {field : Field} (h : m.IsPlaced p fs) (hf : f ∈ fs)
    (hfield : f.marker.field? = some field) : (f.describe field m).IsPlaced p fs := by
  unfold Finding.describe
  split
  · next description hdescription =>
    have hdescribes : f.Describes (Finding.descriptionComment (Field.trimLineFeeds description)
        field.name) := ⟨field, hfield, description, hdescription, rfl⟩
    exact h.modify fun n hn =>
      hn.withComments (.inl ⟨f, hf, rfl, hdescribes⟩) hn.trail hn.foot
  · exact h

theorem tag_of_replacement {field : Field} {spec value text tag : String}
    (h : Finding.replacement field spec value = .ok (text, tag)) :
    tag = "!!var" ∨ tag = "!!str" := by
  unfold Finding.replacement at h
  split at h
  · cases h
    exact .inl rfl
  · split at h
    · cases h
    · cases h
      exact .inr rfl

theorem isPlaced_placeField {field : Field} {spec : String} (h : m.IsPlaced p fs) (hf : f ∈ fs)
    (hfield : f.marker.field? = some field) (hspec : Finding.specOf p f.marker = some spec) :
    (f.placeField field spec m).1.IsPlaced p fs := by
  have hhead := isPlaced_describe h hf hfield
  rw [(Finding.placeField_eq f field spec m).1]
  split
  · exact hhead
  · next text tag hreplacement =>
    have htag := tag_of_replacement hreplacement
    refine hhead.modify fun n hn => ⟨hn.anchor, .inl ⟨?_, rfl, ?_, hn.anchor⟩, hn.head, hn.trail,
      hn.foot⟩
    · exact ⟨f, hf, rfl, field, spec, _, tag, hfield, hspec, hreplacement, rfl⟩
    · rcases htag with rfl | rfl
      · exact .inl rfl
      · exact .inr rfl

theorem isPlaced_place (h : m.IsPlaced p fs) (hf : f ∈ fs) : (f.place p m).1.IsPlaced p fs := by
  have hclear : (f.clearComments m).IsPlaced p fs := isPlaced_clearComments h
  unfold Finding.place
  split
  · exact h
  · dsimp only
    split
    · next field spec hfield hspec => exact isPlaced_placeField hclear hf hfield hspec
    · exact hclear

/-- Placeholders leave nodes as they are known to. -/
theorem isPlaced_placeAll {gs : List Finding} (h : m.IsPlaced p fs) (hgs : gs ⊆ fs) :
    (Finding.placeAll p gs m).1.IsPlaced p fs := by
  induction gs generalizing m with
  | nil => exact h
  | cons f gs ih =>
    have hplace := isPlaced_place h (hgs List.mem_cons_self)
    unfold Finding.placeAll
    split
    · next heq => rwa [heq] at hplace
    · next m₁ f' heq =>
      rw [heq] at hplace
      have hrest := ih hplace fun g hg => hgs (List.mem_cons_of_mem f hg)
      split
      · next heq' => rwa [heq'] at hrest
      · next heq' => rwa [heq'] at hrest

end

/-! ### Pieces after placeholders -/

theorem infix_of_mem_commentParts {text : String} {comment : List Char}
    (h : comment ∈ commentParts text) : comment <:+: text.toList := by
  unfold commentParts at h
  split at h
  · cases h
  · exact Text.infix_of_mem_splitOn h

theorem infix_of_mem_presentComment {comment part : List Char} (h : part ∈ presentComment comment) :
    part <:+: comment := by
  unfold presentComment at h
  split at h
  · cases h
  · exact List.mem_singleton.1 h ▸ List.infix_rfl

section

variable {p : Placeholders} {fs : List Finding} {m : Manifest} {id : Nat} {n : Node}

/-- A node that is not the value of a field is clear. -/
theorem Node.IsPlaced.isClear_or (h : n.IsPlaced p fs id) (tags : Bool) :
    (∃ f ∈ fs, f.target.value = id ∧ f.Writes p n) ∧ n.IsReplaced ∨
      IsClear (n.properties tags) ∧ IsClear (n.scalarText tags) := by
  refine h.text.imp_right fun ⟨htag, hown⟩ => ?_
  have hproperties : ∀ property ∈ n.anchor.toList ++ n.tag.toList, IsClear property.toList := by
    intro property hmem
    rcases List.mem_append.1 hmem with hmem | hmem
    · exact h.anchor property (by simpa using hmem)
    · exact htag property (by simpa using hmem)
  exact ⟨isClear_properties hproperties, isClear_scalarText hproperties hown⟩

theorem Node.IsPlaced.anchored (h : n.IsPlaced p fs id) : Anchored (n.scalarText true) := by
  rcases h.isClear_or true with ⟨-, hreplaced⟩ | ⟨-, hclear⟩
  · exact hreplaced.anchored
  · exact hclear.anchored

theorem Node.IsPlaced.anchored_comment (h : n.IsPlaced p fs id) {comment : List Char}
    (hcomment : comment ∈ commentParts n.headComment) : Anchored comment := by
  rcases h.head with ⟨f, -, -, hdescribes⟩ | hclear
  · obtain ⟨rest, rfl⟩ := List.head?_eq_some_iff.1 (hdescribes.sign comment hcomment)
    have hsign : IsClear ['#'] := isClear_of_all (by decide)
    exact hsign.anchored_append (b := rest) (apart_of_gap (.inl (by decide))) (.inr (by simp))
  · exact (hclear.part (infix_of_mem_commentParts hcomment)).anchored

theorem isClear_text {cs lead : List Char} (hlead : ∀ c ∈ lead, isGap c = true) (h : IsClear cs) :
    IsClear (lead ++ cs) :=
  (isClear_append_iff (apart_of_gap (.inl (endsGap_of_forall hlead)))).2
    ⟨isClear_of_forall hlead, h⟩

/-- A comment line is searched without its indentation and its line feed. -/
theorem hasReference_line (slot : Slot) (indent : Nat) {comment : List Char}
    (h : Anchored comment) : Anchored (Piece.line slot indent comment).chars ∧
      (HasReference (Piece.line slot indent comment).chars ↔ HasReference comment) := by
  have hend : IsClear ['\n'] := isClear_of_all (by decide)
  have hapart : Apart comment ['\n'] := apart_of_gap (.inr rfl)
  have hspaces : ∀ c ∈ spaces indent, isGap c = true := isGap_of_mem_spaces
  have hline := hasReference_lead hspaces (h.append hapart hend.anchored)
  rw [hasReference_append hapart hend.anchored, or_iff_left hend.not_hasReference,
    ← List.append_assoc] at hline
  exact hline

/-- What the lemmas below rely on: placeholders are in place, and no key is the value of a field. -/
structure Ready (p : Placeholders) (fs : List Finding) (m : Manifest) : Prop where
  placed : m.IsPlaced p fs
  documents : ∀ root ∈ m.documents, IsClear root.comment.toList
  keys : ∀ k v, (k, v) ∈ m.pairs → ∀ f ∈ fs, f.target.value ≠ k
  scalar : ∀ f ∈ fs, f.marker.field?.isSome = true → ∀ n, m.node? f.target.value = some n →
    n.kind = .scalar

/-- A reference in a piece comes from a field. -/
theorem Ready.refers (h : Ready p fs m) {piece : Piece} (hpiece : piece.IsOf m) :
    Anchored piece.chars ∧ (HasReference piece.chars → ∃ f ∈ fs, f.Refers m) := by
  have hclear {piece : Piece} (hpiece : IsClear piece.chars) :
      Anchored piece.chars ∧ (HasReference piece.chars → ∃ f ∈ fs, f.Refers m) :=
    ⟨hpiece.anchored, fun href => absurd href hpiece.not_hasReference⟩
  have hline {slot : Slot} {indent : Nat} {comment : List Char} (hcomment : IsClear comment) :
      IsClear (Piece.line slot indent comment).chars :=
    (isClear_append_iff (apart_of_gap (.inr rfl))).2
      ⟨isClear_text isGap_of_mem_spaces hcomment, isClear_of_all (by decide)⟩
  -- only scalars and head comments can have been put in place of others
  cases hpiece with
  | gap hcs => exact hclear (isClear_of_forall hcs)
  | @scalar id n lead hn hkind hlead =>
    have hplaced := h.placed id n hn
    obtain ⟨hanchored, hiff⟩ := hasReference_lead hlead hplaced.anchored
    refine ⟨hanchored, fun href => ?_⟩
    rw [Piece.chars, hiff] at href
    rcases hplaced.isClear_or true with ⟨⟨f, hf, rfl, hwrites⟩, -⟩ | ⟨-, hclear⟩
    · exact ⟨f, hf, hwrites.isField, .inl ⟨n, hn, href⟩⟩
    · exact absurd href hclear.not_hasReference
  | @properties id n lead hn hkind hlead =>
    rcases (h.placed id n hn).isClear_or true with ⟨⟨f, hf, rfl, hwrites⟩, -⟩ | ⟨hproperties, -⟩
    · exact absurd (h.scalar f hf hwrites.isField n hn) hkind
    · exact hclear (isClear_text hlead hproperties)
  | @key k v key hpair hkey =>
    rcases (h.placed k key hkey).isClear_or false with ⟨⟨f, hf, hvalue, -⟩, -⟩ | ⟨-, htext⟩
    · exact absurd hvalue (h.keys k v hpair f hf)
    · exact hclear ((isClear_append_iff (apart_of_gap (.inr rfl))).2
        ⟨htext, isClear_of_all (by decide)⟩)
  | @head id indent n comment hn hcomment =>
    have hplaced := h.placed id n hn
    obtain ⟨hanchored, hiff⟩ :=
      hasReference_line (.head id) indent (hplaced.anchored_comment hcomment)
    refine ⟨hanchored, fun href => ?_⟩
    rw [hiff] at href
    rcases hplaced.head with ⟨f, hf, rfl, hdescribes⟩ | hclear
    · exact ⟨f, hf, hdescribes.isField, .inr ⟨n, hn, comment, hcomment, href⟩⟩
    · exact absurd href (hclear.part (infix_of_mem_commentParts hcomment)).not_hasReference
  | @foot id indent n comment hn hcomment =>
    exact hclear (hline ((h.placed id n hn).foot.part (infix_of_mem_commentParts hcomment)))
  | @trail id n comment hn hcomment =>
    have htrail := (h.placed id n hn).trail.part (infix_of_mem_presentComment hcomment)
    have hblank : ∀ c ∈ [' '], isGap c = true := List.all_eq_true.1 (by decide)
    exact hclear (isClear_text hblank htrail)
  | @document root index comment hroot hcomment =>
    exact hclear (hline ((h.documents root hroot).part (infix_of_mem_commentParts hcomment)))

/-- What refers to the collection is written. -/
theorem Ready.exists_piece (h : Ready p fs m) (hm : m.IsWritable) {f : Finding} (hf : f ∈ fs)
    (ht : f.target ∈ m.targets) (hvalue : ∃ n, m.node? f.target.value = some n)
    (hrefers : f.Refers m) : ∃ piece ∈ m.pieces, HasReference piece.chars := by
  obtain ⟨v, hv⟩ := hvalue
  obtain ⟨hfield, hrefers⟩ := hrefers
  have hshows := shows_pieces hm ht hv (h.scalar f hf hfield v hv)
  rcases hrefers with ⟨n, hn, href⟩ | ⟨n, hn, comment, hcomment, href⟩
  · obtain ⟨lead, hlead, hmem⟩ := hshows.value n hn (h.scalar f hf hfield n hn)
    exact ⟨_, hmem, (hasReference_lead hlead (h.placed _ n hn).anchored).2.2 href⟩
  · obtain ⟨indent, hmem⟩ := hshows.head n hn comment hcomment
    have hanchored := (h.placed _ n hn).anchored_comment hcomment
    exact ⟨_, hmem, (hasReference_line _ indent hanchored).2.2 href⟩

theorem Ready.hasReference_iff (h : Ready p fs m) (hm : m.IsWritable)
    (hfs : ∀ f ∈ fs, f.target ∈ m.targets ∧ ∃ n, m.node? f.target.value = some n) :
    HasReference m.text.toList ↔ ∃ f ∈ fs, f.Refers m := by
  have hsources := (composed_pieces m).sources
  rw [hasReference_text_iff fun piece hpiece => (h.refers (hsources piece hpiece)).1]
  constructor
  · rintro ⟨piece, hpiece, href⟩
    exact (h.refers (hsources piece hpiece)).2 href
  · rintro ⟨f, hf, hrefers⟩
    obtain ⟨ht, hvalue⟩ := hfs f hf
    exact h.exists_piece hm hf ht hvalue hrefers

end

section

variable {registry : Registry} {p : Placeholders} {text : String} {m m' : Manifest}
  {i i' : Inspection}

/-- Placeholders in a clear manifest lead to what the lemmas above rely on. -/
theorem ready_of_place (hparse : parse text = .ok m) (hinspect : m.inspect registry = .ok i)
    (hplace : i.place p m = (m', .ok i')) (htext : IsClear text.toList) :
    Ready p i.findings m' ∧ m'.IsWritable ∧
      ∀ f ∈ i.findings, f.target ∈ m'.targets ∧ ∃ n, m'.node? f.target.value = some n := by
  have htargets := target_mem_of_inspect hinspect
  obtain ⟨hstored, hdocuments⟩ := stored_of_parse isTextual_isClear hparse
    fun line hline => htext.part (Text.infix_of_mem_splitOn hline)
  have hall := Inspection.placeAll_of_place hplace
  have hkept : Nodewise (fun _ => Node.Kept) m m' := by
    have hkept := kept_placeAll p i.findings (kept_refl m)
    rwa [hall] at hkept
  have hplaced : m'.IsPlaced p i.findings := by
    have hplaced := isPlaced_placeAll (p := p) (m := m)
      (fun id n hn => isPlaced_of_stored (hstored id n hn) p i.findings id) (List.Subset.refl _)
    rwa [hall] at hplaced
  have hsame : m'.targets = m.targets :=
    targets_congr (fun _ _ _ hn => ⟨hn.kind, hn.content⟩) hkept.documents.symm hkept.size.symm
      hkept.node
  refine ⟨⟨hplaced, fun root hroot => hdocuments root (hkept.documents ▸ hroot),
    fun k v hpair f hf => ?_, fun f hf hfield n' hn' => ?_⟩,
    (isWritable_of_parse hparse).of_kept hkept, fun f hf => ⟨hsame ▸ htargets f hf, ?_⟩⟩
  · obtain ⟨id, n', hn', hkind, hpair⟩ := mem_pairs_iff.1 hpair
    obtain ⟨n, hn, hrel⟩ := hkept.exists_left hn'
    rw [hrel.kind] at hkind
    rw [hrel.content] at hpair
    have hpair := mem_targets_of_mem_pairs hparse (mem_pairs_iff.2 ⟨id, n, hn, hkind, hpair⟩)
    exact key_ne_value_of_parse hparse hpair (htargets f hf)
  · obtain ⟨n, hn, hrel⟩ := hkept.exists_left hn'
    exact hrel.kind.trans (scalar_of_placeAll (kept_refl m) hall f hf hfield n hn)
  · have hmem : f.target.value ∈ f.target.nodes := by
      cases f.target <;> simp [Target.nodes, Target.value]
    obtain ⟨n, hn⟩ := exists_node_of_mem_targets hparse (htargets f hf) hmem
    obtain ⟨n', hn', -⟩ := hkept.exists_right hn
    exact ⟨n', hn'⟩

/-! ### Fields that take the place of whole values -/

/-- An expression that is written without quotes brings in no reference, if the name of the field is
clear. -/
theorem not_hasReference_reference {field : Field} {spec : String}
    (hspec : spec = "parent.Spec" ∨ spec = "collection.Spec")
    (hname : IsClear (Text.title field.name).toList)
    (hplain : Node.quote (field.reference spec).toList = (field.reference spec).toList) :
    ¬ HasReference (variableTag ++ Node.quote (field.reference spec).toList) := by
  have hreference : (field.reference spec).toList =
      spec.toList ++ '.' :: (Text.title field.name).toList := by simp [Field.reference]
  rw [hplain, hreference]
  -- no reference begins in the words before the name
  rcases hspec with rfl | rfl
  · refine IsClear.not_hasReference fun hinside => hname ?_
    simpa [variableTag, collectionReference, collectionWord, List.infix_cons_iff] using hinside
  · have htext (cs : List Char) : variableTag ++ ("collection.Spec".toList ++ '.' :: cs) =
        variableTag ++ collectionWord ++ (".Spec.".toList ++ cs) := rfl
    rw [htext, hasReference_tagged]
    refine IsClear.not_hasReference fun hinside => hname ?_
    simpa [collectionReference, collectionWord, List.infix_cons_iff] using hinside

/-- No value and no comment has a reference where all fields take the place of whole values. -/
theorem Ready.not_refers (h : Ready p i.findings m') (hwhole : ∀ f ∈ i.findings, f.IsWhole p)
    {f : Finding} : ¬ f.Refers m' := by
  rintro ⟨-, ⟨n, hn, href⟩ | ⟨n, hn, comment, hcomment, href⟩⟩
  · -- the value need not be that of `f`: another finding may have the same target
    rcases (h.placed _ n hn).isClear_or true with ⟨⟨g, hg, -, hwrites⟩, hreplaced⟩ | ⟨-, hclear⟩
    · obtain ⟨field, spec, value, tag, hfield, hspec, hreplacement, htag⟩ := hwrites
      obtain ⟨hpattern, -, hexpression⟩ := hwhole g hg field spec hfield hspec
      rw [Finding.replacement, hpattern] at hreplacement
      simp only [Except.ok.injEq, Prod.mk.injEq] at hreplacement
      obtain ⟨hvalue, rfl⟩ := hreplacement
      rw [hasReference_scalarText_iff hreplaced htag, ← hvalue] at href
      exact hexpression href
    · exact hclear.not_hasReference href
  · have hcommentClear : IsClear n.headComment.toList := by
      rcases (h.placed _ n hn).head with ⟨g, hg, -, field, hfield, description, hmem, heq⟩ | hclear
      · obtain ⟨spec, hspec⟩ := Finding.exists_specOf p hfield
        rw [heq]
        exact (hwhole g hg field spec hfield hspec).2.1 description hmem
      · exact hclear
    exact (hcommentClear.part (infix_of_mem_commentParts hcomment)).not_hasReference href

/-! ### References that are left -/

/-- An inspection and the manifest after its placeholders, if everything before it succeeds. -/
def placed? (registry : Registry) (p : Placeholders) (text : String) :
    Option (Inspection × Manifest) :=
  (parse text).toOption.bind fun m => (m.inspect registry).toOption.bind fun i =>
    match i.place p m with
    | (m', .ok _) => some (i, m')
    | _ => none

theorem exists_of_placed? (h : placed? registry p text = some (i, m')) :
    ∃ m i', parse text = .ok m ∧ m.inspect registry = .ok i ∧ i.place p m = (m', .ok i') := by
  obtain ⟨m, hm, h⟩ := Option.bind_eq_some_iff.1 h
  obtain ⟨i, hi, h⟩ := Option.bind_eq_some_iff.1 h
  split at h
  · next i' hplace =>
    cases h
    exact ⟨m, i', eq_ok_of_toOption hm, eq_ok_of_toOption hi, hplace⟩
  · cases h

/-- A reference to the collection is left exactly where the value that a field marks, or the comment
above it, has one that is not behind the tag. So none is left where all fields take the place of
whole values. -/
theorem reference_left_iff (hparse : parse text = .ok m) (hinspect : m.inspect registry = .ok i)
    (hplace : i.place p m = (m', .ok i')) (htext : ¬ collectionReference <:+: text.toList) :
    (collectionReference <:+: (collectionToParent m'.text).toList ↔
      ∃ f ∈ i.findings, f.Refers m') ∧
    ((∀ f ∈ i.findings, f.IsWhole p) →
      ¬ collectionReference <:+: (collectionToParent m'.text).toList) := by
  obtain ⟨hready, hwritable, hfindings⟩ := ready_of_place hparse hinspect hplace htext
  rw [isInfix_collectionToParent_iff, hready.hasReference_iff hwritable hfindings]
  refine ⟨Iff.rfl, fun hwhole => ?_⟩
  rintro ⟨f, -, hrefers⟩
  exact hready.not_refers hwhole hrefers

end

/-- The manifest has the reference to the collection, and it is rewritten. -/
theorem reference_left_iff_variable : ∃ m i m' i',
    parse "a: b # +operator-builder:collection:field:name=x,type=string\n" = .ok m ∧
    m.inspect operatorRegistry = .ok i ∧ i.place {} m = (m', .ok i') ∧
    i.findings.length = 1 ∧ (∀ f ∈ i.findings, f.IsWhole {}) ∧
    collectionReference <:+: m'.text.toList ∧
    ¬ collectionReference <:+: (collectionToParent m'.text).toList ∧
    ∀ f ∈ i.findings, ¬ f.Refers m' := by
  have h : (placed? operatorRegistry {}
      "a: b # +operator-builder:collection:field:name=x,type=string\n").map
      (fun placed => (placed.1.findings.map fun f => [Finding.specOf {} f.marker,
          f.marker.field?.map (·.name), f.marker.field?.bind (·.description),
          f.marker.field?.bind (·.replace)], placed.2.text)) =
      some ([[some "collection.Spec", some "x", none, none]], "a: !!var collection.Spec.X\n") := by
    rw [placed?, parse_eq_ite, String.toList_ofList]
    decide +kernel
  obtain ⟨⟨i, m'⟩, hplaced, h⟩ := Option.map_eq_some_iff.1 h
  obtain ⟨m, i', hm, hi, hplace⟩ := exists_of_placed? hplaced
  obtain ⟨hfindings, htext⟩ := Prod.mk.inj h
  have hlength : i.findings.length = 1 := by simpa using congrArg List.length hfindings
  have hwhole : ∀ f ∈ i.findings, f.IsWhole {} := by
    intro f hf field spec hfield hspec
    have hmem := hfindings ▸ List.mem_map_of_mem hf
    simp only [hfield, hspec, List.mem_singleton, Option.map_some, Option.bind_some,
      List.cons.injEq, Option.some.injEq, and_true] at hmem
    obtain ⟨rfl, hname, hdescription, hreplace⟩ := hmem
    refine ⟨hreplace, by simp [hdescription], not_hasReference_reference (.inr rfl) ?_ ?_⟩
    · rw [hname]
      unfold IsClear
      decide
    · rw [Field.reference, hname]
      decide
  obtain ⟨hleft, hnone⟩ := reference_left_iff hm hi hplace (by
    rw [String.toList_ofList]
    decide)
  refine ⟨m, i, m', i', hm, hi, hplace, hlength, hwhole, ?_, hnone hwhole, fun f hf hrefers => ?_⟩
  · rw [htext, String.toList_ofList]
    decide
  · exact hnone hwhole (hleft.2 ⟨f, hf, hrefers⟩)

/-- With a pattern, the reference is in a value with the tag `!!str` and is left. -/
theorem reference_left_of_splice : ∃ m i m' i',
    parse "a: b # +operator-builder:collection:field:name=x,type=string,replace=\"b\"\n" = .ok m ∧
    ¬ "collection.Spec".toList <:+:
      "a: b # +operator-builder:collection:field:name=x,type=string,replace=\"b\"\n".toList ∧
    m.inspect operatorRegistry = .ok i ∧ i.place {} m = (m', .ok i') ∧
    "collection.Spec.".toList <:+: (collectionToParent m'.text).toList := by
  have h : (placed? operatorRegistry {}
      "a: b # +operator-builder:collection:field:name=x,type=string,replace=\"b\"\n").map
      (fun placed => placed.2.text) =
        some "a: !!str '!!start collection.Spec.X !!end'\n" := by
    rw [placed?, parse_eq_ite, String.toList_ofList]
    decide +kernel
  obtain ⟨⟨i, m'⟩, hplaced, htext⟩ := Option.map_eq_some_iff.1 h
  obtain ⟨m, i', hm, hi, hplace⟩ := exists_of_placed? hplaced
  refine ⟨m, i, m', i', hm, ?_, hi, hplace, ?_⟩
  · rw [String.toList_ofList, String.toList_ofList]
    decide +kernel
  · rw [htext]
    decide

end Manifest

end ManifestMarkers
