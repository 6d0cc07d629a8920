import Mathlib.Algebra.Group.Nat.Even
import ManifestMarkers.Proofs.ManifestRuns

/-!
# The shape of a manifest

Which nodes a collection may hold and where they stand. A collection is open while its content is
read, and the readers go down into it before it has any; so the invariant speaks of all nodes at
once and names those that may still be empty.

* `Form` is what the shape of a node is about, and `Form.Holds` says which content it may have.
* `Shaped` is the invariant, kept by every task (`shapes_of_reads`) and so by every document
  (`shaped_of_readsDocument`).
-/

namespace ManifestMarkers.Manifest

/-! ### Forms of nodes -/

/-- What the shape of a node is about. -/
structure Form where
  kind : NodeKind
  line : Nat
  column : Nat
  content : List Nat := []

/-- The form of a node. -/
def Node.form (n : Node) : Form := ⟨n.kind, n.line, n.column, n.content⟩

namespace Form

/-- A key is a scalar at the column of its mapping. -/
def IsKeyOf (f parent : Form) : Prop := f.kind = .scalar ∧ f.column = parent.column

/-- A value is a scalar, or it stands to the right of its mapping; a sequence may also stand right
below its key. -/
def IsValueOf (f parent : Form) : Prop :=
  f.kind = .scalar ∨ parent.column < f.column ∨ f.kind = .sequence ∧ f.column = parent.column

/-- An item is a scalar, or it stands to the right of its sequence. -/
def IsItemOf (f parent : Form) : Prop := f.kind = .scalar ∨ parent.column < f.column

/-- The content of a node is what its kind allows. -/
def Holds (forms : Array Form) (f : Form) : Prop :=
  match f.kind with
  | .mapping => Even f.content.length ∧ ∀ k v, (k, v) ∈ pairsOf f.content →
    (∃ key, forms[k]? = some key ∧ key.IsKeyOf f) ∧
      ∃ value, forms[v]? = some value ∧ value.IsValueOf f
  | .sequence => ∀ i ∈ f.content, ∃ item, forms[i]? = some item ∧ item.IsItemOf f
  | .scalar => f.content = []

/-- The form with more content. -/
def take (f : Form) (ids : List Nat) : Form := { f with content := f.content ++ ids }

end Form

/-- Nodes keep their kind and column. -/
def Keeps (forms forms' : Array Form) : Prop :=
  ∀ (i : Nat) (f : Form), forms[i]? = some f →
    ∃ f', forms'[i]? = some f' ∧ f'.kind = f.kind ∧ f'.column = f.column

/-- All nodes hold what they may, and of the collections only those that are open are empty. -/
def Shaped (isOpen : Nat → Prop) (forms : Array Form) : Prop :=
  ∀ (i : Nat) (f : Form), forms[i]? = some f →
    f.Holds forms ∧ (f.kind ≠ .scalar → f.content = [] → isOpen i)

section

variable {forms middle forms' : Array Form} {f : Form} {id : Nat} {ids : List Nat}
  {isOpen isOpen' : Nat → Prop}

theorem Keeps.refl (forms : Array Form) : Keeps forms forms := fun _ f h => ⟨f, h, rfl, rfl⟩

theorem Keeps.trans (h : Keeps forms middle) (h' : Keeps middle forms') : Keeps forms forms' := by
  intro i f hf
  obtain ⟨g, hg, hkind, hcolumn⟩ := h i f hf
  obtain ⟨g', hg', hkind', hcolumn'⟩ := h' i g hg
  exact ⟨g', hg', hkind'.trans hkind, hcolumn'.trans hcolumn⟩

theorem keeps_push (forms : Array Form) (f : Form) : Keeps forms (forms.push f) := by
  intro i g hg
  have hi : i < forms.size := (Array.getElem?_eq_some_iff.1 hg).1
  refine ⟨g, ?_, rfl, rfl⟩
  rw [Array.getElem?_push, if_neg (by omega), hg]

theorem keeps_take (forms : Array Form) (id : Nat) (ids : List Nat) :
    Keeps forms (forms.modify id (Form.take · ids)) := by
  intro i g hg
  by_cases hi : id = i
  · refine ⟨g.take ids, ?_, rfl, rfl⟩
    rw [Array.getElem?_modify, if_pos hi, hg]
    rfl
  · refine ⟨g, ?_, rfl, rfl⟩
    rw [Array.getElem?_modify, if_neg hi, hg]

/-- What a node may hold depends on the kinds and columns of its content only. -/
theorem Form.Holds.mono (h : f.Holds forms) (hkeeps : Keeps forms forms') : f.Holds forms' := by
  obtain ⟨kind, line, column, content⟩ := f
  cases kind with
  | mapping =>
    refine ⟨h.1, fun k v hpair => ?_⟩
    obtain ⟨⟨key, hk, hkey⟩, value, hv, hvalue⟩ := h.2 k v hpair
    obtain ⟨key', hk', hkind, hcolumn⟩ := hkeeps k key hk
    obtain ⟨value', hv', hkind', hcolumn'⟩ := hkeeps v value hv
    refine ⟨⟨key', hk', ?_⟩, value', hv', ?_⟩
    · unfold IsKeyOf at hkey ⊢
      rwa [hkind, hcolumn]
    · unfold IsValueOf at hvalue ⊢
      rwa [hkind', hcolumn']
  | sequence =>
    intro i hi
    obtain ⟨item, hitem, hof⟩ := h i hi
    obtain ⟨item', hitem', hkind, hcolumn⟩ := hkeeps i item hitem
    refine ⟨item', hitem', ?_⟩
    unfold IsItemOf at hof ⊢
    rwa [hkind, hcolumn]
  | scalar => exact h

theorem Form.holds_of_content (hf : f.content = []) : f.Holds forms := by
  obtain ⟨kind, line, column, content⟩ := f
  obtain rfl : content = [] := hf
  cases kind with
  | mapping => exact ⟨by simp, by simp [pairsOf]⟩
  | sequence => simp [Holds]
  | scalar => rfl

/-- A new node has no content; if it is a collection, it is open. -/
theorem shaped_push (h : Shaped isOpen forms) (hf : f.content = [])
    (hopen : ∀ i, isOpen i → isOpen' i) (hnew : f.kind ≠ .scalar → isOpen' forms.size) :
    Shaped isOpen' (forms.push f) := by
  intro i g hg
  rw [Array.getElem?_push] at hg
  split at hg
  · next hi =>
    cases hg
    exact ⟨Form.holds_of_content hf, fun hkind _ => hi ▸ hnew hkind⟩
  · obtain ⟨hholds, hempty⟩ := h i g hg
    exact ⟨hholds.mono (keeps_push forms f), fun hkind hnil => hopen i (hempty hkind hnil)⟩

theorem shaped_push_scalar (h : Shaped isOpen forms) (hkind : f.kind = .scalar)
    (hf : f.content = []) : Shaped isOpen (forms.push f) :=
  shaped_push h hf (fun _ ho => ho) fun hne => absurd hkind hne

/-- A collection that takes in nodes is no longer empty. -/
theorem shaped_take (h : Shaped isOpen forms) (hf : forms[id]? = some f)
    (hholds : (f.take ids).Holds forms) (hids : ids ≠ [])
    (hopen : ∀ i, isOpen i → i = id ∨ isOpen' i) :
    Shaped isOpen' (forms.modify id (Form.take · ids)) := by
  have hkeeps := keeps_take forms id ids
  intro i g hg
  rw [Array.getElem?_modify] at hg
  split at hg
  · next hi =>
    subst hi
    rw [hf] at hg
    cases hg
    refine ⟨hholds.mono hkeeps, fun _ hnil => ?_⟩
    exact absurd (List.append_eq_nil_iff.1 hnil).2 hids
  · next hi =>
    obtain ⟨hg', hempty⟩ := h i g hg
    refine ⟨hg'.mono hkeeps, fun hkind hnil => ?_⟩
    rcases hopen i (hempty hkind hnil) with rfl | ho
    · exact absurd rfl hi
    · exact ho

theorem pairsOf_append {a : List Nat} (ha : Even a.length) (b : List Nat) :
    pairsOf (a ++ b) = pairsOf a ++ pairsOf b := by
  fun_induction pairsOf a with
  | case1 k v rest ih =>
    have hrest : Even rest.length := by
      simpa [Nat.even_add_one] using ha
    simp [pairsOf, ih hrest]
  | case2 a ha' =>
    match a with
    | [] => rfl
    | [k] => simp at ha
    | k :: v :: rest => exact absurd rfl (ha' k v rest)

/-- A mapping takes in a key and its value. -/
theorem Form.holds_take_pair {key value : Form} {k v : Nat} (h : f.Holds forms)
    (hkind : f.kind = .mapping) (hk : forms[k]? = some key) (hkey : key.IsKeyOf f)
    (hv : forms[v]? = some value) (hvalue : value.IsValueOf f) : (f.take [k, v]).Holds forms := by
  obtain ⟨kind, line, column, content⟩ := f
  obtain rfl : kind = .mapping := hkind
  obtain ⟨heven, hpairs⟩ : Even content.length ∧ _ := h
  constructor
  · simpa [take, Nat.even_add_one] using heven
  · intro k' v' hpair
    rw [take, pairsOf_append heven, List.mem_append] at hpair
    rcases hpair with hpair | hpair
    · exact hpairs k' v' hpair
    · obtain ⟨rfl, rfl⟩ : k' = k ∧ v' = v := by simpa [pairsOf] using hpair
      exact ⟨⟨key, hk, hkey⟩, value, hv, hvalue⟩

/-- A sequence takes in an item. -/
theorem Form.holds_take_item {item : Form} (h : f.Holds forms) (hkind : f.kind = .sequence)
    (hi : forms[id]? = some item) (hitem : item.IsItemOf f) : (f.take [id]).Holds forms := by
  obtain ⟨kind, line, column, content⟩ := f
  obtain rfl : kind = .sequence := hkind
  intro i hmem
  rcases List.mem_append.1 hmem with hmem | hmem
  · exact h i hmem
  · obtain rfl := List.mem_singleton.1 hmem
    exact ⟨item, hi, hitem⟩

end

/-! ### Forms in the builder -/

namespace Build

/-- The forms of all nodes. -/
def forms (b : Build) : Array Form := b.nodes.map Node.form

@[simp] theorem size_forms (b : Build) : b.forms.size = b.nodes.size := by simp [forms]

@[simp] theorem forms_toContent (b : Build) : b.toContent.forms = b.forms := rfl

@[simp] theorem forms_dropLine (b : Build) : b.dropLine.forms = b.forms := rfl

@[simp] theorem forms_clearPending (b : Build) : b.clearPending.forms = b.forms := rfl

@[simp] theorem forms_behindDash (b : Build) (line : Line) (lines : List Line) (indent : Nat) :
    (b.behindDash line lines indent).forms = b.forms := rfl

@[simp] theorem forms_push (b : Build) (n : Node) : (b.push n).2.forms = b.forms.push n.form := by
  simp [push, forms]

@[simp] theorem forms_addKey (b : Build) (line : Line) (indent : Nat) (text value : List Char) :
    (b.addKey line indent text value).forms =
      b.forms.push ⟨.scalar, line.number, indent + 1, []⟩ := by
  rw [addKey, forms_push]
  rfl

@[simp] theorem forms_addScalar (b : Build) (n : Node) (lines : List Line) :
    (b.addScalar n lines).forms = b.forms.push n.form := by
  rw [addScalar, forms_push]
  rfl

@[simp] theorem forms_addScalarLine (b : Build) (n : Node) (lines : List Line) :
    (b.addScalarLine n lines).forms = b.forms.push n.form := by
  rw [addScalarLine, forms_push]
  rfl

theorem forms_modify {f : Node → Node} {g : Form → Form} (hf : ∀ n, (f n).form = g n.form)
    (b : Build) (id : Nat) : (b.modify id f).forms = b.forms.modify id g :=
  map_modify hf b.nodes id

/-- A change that keeps the form of the node keeps the forms of all nodes. -/
theorem forms_modify_eq {f : Node → Node} (hf : ∀ n, (f n).form = n.form) (b : Build) (id : Nat) :
    (b.modify id f).forms = b.forms := map_modify_eq hf b.nodes id

@[simp] theorem forms_setTrail (b : Build) (id : Nat) (line : Line) (v : InlineValue) :
    (b.setTrail id line v).forms = b.forms := forms_modify_eq (by intro; rfl) b id

@[simp] theorem forms_setProperties (b : Build) (id : Nat) (v : InlineValue) :
    (b.setProperties id v).forms = b.forms := forms_modify_eq (by intro; rfl) b id

@[simp] theorem forms_setItem (b before : Build) (id : Nat) (line : Line) (v : InlineValue) :
    (b.setItem before id line v).forms = b.forms := by
  rw [setItem, forms_modify_eq (by intro; rfl), forms_setProperties]

@[simp] theorem forms_withFoot (b : Build) (last : Option Nat) (indent : Nat) :
    (b.withFoot last indent).forms = b.forms := by
  cases last with
  | none => rfl
  | some id =>
    show (b.attachFoot id indent).forms = b.forms
    unfold attachFoot
    dsimp only
    split
    · rfl
    · rw [forms_modify_eq (by intro; rfl)]
      rfl

@[simp] theorem forms_addContent (b : Build) (id : Nat) (ids : List Nat) :
    (b.addContent id ids).forms = b.forms.modify id (Form.take · ids) :=
  forms_modify (by intro; rfl) b id

end Build

theorem form_of_scalarNode {v : InlineValue} {line : Line} {parent column : Nat}
    {lines rest : List Line} {n : Node}
    (h : scalarNode v line parent column lines = .ok (n, rest)) :
    n.form = ⟨.scalar, line.number, column, []⟩ := by
  obtain ⟨value, raw, closing, rfl, -⟩ := exists_of_scalarNode h
  rfl

/-! ### Tasks keep the shape -/

/-- The current line is content at an indentation, with a text of some sort. -/
def Build.IsAt (b : Build) (indent : Nat) (sort : List Char → Prop) : Prop :=
  ∃ line lines, b.lines = line :: lines ∧ line.kind = .content ∧ line.indent = indent ∧
    sort line.text

theorem Build.IsAt.toContent_eq {b : Build} {indent : Nat} {sort : List Char → Prop}
    (h : b.IsAt indent sort) : b.toContent = b := by
  obtain ⟨line, lines, hlines, hkind, -⟩ := h
  simp only [toContent, hlines, collect_content hkind]
  rw [← hlines]

/-- Behind comments and blank lines there is content. -/
theorem Build.isAt_toContent {b : Build} {line : Line} {lines : List Line}
    (h : b.toContent.lines = line :: lines) : b.toContent.IsAt line.indent fun _ => True :=
  ⟨line, lines, h, kind_of_collect (Prod.ext rfl h), rfl, trivial⟩

namespace Task

/-- What has to be there before a task is done. A collection without content stands at its first
pair or item. -/
def Ready (b : Build) : Task → Prop
  | .node indent => b.IsAt indent fun _ => True
  | .pairs mapping indent last =>
    (∃ f, b.forms[mapping]? = some f ∧ f.kind = .mapping ∧ f.column = indent + 1) ∧
      (last = none → b.IsAt indent fun text => (splitKey? text).isSome = true)
  | .items sequence indent last =>
    (∃ f, b.forms[sequence]? = some f ∧ f.kind = .sequence ∧ f.column = indent + 1) ∧
      (last = none → b.IsAt indent fun text => isItem text = true)
  | .nested _ _ _ _ => True

/-- The collection that a task has to fill. -/
def Fills (i : Nat) : Task → Prop
  | .pairs mapping _ none => i = mapping
  | .items sequence _ none => i = sequence
  | _ => False

/-- Where the node that a task gives stands, unless it is a scalar. -/
def Gives (b : Build) (f : Form) : Task → Prop
  | .node indent => f.column = indent + 1 ∧
    (b.IsAt indent (fun text => isItem text = true) → f.kind = .sequence)
  | .nested indent allowSequence _ _ => indent + 1 < f.column ∨
    allowSequence = true ∧ f.kind = .sequence ∧ f.column = indent + 1
  | _ => True

end Task

/-- A line with a key is no item. -/
theorem isItem_eq_false_of_isSome {text : List Char} (h : (splitKey? text).isSome = true) :
    isItem text = false := by
  cases hitem : isItem text with
  | false => rfl
  | true => simp [splitKey?, hitem] at h

/-- What a task does to the shape: nodes stay where they are, all but those in `isOpen` are filled,
and the node `id` that it gives is a scalar or stands where it should. -/
structure Shapes (task : Task) (isOpen : Nat → Prop) (b : Build) (id : Nat) (b' : Build) :
    Prop where
  keeps : Keeps b.forms b'.forms
  shaped : Shaped isOpen b'.forms
  gives : ∃ f, b'.forms[id]? = some f ∧ (f.kind = .scalar ∨ task.Gives b f)

section

variable {isOpen : Nat → Prop} {b c b' : Build} {last : Option Nat} {indent : Nat} {line : Line}
  {lines : List Line}

theorem Build.getElem?_forms_push (b : Build) (n : Node) :
    (b.push n).2.forms[b.nodes.size]? = some n.form := by
  rw [forms_push, ← size_forms, Array.getElem?_push_size]

/-- The first node of a collection is the collection itself, which `task` fills. -/
theorem shapes_collection {task : Task} {kind : NodeKind} {id : Nat}
    (h : Shaped (fun i => isOpen i ∨ task.Fills i)
        (b.push (emptyCollection kind line indent)).2.forms →
      Shapes task isOpen (b.push (emptyCollection kind line indent)).2 id b')
    (hfills : task.Fills b.nodes.size)
    (hshaped : Shaped (fun i => isOpen i ∨ (Task.node indent).Fills i) b.forms)
    (hkind : b.IsAt indent (fun text => isItem text = true) → kind = .sequence) :
    Shapes (.node indent) isOpen b b.nodes.size b' := by
  have hpush := b.getElem?_forms_push (emptyCollection kind line indent)
  have hnew : Shaped (fun i => isOpen i ∨ task.Fills i)
      (b.push (emptyCollection kind line indent)).2.forms := by
    rw [Build.forms_push]
    refine shaped_push hshaped rfl (fun i hi => .inl (hi.resolve_right nofun)) fun _ => .inr ?_
    rwa [Build.size_forms]
  obtain ⟨hkeeps, hshaped', -⟩ := h hnew
  obtain ⟨f, hf, hfkind, hfcolumn⟩ := hkeeps _ _ hpush
  rw [Build.forms_push] at hkeeps
  refine ⟨(keeps_push _ _).trans hkeeps, hshaped', f, hf, .inr ⟨hfcolumn, fun hat => ?_⟩⟩
  rw [hfkind]
  exact hkind hat

/-- A new scalar. -/
theorem shapes_scalar {task : Task} {n : Node} (hkind : n.kind = .scalar)
    (hcontent : n.content = []) (hforms : b'.forms = b.forms.push n.form)
    (hshaped : Shaped isOpen b.forms) :
    Shapes task isOpen b b.nodes.size b' := by
  refine ⟨hforms ▸ keeps_push _ _, ?_, n.form, ?_, .inl hkind⟩
  · rw [hforms]
    exact shaped_push_scalar hshaped hkind hcontent
  · rw [hforms, ← Build.size_forms, Array.getElem?_push_size]

/-- The end of a collection: it has content already, because it stood at its first member before. -/
theorem shapes_end {task : Task} {id : Nat} {f : Form} (hf : b.forms[id]? = some f)
    (hgives : task.Gives b f) (hfills : ∀ i, ¬ task.Fills i)
    (hshaped : Shaped (fun i => isOpen i ∨ task.Fills i) b.forms) :
    Shapes task isOpen b id (b.toContent.withFoot last indent) := by
  refine ⟨by simpa using Keeps.refl b.forms, ?_, f, by simpa using hf, .inr hgives⟩
  rw [Build.forms_withFoot, Build.forms_toContent]
  intro i g hg
  obtain ⟨hholds, hempty⟩ := hshaped i g hg
  exact ⟨hholds, fun hkind hnil => (hempty hkind hnil).resolve_right (hfills i)⟩

/-- A mapping takes in a pair and goes on. -/
theorem shapes_pair {mapping k v : Nat} {f key value : Form}
    (h : (Task.pairs mapping indent (some k)).Ready (c.addContent mapping [k, v]) →
      Shaped (fun i => isOpen i ∨ (Task.pairs mapping indent (some k)).Fills i)
        (c.addContent mapping [k, v]).forms →
      Shapes (.pairs mapping indent (some k)) isOpen (c.addContent mapping [k, v]) mapping b')
    (hkeeps : Keeps b.forms c.forms)
    (hshaped : Shaped (fun i => isOpen i ∨ (Task.pairs mapping indent last).Fills i) c.forms)
    (hf : b.forms[mapping]? = some f ∧ f.kind = .mapping ∧ f.column = indent + 1)
    (hk : c.forms[k]? = some key ∧ key.kind = .scalar ∧ key.column = indent + 1)
    (hv : c.forms[v]? = some value ∧ (value.kind = .scalar ∨ indent + 1 < value.column ∨
      value.kind = .sequence ∧ value.column = indent + 1)) :
    Shapes (.pairs mapping indent last) isOpen b mapping b' := by
  obtain ⟨hf, hkind, hcolumn⟩ := hf
  obtain ⟨g, hg, hgkind, hgcolumn⟩ := hkeeps mapping f hf
  rw [hkind] at hgkind
  rw [hcolumn] at hgcolumn
  have htake := keeps_take c.forms mapping [k, v]
  rw [← Build.forms_addContent] at htake
  obtain ⟨g', hg', hgkind', hgcolumn'⟩ := htake mapping g hg
  have hholds : (g.take [k, v]).Holds c.forms := by
    refine Form.holds_take_pair (hshaped mapping g hg).1 hgkind hk.1 ?_ hv.1 ?_
    · exact ⟨hk.2.1, by rw [hk.2.2, hgcolumn]⟩
    · unfold Form.IsValueOf
      rw [hgcolumn]
      exact hv.2
  obtain ⟨hkeeps', hshaped', e, he, -⟩ := h
    ⟨⟨g', hg', by rw [hgkind', hgkind], by rw [hgcolumn', hgcolumn]⟩, nofun⟩ (by
      rw [Build.forms_addContent]
      refine shaped_take hshaped hg hholds (by simp) fun i hi => ?_
      rcases hi with hi | hi
      · exact .inr (.inl hi)
      · cases last with
        | none => exact .inl hi
        | some last => exact hi.elim)
  exact ⟨(hkeeps.trans htake).trans hkeeps', hshaped', e, he, .inr trivial⟩

/-- A sequence takes in an item and goes on. -/
theorem shapes_item {sequence id : Nat} {f item : Form}
    (h : (Task.items sequence indent (some id)).Ready (c.addContent sequence [id]) →
      Shaped (fun i => isOpen i ∨ (Task.items sequence indent (some id)).Fills i)
        (c.addContent sequence [id]).forms →
      Shapes (.items sequence indent (some id)) isOpen (c.addContent sequence [id]) sequence b')
    (hkeeps : Keeps b.forms c.forms)
    (hshaped : Shaped (fun i => isOpen i ∨ (Task.items sequence indent last).Fills i) c.forms)
    (hf : b.forms[sequence]? = some f ∧ f.kind = .sequence ∧ f.column = indent + 1)
    (hitem : c.forms[id]? = some item ∧ (item.kind = .scalar ∨ indent + 1 < item.column)) :
    Shapes (.items sequence indent last) isOpen b sequence b' := by
  obtain ⟨hf, hkind, hcolumn⟩ := hf
  obtain ⟨g, hg, hgkind, hgcolumn⟩ := hkeeps sequence f hf
  rw [hkind] at hgkind
  rw [hcolumn] at hgcolumn
  have htake := keeps_take c.forms sequence [id]
  rw [← Build.forms_addContent] at htake
  obtain ⟨g', hg', hgkind', hgcolumn'⟩ := htake sequence g hg
  have hholds : (g.take [id]).Holds c.forms := by
    refine Form.holds_take_item (hshaped sequence g hg).1 hgkind hitem.1 ?_
    unfold Form.IsItemOf
    rw [hgcolumn]
    exact hitem.2
  obtain ⟨hkeeps', hshaped', e, he, -⟩ := h
    ⟨⟨g', hg', by rw [hgkind', hgkind], by rw [hgcolumn', hgcolumn]⟩, nofun⟩ (by
      rw [Build.forms_addContent]
      refine shaped_take hshaped hg hholds (by simp) fun i hi => ?_
      rcases hi with hi | hi
      · exact .inr (.inl hi)
      · cases last with
        | none => exact .inl hi
        | some last => exact hi.elim)
  exact ⟨(hkeeps.trans htake).trans hkeeps', hshaped', e, he, .inr trivial⟩

theorem indent_lt_dashIndent (line : Line) (indent : Nat) : indent < dashIndent line indent := by
  have hsplit : line.text.drop 1 = (line.text.drop 1).takeWhile Text.isBlank ++
      Text.trimStart (line.text.drop 1) := List.takeWhile_append_dropWhile.symm
  have hsize := congrArg Text.byteSize hsplit
  rw [Text.byteSize_append] at hsize
  unfold dashIndent
  omega

end

/-- Every task keeps the shape. -/
theorem shapes_of_reads {task : Task} {b b' : Build} {t : Tally} {id : Nat}
    (h : Reads task b t id b') (hready : task.Ready b) {isOpen : Nat → Prop}
    (hshaped : Shaped (fun i => isOpen i ∨ task.Fills i) b.forms) :
    Shapes task isOpen b id b' := by
  have hclosed {o : Nat → Prop} {forms : Array Form} (h : Shaped (fun i => o i ∨ False) forms) :
      Shaped o forms := by simpa using h
  induction h generalizing isOpen with
  | @sequence indent line lines b b' t hlines hitem h ih =>
    obtain ⟨first, rest, hfirst, hkind, hindent, -⟩ := hready
    obtain ⟨rfl, rfl⟩ := List.cons.inj (hlines.symm.trans hfirst)
    exact shapes_collection (ih ⟨⟨_, b.getElem?_forms_push _, rfl, rfl⟩,
      fun _ => ⟨line, lines, hlines, hkind, hindent, hitem⟩⟩) rfl hshaped fun _ => rfl
  | @mapping indent line lines b b' t hlines hkey h ih =>
    obtain ⟨first, rest, hfirst, hkind, hindent, -⟩ := hready
    obtain ⟨rfl, rfl⟩ := List.cons.inj (hlines.symm.trans hfirst)
    refine shapes_collection (ih ⟨⟨_, b.getElem?_forms_push _, rfl, rfl⟩,
      fun _ => ⟨line, lines, hlines, hkind, hindent, hkey⟩⟩) rfl hshaped ?_
    rintro ⟨first, rest, hfirst, -, -, hitem⟩
    obtain ⟨rfl, rfl⟩ := List.cons.inj (hlines.symm.trans hfirst)
    rw [isItem_eq_false_of_isSome hkey] at hitem
    cases hitem
  | @scalarLine indent line lines rest n b hlines hitem hkey hn =>
    have hform := form_of_scalarNode hn
    refine shapes_scalar (congrArg Form.kind hform) (congrArg Form.content hform) ?_
      (hclosed hshaped)
    exact Build.forms_addScalarLine b n rest
  | @pairsEnd mapping indent last b hend =>
    obtain ⟨⟨f, hf, -, -⟩, hat⟩ := hready
    refine shapes_end hf trivial (fun i hfills => ?_) hshaped
    cases last with
    | some last => exact hfills
    | none =>
      obtain ⟨line, lines, hlines, -, hindent, hkey⟩ := hat rfl
      rw [(hat rfl).toContent_eq, hlines] at hend
      rcases hend line rfl with hlt | hnone
      · omega
      · rw [hnone] at hkey
        cases hkey
  | @inlinePair mapping indent last line lines lines' keyText keyValue rest n b b' t hlines hindent
      hkey hn h ih =>
    obtain ⟨⟨f, hf⟩, -⟩ := hready
    have hform := form_of_scalarNode hn
    have hboth := shaped_push_scalar (f := n.form) (shaped_push_scalar hshaped
      (f := ⟨.scalar, line.number, indent + 1, []⟩) rfl rfl) (congrArg Form.kind hform)
      (congrArg Form.content hform)
    have hforms : ((b.toContent.addKey line indent keyText keyValue).addScalar n lines').forms =
        (b.forms.push ⟨.scalar, line.number, indent + 1, []⟩).push n.form := by simp
    have hsize : (b.forms.push ⟨.scalar, line.number, indent + 1, []⟩).size = b.nodes.size + 1 := by
      simp
    have hk : ((b.toContent.addKey line indent keyText keyValue).addScalar n
        lines').forms[b.nodes.size]? = some ⟨.scalar, line.number, indent + 1, []⟩ := by
      rw [hforms, Array.getElem?_push, if_neg (by omega), ← Build.size_forms,
        Array.getElem?_push_size]
    have hv : ((b.toContent.addKey line indent keyText keyValue).addScalar n
        lines').forms[b.nodes.size + 1]? = some n.form := by
      rw [hforms, ← hsize, Array.getElem?_push_size]
    refine shapes_pair (fun hready => ih hready) ?_ ?_ hf ⟨hk, rfl, rfl⟩
      ⟨hv, .inl (congrArg Form.kind hform)⟩
    · rw [hforms]
      exact (keeps_push _ _).trans (keeps_push _ _)
    · rw [hforms]
      exact hboth
  | @nestedPair mapping indent value last line lines keyText keyValue rest b c b' s t hlines hindent
      hkey hempty hvalue h ihvalue ih =>
    obtain ⟨⟨f, hf⟩, -⟩ := hready
    have hkeyed := shaped_push_scalar hshaped (f := ⟨.scalar, line.number, indent + 1, []⟩) rfl rfl
    have hkey? : (b.forms.push ⟨.scalar, line.number, indent + 1, []⟩)[b.nodes.size]? =
        some ⟨.scalar, line.number, indent + 1, []⟩ := by
      rw [← Build.size_forms, Array.getElem?_push_size]
    obtain ⟨hkeeps, hshaped', g, hg, hgives⟩ := ihvalue trivial (by simpa [Task.Fills] using hkeyed)
    simp only [Build.forms_setTrail, Build.forms_addKey, Build.forms_toContent] at hkeeps
    obtain ⟨key, hk, hkkind, hkcolumn⟩ := hkeeps _ _ hkey?
    rw [← Build.forms_setProperties c value (splitValue rest)] at hkeeps hshaped' hg hk
    exact shapes_pair (fun hready => ih hready) ((keeps_push _ _).trans hkeeps) hshaped' hf
      ⟨hk, hkkind, hkcolumn⟩ ⟨hg, by simpa [Task.Gives] using hgives⟩
  | @itemsEnd sequence indent last b hend =>
    obtain ⟨⟨f, hf, -, -⟩, hat⟩ := hready
    refine shapes_end hf trivial (fun i hfills => ?_) hshaped
    cases last with
    | some last => exact hfills
    | none =>
      obtain ⟨line, lines, hlines, -, hindent, hitem⟩ := hat rfl
      rw [(hat rfl).toContent_eq, hlines] at hend
      rcases hend line rfl with hlt | hno
      · omega
      · rw [hno] at hitem
        cases hitem
  | @nestedItem sequence indent id last line lines b c b' s t hlines hindent hitem hempty hvalue h
      ihvalue ih =>
    obtain ⟨⟨f, hf⟩, -⟩ := hready
    obtain ⟨hkeeps, hshaped', g, hg, hgives⟩ :=
      ihvalue trivial (by simpa [Task.Fills] using hshaped)
    rw [← Build.forms_setItem c b.toContent id line (dashValue line)] at hkeeps hshaped' hg
    exact shapes_item (fun hready => ih hready) hkeeps hshaped' hf
      ⟨hg, by simpa [Task.Gives] using hgives⟩
  | @compactItem sequence indent id last line lines b c b' s t hlines hindent hitem hvalue h ihvalue
      ih =>
    obtain ⟨⟨f, hf⟩, -⟩ := hready
    have hkind : line.kind = .content := Build.kind_of_collect (Prod.ext rfl hlines)
    obtain ⟨hkeeps, hshaped', g, hg, hgives⟩ := ihvalue ⟨_, lines, rfl, hkind, rfl, trivial⟩
      (by simpa [Task.Fills] using hshaped)
    refine shapes_item (fun hready => ih hready) hkeeps hshaped' hf
      ⟨hg, hgives.imp_right fun hgives => ?_⟩
    have hlt := indent_lt_dashIndent line indent
    have hcolumn : g.column = dashIndent line indent + 1 := hgives.1
    omega
  | @deeper indent number column id allowSequence line lines b b' t hlines hindent h ih =>
    obtain ⟨hkeeps, hshaped', f, hf, hgives⟩ := ih (Build.isAt_toContent hlines) hshaped
    refine ⟨hkeeps, hshaped', f, hf, hgives.imp_right fun ⟨hcolumn, hsequence⟩ => ?_⟩
    rcases hindent with hlt | ⟨hallow, heq, hitem⟩
    · exact .inl (by omega)
    · refine .inr ⟨hallow, hsequence ?_, by omega⟩
      obtain ⟨first, rest, hfirst, hkind, hfirstIndent, -⟩ := Build.isAt_toContent hlines
      obtain ⟨rfl, rfl⟩ := List.cons.inj (hlines.symm.trans hfirst)
      exact ⟨line, lines, hlines, hkind, rfl, hitem⟩
  | @missing indent number column allowSequence b hnone =>
    exact shapes_scalar (n := missingNode number column) rfl rfl (Build.forms_push _ _)
      (hclosed hshaped)

@[simp] theorem Build.forms_start (nodes : Array Node) (lines : List Line) :
    (Build.start nodes lines).forms = nodes.map Node.form := rfl

theorem shaped_of_readsDocument {nodes nodes' : Array Node} {lines : List Line} {t : Tally}
    {root : Root} (h : ReadsDocument nodes lines t root nodes')
    (hshaped : Shaped (fun _ => False) (nodes.map Node.form)) :
    Shaped (fun _ => False) (nodes'.map Node.form) := by
  cases h with
  | empty hlines => exact hshaped
  | node hlines h hend =>
    have hstart : Shaped (fun _ => False ∨ False) (Build.start nodes lines).forms := by
      simpa using hshaped
    exact (shapes_of_reads h (Build.isAt_toContent hlines) hstart).shaped

end ManifestMarkers.Manifest
