import ManifestMarkers.Inspection
import ManifestMarkers.Proofs.ManifestBlock
import ManifestMarkers.Proofs.MarkerHeaders
import ManifestMarkers.Proofs.MarkerLines
import ManifestMarkers.Proofs.MarkerSchema

/-!
# Markers stand in the text

The path of a marker is put together from scope lexemes. It is nevertheless one piece of the text:
a marker that is found has its path at the place it names, letter by letter, with a colon behind it.

* `Reader.standsAt_of_headerAt`: the path of a header stands in the text.
* `standsAt_of_parseMarkers`: every marker of a text stands in it.
* `inspect_same_findings`: comments that mention no registered path can be skipped.
-/

namespace ManifestMarkers

/-- The path stands in the text at the place `p`, with a colon behind it. -/
def StandsAt (text : List Char) (path : String) (p : Point) : Prop :=
  ∃ before rest, text = before ++ path.toList ++ ':' :: rest ∧ p = Point.origin.after before

namespace Reader

/-! ### Paths in the text -/

/-- Scope segments as they are written, each with its colon. -/
def segments (scopes : List String) : List Char := scopes.flatMap fun s => s.toList ++ [':']

/-- The segments of a path are the path with a colon behind it. -/
theorem toList_pathOf_append {scopes : List String} (h : scopes ≠ []) :
    '+' :: segments scopes = (pathOf scopes).toList ++ [':'] := by
  suffices segments scopes = Text.joinWith [':'] (scopes.map String.toList) ++ [':'] by
    simp [pathOf, Text.joinStrings, this]
  induction scopes with
  | nil => exact absurd rfl h
  | cons s scopes ih =>
    cases scopes with
    | nil => simp [segments, Text.joinWith]
    | cons t scopes =>
      have := ih (by simp)
      simp only [segments, List.flatMap_cons, List.map_cons, Text.joinWith] at this ⊢
      rw [this]
      simp

/-- The scope segments of a header stand at its start, each with its colon. -/
theorem exists_append_scopesFrom (segment cs : List Char) :
    ∃ rest, segment ++ cs = segments (scopesFrom segment cs) ++ rest := by
  fun_induction scopesFrom segment cs with
  | case1 segment => exact ⟨segment, by simp [segments]⟩
  | case2 segment c cs hempty hc ih =>
    obtain ⟨rest, hrest⟩ := ih
    obtain rfl : segment = [] := by simpa using hempty
    exact ⟨rest, hrest⟩
  | case3 segment c cs hempty hc => exact ⟨_, rfl⟩
  | case4 segment c cs hempty hc ih =>
    obtain ⟨rest, hrest⟩ := ih
    exact ⟨rest, by rw [← hrest, List.append_assoc]; rfl⟩
  | case5 segment cs hempty hc ih =>
    obtain ⟨rest, hrest⟩ := ih
    have hsegments : segments (String.ofList segment :: scopesFrom [] cs) =
        segment ++ ':' :: segments (scopesFrom [] cs) := by simp [segments]
    exact ⟨rest, by rw [hsegments, List.append_assoc, List.cons_append, ← hrest]; rfl⟩
  | case6 => exact ⟨_, rfl⟩

/-- The path of a header stands in the text. -/
theorem standsAt_of_headerAt {text : List Char} {scopes : List String} {p : Point}
    (h : HeaderAt text scopes p) (hscopes : scopes ≠ []) : StandsAt text (pathOf scopes) p := by
  obtain ⟨before, after, rfl, rfl, hafter⟩ := h
  obtain ⟨rest, hrest⟩ := exists_append_scopesFrom [] after
  rw [hafter, List.nil_append] at hrest
  refine ⟨before, rest, ?_, rfl⟩
  calc before ++ '+' :: after = before ++ '+' :: segments scopes ++ rest := by simp [hrest]
    _ = before ++ (pathOf scopes).toList ++ ':' :: rest := by
      rw [toList_pathOf_append hscopes]
      simp

end Reader

/-! ### Searching for paths -/

theorem Text.occursIn_eq_true {needle cs : List Char} :
    occursIn needle cs = true ↔ needle <:+: cs := by
  induction cs with
  | nil => simp [occursIn]
  | cons c cs ih => simp [occursIn, ih, List.infix_cons_iff]

theorem StandsAt.occurs {text : List Char} {path : String} {p : Point} (h : StandsAt text path p) :
    path.toList <:+: text := by
  obtain ⟨before, rest, rfl, -⟩ := h
  exact ⟨before, ':' :: rest, rfl⟩

section

variable {registry : Registry} {text : String} {ms : List FoundMarker} {ws : List Warning}

/-- Every marker of a text stands in it at its place. -/
theorem standsAt_of_parseMarkers (h : parseMarkers registry text = .ok (ms, ws)) :
    ∀ m ∈ ms, StandsAt text.toList m.path m.position := by
  intro m hm
  obtain ⟨-, -, -, scopes, hscopes, hpath, hheader⟩ :=
    belongs_of_mem_readMarkers _ (mem_items_of_collectItems h m hm)
  rw [hpath]
  exact Reader.standsAt_of_headerAt hheader hscopes

/-- Every marker of a text has a registered path. -/
theorem path_mem_of_parseMarkers (h : parseMarkers registry text = .ok (ms, ws)) :
    ∀ m ∈ ms, m.path ∈ registry.paths := by
  intro m hm
  obtain ⟨-, -, hpath, -⟩ := belongs_of_mem_readMarkers _ (mem_items_of_collectItems h m hm)
  exact hpath

/-- A text in which no registered path occurs has no markers. -/
theorem eq_nil_of_parseMarkers (hno : ∀ path ∈ registry.paths, ¬ path.toList <:+: text.toList)
    (h : parseMarkers registry text = .ok (ms, ws)) : ms = [] := by
  rw [List.eq_nil_iff_forall_not_mem]
  intro m hm
  exact hno m.path (path_mem_of_parseMarkers h m hm) (standsAt_of_parseMarkers h m hm).occurs

end

/-! ### Inspection without a filter -/

namespace Inspection

variable {registry : Registry} {target : Target} {value? : Option Manifest.Node}
  {n : Manifest.Node}

theorem mentionsMarker_eq_false {text : List Char} :
    mentionsMarker registry text = false ↔ ∀ path ∈ registry.paths, ¬ path.toList <:+: text := by
  simp [mentionsMarker, ← Text.occursIn_eq_true]

/-- The markers in the comments of one node, whether or not these mention a registered path. -/
def readNode (registry : Registry) (target : Target) (value? : Option Manifest.Node)
    (n : Manifest.Node) : Except Fault Inspection :=
  match parseMarkers registry n.commentText with
  | .error e => .error (faultIn n e)
  | .ok (markers, warnings) =>
    .ok {
      findings := markers.map fun found =>
        { path := found.path
          marker := withValue value? found.marker
          target
          raw := n.commentText
          position := found.position
          line := n.line }
      warnings := warnings.map (warningIn n) }

theorem ofNode_eq :
    ofNode registry target value? n =
      if mentionsMarker registry n.commentText.toList then readNode registry target value? n
      else .ok {} := rfl

/-- The markers in the comments of a target, without a filter. -/
def readTarget (registry : Registry) (m : Manifest) (target : Target) : Except Fault Inspection :=
  gather (readNode registry target (m.node? target.value)) (target.nodes.filterMap m.node?)

theorem gather_cons_eq_ok_iff {α : Type} {f : α → Except Fault Inspection} {x : α} {xs : List α}
    {i : Inspection} : gather f (x :: xs) = .ok i ↔
      ∃ first rest, f x = .ok first ∧ gather f xs = .ok rest ∧ first.append rest = i := by
  rw [gather]
  cases f x with
  | error e => simp
  | ok first => cases gather f xs <;> simp

/-- Two ways to inspect that agree on the findings wherever the first succeeds do so on lists. -/
theorem gather_same_findings {α : Type} {f g : α → Except Fault Inspection}
    (hfg : ∀ x i, f x = .ok i → ∃ j, g x = .ok j ∧ j.findings = i.findings) {xs : List α}
    {i : Inspection} (h : gather f xs = .ok i) :
    ∃ j, gather g xs = .ok j ∧ j.findings = i.findings := by
  induction xs generalizing i with
  | nil => cases h; exact ⟨{}, rfl, rfl⟩
  | cons x xs ih =>
    obtain ⟨first, rest, hx, hxs, rfl⟩ := gather_cons_eq_ok_iff.1 h
    obtain ⟨a, ha, hfirst⟩ := hfg x first hx
    obtain ⟨b, hb, hrest⟩ := ih hxs
    exact ⟨a.append b, gather_cons_eq_ok_iff.2 ⟨a, b, ha, hb, rfl⟩, by simp [append, hfirst, hrest]⟩

/-- The findings of a list are those of its members. -/
theorem mem_findings_of_gather {α : Type} {f : α → Except Fault Inspection} {xs : List α}
    {i : Inspection} (h : gather f xs = .ok i) :
    (∀ x ∈ xs, ∃ j, f x = .ok j ∧ ∀ g ∈ j.findings, g ∈ i.findings) ∧
      ∀ g ∈ i.findings, ∃ x ∈ xs, ∃ j, f x = .ok j ∧ g ∈ j.findings := by
  induction xs generalizing i with
  | nil => cases h; simp
  | cons x xs ih =>
    obtain ⟨first, rest, hx, hxs, rfl⟩ := gather_cons_eq_ok_iff.1 h
    obtain ⟨hmembers, hfindings⟩ := ih hxs
    constructor
    · rw [List.forall_mem_cons]
      refine ⟨⟨first, hx, fun g hg => by simp [append, hg]⟩, fun y hy => ?_⟩
      obtain ⟨j, hj, hsub⟩ := hmembers y hy
      exact ⟨j, hj, fun g hg => by simp [append, hsub g hg]⟩
    · intro g hg
      rcases List.mem_append.1 hg with hg | hg
      · exact ⟨x, by simp, first, hx, hg⟩
      · obtain ⟨y, hy, j, hj, hgj⟩ := hfindings g hg
        exact ⟨y, by simp [hy], j, hj, hgj⟩

/-- A node whose comments mention no registered path has no findings. -/
theorem ofNode_same_findings {i : Inspection} (h : readNode registry target value? n = .ok i) :
    ∃ j, ofNode registry target value? n = .ok j ∧ j.findings = i.findings := by
  rw [ofNode_eq]
  split
  · exact ⟨i, h, rfl⟩
  · next hno =>
    refine ⟨{}, rfl, ?_⟩
    unfold readNode at h
    split at h
    · cases h
    · next markers warnings hp =>
      cases h
      have hno := mentionsMarker_eq_false.1 (Bool.eq_false_iff.2 hno)
      simp [eq_nil_of_parseMarkers hno hp]

end Inspection

/-- Read the markers in all comments of a manifest, without a filter. -/
def Manifest.inspectAll (m : Manifest) (registry : Registry) : Except Fault Inspection :=
  Inspection.gather (Inspection.readTarget registry m) m.targets

/-- Every marker of a text stands at its offset, with a colon behind its path. So a text without a
registered path has no markers, and skipping the comments without one loses no finding. -/
theorem inspect_same_findings (registry : Registry) :
    (∀ text ms ws, parseMarkers registry text = .ok (ms, ws) →
      ∀ m ∈ ms, ∃ before rest, text.toList = before ++ m.path.toList ++ ':' :: rest ∧
        m.position.offset = Text.byteSize before) ∧
    (∀ text ms ws, (∀ path ∈ registry.paths, ¬ path.toList <:+: text.toList) →
      parseMarkers registry text = .ok (ms, ws) → ms = []) ∧
    ∀ (m : Manifest) i, m.inspectAll registry = .ok i →
      ∃ j, m.inspect registry = .ok j ∧ j.findings = i.findings := by
  refine ⟨fun text ms ws h m hm => ?_, fun text ms ws => eq_nil_of_parseMarkers, fun m i h => ?_⟩
  · obtain ⟨before, rest, htext, hp⟩ := standsAt_of_parseMarkers h m hm
    refine ⟨before, rest, htext, ?_⟩
    rw [hp, Point.offset_after]
    exact Nat.zero_add _
  · exact Inspection.gather_same_findings (fun target i hi =>
      Inspection.gather_same_findings (fun n i => Inspection.ofNode_same_findings) hi) h

/-- A marker behind a warning and a character of two bytes; and a manifest with a comment that only
the inspection without filter reads. -/
theorem inspect_same_findings_warning :
    (∃ ms ws, parseMarkers operatorRegistry
        "# +hello é\n# +operator-builder:field:name=x,type=int" = .ok (ms, ws) ∧ ms.length = 1 ∧
      ∀ m ∈ ms, ∃ before rest, "# +hello é\n# +operator-builder:field:name=x,type=int".toList =
          before ++ m.path.toList ++ ':' :: rest ∧ m.position.offset = Text.byteSize before) ∧
    (∃ ms ws, parseMarkers operatorRegistry "# +operator-builder:other:name=x" = .ok (ms, ws) ∧
      ms = []) ∧
    ∃ m i j, Manifest.parse "a: b # +hello\n# +operator-builder:field:name=x,type=int\nc: 2\n" =
        .ok m ∧ m.inspectAll operatorRegistry = .ok i ∧ i.warnings.length = 1 ∧
      i.findings.length = 1 ∧ m.inspect operatorRegistry = .ok j ∧ j.findings = i.findings := by
  obtain ⟨hstands, hnone, hsame⟩ := inspect_same_findings operatorRegistry
  obtain ⟨ms, ws, hp, hms⟩ := exists_ok_of_count operatorRegistry
    "# +hello é\n# +operator-builder:field:name=x,type=int" 1 (by decide +kernel)
  obtain ⟨ns, vs, hq, -⟩ := exists_ok_of_count operatorRegistry
    "# +operator-builder:other:name=x" 0 (by decide +kernel)
  have hno : ∀ path ∈ operatorRegistry.paths,
      ¬ path.toList <:+: "# +operator-builder:other:name=x".toList := by decide +kernel
  have hparse : ((Manifest.parse
      "a: b # +hello\n# +operator-builder:field:name=x,type=int\nc: 2\n").toOption.bind fun m =>
      (m.inspectAll operatorRegistry).toOption.map fun i =>
        (i.warnings.length, i.findings.length)) = some (1, 1) := by
    rw [Manifest.parse_eq_ite, String.toList_ofList]
    decide +kernel
  obtain ⟨m, hm, hparse⟩ := Option.bind_eq_some_iff.1 hparse
  obtain ⟨i, hi, hcount⟩ := Option.map_eq_some_iff.1 hparse
  obtain ⟨hwarnings, hfindings⟩ := Prod.mk.inj hcount
  have hi := Manifest.eq_ok_of_toOption hi
  obtain ⟨j, hj, hjf⟩ := hsame m i hi
  refine ⟨?_, ?_, ?_⟩
  · exact ⟨ms, ws, hp, hms, hstands _ ms ws hp⟩
  · exact ⟨ns, vs, hq, hnone _ ns vs hno hq⟩
  · have hm := Manifest.eq_ok_of_toOption hm
    exact ⟨m, i, j, hm, hi, hwarnings, hfindings, hj, hjf⟩

end ManifestMarkers
