import ManifestMarkers.Lexeme.Lexer
import ManifestMarkers.Marker

/-!
# Registered marker paths

A registry says which scope paths are markers, and of which variant. Paths are kept in the order in
which they were defined, each of them once.
-/

namespace ManifestMarkers

/-- A path with the variant of its markers. -/
structure Definition where
  path : String
  variant : Variant
  deriving DecidableEq, Repr

namespace Definition

/-- The argument with the given name, whatever its case. -/
def arg? (d : Definition) (name : String) : Option ArgSpec :=
  d.variant.args.find? (·.matchesName name)

end Definition

/-- Whether the characters are an identifier. -/
def isIdentifier : List Char → Bool
  | [] => false
  | c :: cs => Lexeme.isIdentStart c && cs.all Lexeme.isIdentChar

/-- Whether a path is a plus sign and identifiers with colons between them. -/
def isPath (path : String) : Bool :=
  match path.toList with
  | '+' :: cs => (Text.splitOn ':' cs).all isIdentifier
  | _ => false

/-- A path is a plus sign and its segments, with colons between them. -/
theorem exists_segments_of_isPath {path : String} (h : isPath path = true) :
    ∃ segments, segments ≠ [] ∧ (∀ s ∈ segments, isIdentifier s = true) ∧
      path.toList = '+' :: Text.joinWith [':'] segments := by
  unfold isPath at h
  split at h
  · next cs hcs =>
    refine ⟨_, Text.splitOn_ne_nil ':' cs, List.all_eq_true.1 h, ?_⟩
    rw [hcs, Text.joinWith_splitOn]
  · cases h

/-- No identifier holds a colon. -/
theorem colon_notMem_of_isIdentifier {cs : List Char} (h : isIdentifier cs = true) : ':' ∉ cs := by
  cases cs with
  | nil => cases h
  | cons c cs =>
    obtain ⟨hc, hcs⟩ := Bool.and_eq_true_iff.1 h
    rintro hmem
    rcases List.mem_cons.1 hmem with rfl | hmem
    · exact absurd hc (by decide)
    · exact absurd (List.all_eq_true.1 hcs _ hmem) (by decide)

theorem isPath_of_segments {path : String} {segments : List (List Char)} (hne : segments ≠ [])
    (hs : ∀ s ∈ segments, isIdentifier s = true)
    (h : path.toList = '+' :: Text.joinWith [':'] segments) : isPath path = true := by
  have hsplit := Text.splitOn_joinWith hne fun s hmem => colon_notMem_of_isIdentifier (hs s hmem)
  unfold isPath
  rw [h]
  simpa [hsplit] using hs

/-- The known marker paths. -/
structure Registry where
  definitions : List Definition := []
  deriving DecidableEq, Repr

namespace Registry

/-- The definition of exactly this path. -/
def get? (r : Registry) (path : String) : Option Definition :=
  r.definitions.find? (·.path == path)

theorem path_of_get? {r : Registry} {path : String} {d : Definition} (h : r.get? path = some d) :
    d.path = path := by
  simpa using List.find?_some h

/-- Define a path. It has to be well formed and new. -/
def define (r : Registry) (path : String) (variant : Variant) : Except Fault Registry :=
  if !isPath path then .error (.invalidPath path)
  else if (r.get? path).isSome then .error (.duplicatePath path)
  else .ok ⟨r.definitions ++ [⟨path, variant⟩]⟩

/-- Define several paths in order. -/
def defineAll (r : Registry) : List (String × Variant) → Except Fault Registry
  | [] => .ok r
  | (path, variant) :: more => match r.define path variant with
    | .ok r => r.defineAll more
    | .error e => .error e

theorem isPath_of_define {r s : Registry} {path : String} {variant : Variant}
    (hr : ∀ d ∈ r.definitions, isPath d.path = true) (h : r.define path variant = .ok s) :
    ∀ d ∈ s.definitions, isPath d.path = true := by
  unfold define at h
  split at h
  · cases h
  · next hpath =>
    split at h
    · cases h
    · cases h
      intro d hd
      rcases List.mem_append.1 hd with hd | hd
      · exact hr d hd
      · obtain rfl := List.mem_singleton.1 hd
        simpa using hpath

/-- Only well-formed paths are ever defined. -/
theorem isPath_of_defineAll {r s : Registry} {more : List (String × Variant)}
    (hr : ∀ d ∈ r.definitions, isPath d.path = true) (h : r.defineAll more = .ok s) :
    ∀ d ∈ s.definitions, isPath d.path = true := by
  induction more generalizing r with
  | nil => cases h; exact hr
  | cons entry more ih =>
    unfold defineAll at h
    split at h
    · next hdefine => exact ih (isPath_of_define hr hdefine) h
    · cases h

/-- The known paths, in order of definition. -/
def paths (r : Registry) : List String := r.definitions.map Definition.path

theorem mem_paths_of_get? {r : Registry} {path : String} {d : Definition}
    (h : r.get? path = some d) : d.path ∈ r.paths :=
  List.mem_map_of_mem (List.mem_of_find?_eq_some h)

/-- Whether `path` is a known path or leads to one by whole segments. -/
def couldMatch (r : Registry) (path : String) : Bool :=
  r.definitions.any fun d =>
    match Text.after? path.toList d.path.toList with
    | some [] | some (':' :: _) => true
    | _ => false

/-- A path could match if it is defined, or leads to a defined path up to a colon. -/
theorem couldMatch_iff {r : Registry} {path : String} :
    r.couldMatch path = true ↔
      ∃ d ∈ r.definitions, d.path = path ∨ path.toList ++ [':'] <+: d.path.toList := by
  unfold couldMatch
  rw [List.any_eq_true]
  refine exists_congr fun d => and_congr_right fun _ => ?_
  constructor
  · intro h
    split at h
    · next hafter =>
      have hpath := Text.after?_eq_some_iff.1 hafter
      rw [List.append_nil] at hpath
      exact .inl (String.toList_inj.1 hpath)
    · next rest hafter =>
      refine .inr ⟨rest, ?_⟩
      rw [Text.after?_eq_some_iff.1 hafter, List.append_assoc]
      rfl
    · cases h
  · rintro (hpath | ⟨rest, hpath⟩)
    · have hafter : Text.after? path.toList d.path.toList = some [] :=
        Text.after?_eq_some_iff.2 (by rw [hpath, List.append_nil])
      rw [hafter]
    · have hafter : Text.after? path.toList d.path.toList = some (':' :: rest) :=
        Text.after?_eq_some_iff.2 (by rw [← hpath, List.append_assoc]; rfl)
      rw [hafter]
      rfl

theorem couldMatch_of_mem_paths {r : Registry} {path : String} (h : path ∈ r.paths) :
    r.couldMatch path = true := by
  obtain ⟨d, hd, hpath⟩ := List.mem_map.1 h
  exact couldMatch_iff.2 ⟨d, hd, .inl hpath⟩

end Registry

/-- The three marker paths of operator manifests. -/
def operatorRegistry : Registry :=
  ⟨[⟨fieldPath, .field⟩, ⟨collectionFieldPath, .collectionField⟩, ⟨resourcePath, .resource⟩]⟩

theorem defineAll_operatorRegistry :
    Registry.defineAll {} [(fieldPath, .field), (collectionFieldPath, .collectionField),
      (resourcePath, .resource)] = .ok operatorRegistry := by
  rfl

end ManifestMarkers
