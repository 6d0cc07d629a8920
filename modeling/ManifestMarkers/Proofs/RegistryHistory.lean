import ManifestMarkers.Marker.Reader
import ManifestMarkers.Registry.Index

/-!
# What a registry holds after any calls

Paths are defined one after the other, and calls that fail are passed over. What is left behind is
told by the calls alone: of every well-formed path the first call.

* `accepted` reads the definitions off the calls, and `Registry.definitions_attemptAll` says that
  these are the ones a registry holds.
* `Registry.isPrefix_iff`: a path leads to another one if its segments are the first ones of it.
* `IndexedRegistry.InStep`: the list and the index stay in step, whether calls succeed or fail.
* `attemptAll_history` is all of it together.
-/

namespace ManifestMarkers

/-! ### Calls -/

/-- Try to define a path. -/
def Registry.attempt (r : Registry) (call : String × Variant) : Registry :=
  match r.define call.1 call.2 with
  | .ok s => s
  | .error _ => r

/-- Try to define several paths in order, whatever fails. -/
def Registry.attemptAll (r : Registry) (calls : List (String × Variant)) : Registry :=
  calls.foldl attempt r

/-- Try to define several paths in order, whatever fails. -/
def IndexedRegistry.attemptAll (r : IndexedRegistry) (calls : List (String × Variant)) :
    IndexedRegistry :=
  calls.foldl (fun r call => (r.define call.1 call.2).2) r

/-- The registry after the calls. -/
def Registry.ofCalls (calls : List (String × Variant)) : Registry := attemptAll {} calls

/-- The registry after the calls, with its index. -/
def IndexedRegistry.ofCalls (calls : List (String × Variant)) : IndexedRegistry :=
  attemptAll {} calls

/-- The definitions that calls leave behind: of every well-formed path the first call. -/
def accepted : List (String × Variant) → List Definition
  | [] => []
  | (path, variant) :: more =>
    if isPath path then ⟨path, variant⟩ :: (accepted more).filter (·.path ≠ path)
    else accepted more

/-- A path is a plus sign and identifiers, at least one, with colons between them. -/
def IsWellFormed (path : String) : Prop :=
  ∃ segments : List String, segments ≠ [] ∧ (∀ s ∈ segments, isIdentifier s.toList = true) ∧
    path = Reader.pathOf segments

theorem Reader.toList_pathOf (segments : List String) :
    (pathOf segments).toList = '+' :: Text.joinWith [':'] (segments.map String.toList) := by
  simp [pathOf, Text.joinStrings]

theorem isPath_iff {path : String} : isPath path = true ↔ IsWellFormed path := by
  constructor
  · intro h
    obtain ⟨segments, hne, hs, hpath⟩ := exists_segments_of_isPath h
    refine ⟨segments.map String.ofList, by simpa using hne, by simpa using hs, ?_⟩
    rw [← String.toList_inj, hpath, Reader.toList_pathOf]
    simp [Function.comp_def]
  · rintro ⟨segments, hne, hs, rfl⟩
    have hne' : segments.map String.toList ≠ [] := by simpa using hne
    exact isPath_of_segments hne' (by simpa using hs) (Reader.toList_pathOf segments)

/-! ### The calls that are accepted -/

theorem nodup_accepted (calls : List (String × Variant)) :
    ((accepted calls).map Definition.path).Nodup := by
  induction calls with
  | nil => simp [accepted]
  | cons call more ih =>
    rw [accepted]
    split
    · rw [List.map_cons, List.nodup_cons]
      refine ⟨by simp, ih.sublist ?_⟩
      exact List.filter_sublist.map _
    · exact ih

/-- The first call for the path of the definition is for its variant. -/
def IsFirstCall (calls : List (String × Variant)) (d : Definition) : Prop :=
  ∃ before after, calls = before ++ (d.path, d.variant) :: after ∧
    ∀ call ∈ before, call.1 ≠ d.path

theorem not_isFirstCall_nil (d : Definition) : ¬ IsFirstCall [] d := by
  rintro ⟨before, after, h, -⟩
  simp at h

theorem isFirstCall_cons {call : String × Variant} {more : List (String × Variant)}
    {d : Definition} : IsFirstCall (call :: more) d ↔
      call = (d.path, d.variant) ∨ call.1 ≠ d.path ∧ IsFirstCall more d := by
  constructor
  · rintro ⟨before, after, h, hbefore⟩
    cases before with
    | nil => exact .inl (List.cons.inj h).1
    | cons first before =>
      obtain ⟨rfl, hmore⟩ := List.cons.inj h
      obtain ⟨hcall, hbefore⟩ := List.forall_mem_cons.1 hbefore
      exact .inr ⟨hcall, before, after, hmore, hbefore⟩
  · rintro (rfl | ⟨hcall, before, after, rfl, hbefore⟩)
    · exact ⟨[], more, rfl, by simp⟩
    · exact ⟨call :: before, after, rfl, List.forall_mem_cons.2 ⟨hcall, hbefore⟩⟩

/-- Every well-formed path that is called for has a first call. -/
theorem exists_isFirstCall {calls : List (String × Variant)} {path : String} {variant : Variant}
    (h : (path, variant) ∈ calls) : ∃ d : Definition, d.path = path ∧ IsFirstCall calls d := by
  induction calls with
  | nil => cases h
  | cons call more ih =>
    by_cases hcall : call.1 = path
    · exact ⟨⟨path, call.2⟩, rfl, isFirstCall_cons.2 (.inl (Prod.ext hcall rfl))⟩
    · rcases List.mem_cons.1 h with rfl | h
      · exact absurd rfl hcall
      · obtain ⟨d, rfl, hd⟩ := ih h
        exact ⟨d, rfl, isFirstCall_cons.2 (.inr ⟨hcall, hd⟩)⟩

/-- A definition is left behind by the first call for its path. -/
theorem mem_accepted_iff {calls : List (String × Variant)} {d : Definition} :
    d ∈ accepted calls ↔ isPath d.path = true ∧ IsFirstCall calls d := by
  induction calls with
  | nil => simp [accepted, not_isFirstCall_nil]
  | cons call more ih =>
    obtain ⟨path, variant⟩ := call
    rw [isFirstCall_cons, accepted]
    by_cases hd : path = d.path
    · subst hd
      have hcall : (d.path, variant) = (d.path, d.variant) ↔ d = ⟨d.path, variant⟩ := by
        cases d; simp [eq_comm]
      rw [hcall]
      by_cases hp : isPath d.path = true <;> simp [hp, ih]
    · have hcall : d ≠ ⟨path, variant⟩ := by
        rintro rfl
        exact hd rfl
      by_cases hp : isPath path = true <;> simp [hp, ih, hd, Ne.symm hd, hcall]

namespace Registry

variable {r : Registry} {path : String} {variant : Variant} {d : Definition}

theorem isSome_get?_iff : (r.get? path).isSome = true ↔ path ∈ r.paths := by
  simp [get?, paths]

/-- A path that is well formed and new is defined behind the others. -/
theorem define_of_new (hpath : isPath path = true) (hnew : path ∉ r.paths) :
    r.define path variant = .ok ⟨r.definitions ++ [⟨path, variant⟩]⟩ := by
  have hnone : ¬ (r.get? path).isSome = true := fun h => hnew (isSome_get?_iff.1 h)
  simp [define, hpath, hnone]

theorem exists_fault_of_define (variant : Variant) (h : ¬ (isPath path = true ∧ path ∉ r.paths)) :
    ∃ f, r.define path variant = .error f := by
  unfold define
  by_cases hpath : isPath path = true
  · have hsome : (r.get? path).isSome = true :=
      isSome_get?_iff.2 (by_contra fun hnew => h ⟨hpath, hnew⟩)
    exact ⟨_, by simp [hpath, hsome]; rfl⟩
  · exact ⟨_, by simp [hpath]; rfl⟩

theorem define_eq_ok_iff {s : Registry} : r.define path variant = .ok s ↔
    isPath path = true ∧ path ∉ r.paths ∧ s = ⟨r.definitions ++ [⟨path, variant⟩]⟩ := by
  rw [← and_assoc]
  by_cases h : isPath path = true ∧ path ∉ r.paths
  · simp [define_of_new h.1 h.2, h, eq_comm]
  · obtain ⟨f, hf⟩ := exists_fault_of_define variant h
    simp [hf, h]

/-- What an attempt leaves behind. -/
theorem attempt_eq (r : Registry) (call : String × Variant) :
    r.attempt call = if isPath call.1 = true ∧ call.1 ∉ r.paths then
      ⟨r.definitions ++ [⟨call.1, call.2⟩]⟩ else r := by
  unfold attempt
  split_ifs with h
  · rw [define_of_new h.1 h.2]
  · obtain ⟨f, hf⟩ := exists_fault_of_define call.2 h
    rw [hf]

/-- New definitions come behind the old ones, unless their path is one of those. -/
theorem definitions_attemptAll (r : Registry) (calls : List (String × Variant)) :
    (r.attemptAll calls).definitions =
      r.definitions ++ (accepted calls).filter (·.path ∉ r.paths) := by
  induction calls generalizing r with
  | nil => simp [attemptAll, accepted]
  | cons call more ih =>
    obtain ⟨path, variant⟩ := call
    have hmore : r.attemptAll ((path, variant) :: more) =
        (r.attempt (path, variant)).attemptAll more := rfl
    rw [hmore, ih, accepted, attempt_eq]
    by_cases hpath : isPath path = true
    · rw [if_pos hpath]
      by_cases hold : path ∈ r.paths
      · -- the call fails, and so do all others for the path
        rw [if_neg fun h => h.2 hold, List.filter_cons_of_neg (by simpa using hold),
          List.filter_filter]
        congr 1
        refine List.filter_congr fun d _ => ?_
        have hne : d.path ∉ r.paths → d.path ≠ path := fun hd h => hd (h ▸ hold)
        simpa using hne
      · rw [if_pos ⟨hpath, hold⟩, List.filter_cons_of_pos (by simpa using hold),
          List.filter_filter, List.append_assoc, List.singleton_append]
        congr 2
        refine List.filter_congr fun d _ => ?_
        simp only [paths, List.map_append, List.mem_append, not_or, Bool.decide_and]
        simp
    · rw [if_neg fun h => hpath h.1, if_neg hpath]

theorem definitions_ofCalls (calls : List (String × Variant)) :
    (ofCalls calls).definitions = accepted calls := by
  rw [ofCalls, definitions_attemptAll]
  simp [paths]

theorem nodup_paths_ofCalls (calls : List (String × Variant)) : (ofCalls calls).paths.Nodup := by
  rw [paths, definitions_ofCalls]
  exact nodup_accepted calls

theorem isPath_of_mem_ofCalls {calls : List (String × Variant)} :
    ∀ d ∈ (ofCalls calls).definitions, isPath d.path = true := fun _ hd =>
  (mem_accepted_iff.1 (definitions_ofCalls calls ▸ hd)).1

theorem mem_paths_ofCalls_iff {calls : List (String × Variant)} :
    path ∈ (ofCalls calls).paths ↔ isPath path = true ∧ ∃ variant, (path, variant) ∈ calls := by
  rw [paths, definitions_ofCalls, List.mem_map]
  constructor
  · rintro ⟨d, hd, rfl⟩
    obtain ⟨hpath, before, after, rfl, -⟩ := mem_accepted_iff.1 hd
    exact ⟨hpath, d.variant, by simp⟩
  · rintro ⟨hpath, variant, hcall⟩
    obtain ⟨d, rfl, hd⟩ := exists_isFirstCall hcall
    exact ⟨d, mem_accepted_iff.2 ⟨hpath, hd⟩, rfl⟩

/-- A registry without repetition finds every definition. -/
theorem get?_eq_some_iff (h : r.paths.Nodup) :
    r.get? path = some d ↔ d ∈ r.definitions ∧ d.path = path := by
  refine ⟨fun hd => ⟨List.mem_of_find?_eq_some hd, path_of_get? hd⟩, ?_⟩
  rintro ⟨hd, rfl⟩
  obtain ⟨e, he⟩ := Option.isSome_iff_exists.1 (isSome_get?_iff.2 (List.mem_map_of_mem hd))
  rw [he, List.inj_on_of_nodup_map h (List.mem_of_find?_eq_some he) hd (path_of_get? he)]

/-! ### Paths that lead to others -/

theorem splitOn_segments {segments : List String} (hne : segments ≠ [])
    (hs : ∀ s ∈ segments, isIdentifier s.toList = true) :
    Text.splitOn ':' (Text.joinWith [':'] (segments.map String.toList)) =
      segments.map String.toList := by
  refine Text.splitOn_joinWith (by simpa using hne) fun s hmem => ?_
  obtain ⟨t, ht, rfl⟩ := List.mem_map.1 hmem
  exact colon_notMem_of_isIdentifier (hs t ht)

/-- On identifiers, leading to a path by whole segments is to have its first segments. -/
theorem isPrefix_iff {scopes segments : List String} (hscopes : scopes ≠ [])
    (hs : ∀ s ∈ scopes, isIdentifier s.toList = true) (hsegments : segments ≠ [])
    (ht : ∀ s ∈ segments, isIdentifier s.toList = true) :
    (Reader.pathOf segments = Reader.pathOf scopes ∨
        (Reader.pathOf scopes).toList ++ [':'] <+: (Reader.pathOf segments).toList) ↔
      scopes <+: segments := by
  have hinj : Function.Injective (List.map String.toList) :=
    List.map_injective_iff.2 fun _ _ => String.toList_inj.1
  have hsplit := splitOn_segments hsegments ht
  rw [← String.toList_inj]
  simp only [Reader.toList_pathOf, List.cons_append, List.cons_prefix_cons, List.cons.injEq,
    true_and]
  constructor
  · rintro (h | ⟨rest, h⟩)
    · rw [h, splitOn_segments hscopes hs] at hsplit
      exact hinj hsplit ▸ List.prefix_rfl
    · rw [← h, List.append_assoc, List.singleton_append, Text.splitOn_append_cons,
        splitOn_segments hscopes hs] at hsplit
      obtain ⟨first, more, rfl, hfirst, -⟩ := List.map_eq_append_iff.1 hsplit.symm
      exact ⟨more, by rw [hinj hfirst]⟩
  · rintro ⟨more, rfl⟩
    cases more with
    | nil => exact .inl (by rw [List.append_nil])
    | cons s more =>
      rw [List.map_append, Text.joinWith_append (by simpa using hscopes) (by simp)]
      exact .inr (List.prefix_append ..)

/-- If all paths are well formed, a path could match if its segments are the first ones of one of
them. -/
theorem couldMatch_pathOf_iff (hr : ∀ d ∈ r.definitions, isPath d.path = true)
    {scopes : List String} (hscopes : scopes ≠ [])
    (hs : ∀ s ∈ scopes, isIdentifier s.toList = true) :
    r.couldMatch (Reader.pathOf scopes) = true ↔ ∃ segments, Reader.pathOf segments ∈ r.paths ∧
      (∀ s ∈ segments, isIdentifier s.toList = true) ∧ scopes <+: segments := by
  rw [couldMatch_iff]
  constructor
  · rintro ⟨d, hd, hmatch⟩
    obtain ⟨segments, hne, ht, hpath⟩ := isPath_iff.1 (hr d hd)
    rw [hpath, isPrefix_iff hscopes hs hne ht] at hmatch
    exact ⟨segments, hpath ▸ List.mem_map_of_mem hd, ht, hmatch⟩
  · rintro ⟨segments, hmem, ht, hprefix⟩
    obtain ⟨d, hd, hpath⟩ := List.mem_map.1 hmem
    have hne : segments ≠ [] := by
      rintro rfl
      exact hscopes (List.prefix_nil.1 hprefix)
    exact ⟨d, hd, by rwa [hpath, isPrefix_iff hscopes hs hne ht]⟩

end Registry

/-! ### The index -/

namespace IndexedRegistry

/-- The list is that of the registry, and the index has the place of every path in it. -/
structure InStep (r : IndexedRegistry) (s : Registry) : Prop where
  definitions : r.definitions = s.definitions
  index : ∀ path, r.index[path]? = s.definitions.findIdx? (·.path == path)

variable {r : IndexedRegistry} {s : Registry}

theorem inStep_empty : InStep {} {} := ⟨rfl, fun path => by simp⟩

/-- No place in the index is out of bounds, and each is the one of its path. -/
theorem InStep.exists_of_index (h : InStep r s) {path : String} {place : Nat}
    (hplace : r.index[path]? = some place) :
    ∃ d, r.definitions[place]? = some d ∧ d.path = path := by
  rw [h.index] at hplace
  obtain ⟨hlt, hpath, -⟩ := List.findIdx?_eq_some_iff_getElem.1 hplace
  exact ⟨s.definitions[place], by rw [h.definitions, List.getElem?_eq_getElem hlt],
    by simpa using hpath⟩

theorem InStep.get? (h : InStep r s) (path : String) : r.get? path = s.get? path := by
  unfold IndexedRegistry.get? Registry.get?
  rw [h.index, h.definitions, List.find?_eq_bind_findIdx?_getElem?]
  cases s.definitions.findIdx? (·.path == path) <;> rfl

theorem InStep.contains (h : InStep r s) (path : String) :
    r.index.contains path = true ↔ path ∈ s.paths := by
  rw [Std.HashMap.contains_eq_isSome_getElem?, h.index, List.findIdx?_isSome]
  simp [Registry.paths]

/-- A new definition, with its place. -/
theorem InStep.add (h : InStep r s) {d : Definition} (hnew : d.path ∉ s.paths) :
    InStep ⟨r.definitions ++ [d], r.index.insert d.path r.definitions.length⟩
      ⟨s.definitions ++ [d]⟩ := by
  refine ⟨by rw [h.definitions], fun path => ?_⟩
  rw [Std.HashMap.getElem?_insert, h.index, h.definitions, List.findIdx?_append]
  by_cases hpath : d.path = path
  · have hnone : s.definitions.findIdx? (·.path == path) = none := by
      rw [List.findIdx?_eq_none_iff]
      intro e he
      simpa using fun heq : e.path = path => hnew (hpath ▸ heq ▸ List.mem_map_of_mem he)
    simp [hpath, hnone]
  · simp [hpath]

/-- A call has the same outcome with an index as without, and list and index stay in step. -/
theorem InStep.define (h : InStep r s) (path : String) (variant : Variant) :
    (r.define path variant).1 = (s.define path variant).map (fun _ => ⟨path, variant⟩) ∧
      InStep (r.define path variant).2 (s.attempt (path, variant)) := by
  rw [Registry.attempt_eq]
  -- one looks for an earlier call in its index, and the other one in the list
  unfold IndexedRegistry.define IndexedRegistry.add Registry.define
  by_cases hpath : isPath path = true
  · by_cases hold : path ∈ s.paths
    · have hsome := Registry.isSome_get?_iff.2 hold
      simpa [hpath, hold, (h.contains path).2 hold, hsome] using ⟨rfl, h⟩
    · have hnone : ¬ (s.get? path).isSome = true := fun hs => hold (Registry.isSome_get?_iff.1 hs)
      have hcontains : ¬ r.index.contains path = true := fun hc => hold ((h.contains path).1 hc)
      simpa [hpath, hold, hcontains, hnone] using ⟨rfl, h.add hold⟩
  · simpa [hpath] using ⟨rfl, h⟩

/-- A call that fails changes neither the list nor the index. -/
theorem define_of_error {path : String} {variant : Variant} {f : Fault}
    (h : (r.define path variant).1 = .error f) : (r.define path variant).2 = r := by
  unfold IndexedRegistry.define IndexedRegistry.add at h ⊢
  split_ifs at h ⊢
  · rfl
  · rfl

theorem InStep.attemptAll (h : InStep r s) (calls : List (String × Variant)) :
    InStep (r.attemptAll calls) (s.attemptAll calls) := by
  induction calls generalizing r s with
  | nil => exact h
  | cons call more ih => exact ih (h.define call.1 call.2).2

end IndexedRegistry

/-- After any calls, whether they succeed or fail, a registry has the accepted paths without
repetition and in the order of their calls, each with the definition of its first call. The next
call succeeds when its path is well formed and new, and comes last. A path could match when its
segments are the first ones of an accepted path. An index next to the list has the place of each
path and is never behind: every call and every lookup have the same outcome with it as without, and
a call that fails changes nothing. -/
theorem registry_ofCalls (calls : List (String × Variant)) (path : String) (variant : Variant) :
    ((Registry.ofCalls calls).definitions = accepted calls ∧
      (Registry.ofCalls calls).paths.Nodup ∧
      (path ∈ (Registry.ofCalls calls).paths ↔
        IsWellFormed path ∧ ∃ variant, (path, variant) ∈ calls)) ∧
    (((Registry.ofCalls calls).get? path).isSome = true ↔ path ∈ (Registry.ofCalls calls).paths) ∧
    (∀ d, (Registry.ofCalls calls).get? path = some d ↔
      IsWellFormed path ∧ d.path = path ∧ IsFirstCall calls d) ∧
    (∀ s, (Registry.ofCalls calls).define path variant = .ok s ↔
      IsWellFormed path ∧ path ∉ (Registry.ofCalls calls).paths ∧
        s = ⟨(Registry.ofCalls calls).definitions ++ [⟨path, variant⟩]⟩) ∧
    (∀ scopes : List String, scopes ≠ [] → (∀ s ∈ scopes, isIdentifier s.toList = true) →
      ((Registry.ofCalls calls).couldMatch (Reader.pathOf scopes) = true ↔
        ∃ segments, Reader.pathOf segments ∈ (Registry.ofCalls calls).paths ∧
          (∀ s ∈ segments, isIdentifier s.toList = true) ∧ scopes <+: segments)) ∧
    (IndexedRegistry.ofCalls calls).definitions = (Registry.ofCalls calls).definitions ∧
    (IndexedRegistry.ofCalls calls).get? path = (Registry.ofCalls calls).get? path ∧
    (∀ place, (IndexedRegistry.ofCalls calls).index[path]? = some place →
      ∃ d, (IndexedRegistry.ofCalls calls).definitions[place]? = some d ∧ d.path = path) ∧
    ((IndexedRegistry.ofCalls calls).define path variant).1 =
      ((Registry.ofCalls calls).define path variant).map (fun _ => ⟨path, variant⟩) ∧
    ∀ f, ((IndexedRegistry.ofCalls calls).define path variant).1 = .error f →
      ((IndexedRegistry.ofCalls calls).define path variant).2 = IndexedRegistry.ofCalls calls := by
  have hnodup := Registry.nodup_paths_ofCalls calls
  have hstep : IndexedRegistry.InStep (.ofCalls calls) (Registry.ofCalls calls) :=
    IndexedRegistry.inStep_empty.attemptAll calls
  rw [← isPath_iff]
  refine ⟨⟨Registry.definitions_ofCalls calls, hnodup, Registry.mem_paths_ofCalls_iff⟩,
    Registry.isSome_get?_iff, fun d => ?_, fun s => ?_, fun scopes hscopes hs => ?_,
    hstep.definitions, hstep.get? path, fun place => hstep.exists_of_index,
    (hstep.define path variant).1, fun f => IndexedRegistry.define_of_error⟩
  · rw [Registry.get?_eq_some_iff hnodup, Registry.definitions_ofCalls, mem_accepted_iff]
    constructor
    · rintro ⟨⟨hpath, hfirst⟩, rfl⟩
      exact ⟨hpath, rfl, hfirst⟩
    · rintro ⟨hpath, rfl, hfirst⟩
      exact ⟨⟨hpath, hfirst⟩, rfl⟩
  · exact Registry.define_eq_ok_iff
  · exact Registry.couldMatch_pathOf_iff Registry.isPath_of_mem_ofCalls hscopes hs

/-- A path that is called for twice, and paths that share segments or only characters with it. -/
theorem registry_ofCalls_shared :
    (Registry.ofCalls [("+a:bc", .field), ("a:b", .field), ("+a:bc", .resource)]).get? "+a:bc" =
      some ⟨"+a:bc", .field⟩ ∧
    (∃ segments, Reader.pathOf segments ∈ (Registry.ofCalls
        [("+a:bc", .field), ("a:b", .field), ("+a:bc", .resource)]).paths ∧
      (∀ s ∈ segments, isIdentifier s.toList = true) ∧ ["a"] <+: segments) ∧
    ¬ ∃ segments, Reader.pathOf segments ∈ (Registry.ofCalls
        [("+a:bc", .field), ("a:b", .field), ("+a:bc", .resource)]).paths ∧
      (∀ s ∈ segments, isIdentifier s.toList = true) ∧ ["a", "b"] <+: segments := by
  obtain ⟨-, -, hget, -, hmatch, -⟩ := registry_ofCalls
    [("+a:bc", .field), ("a:b", .field), ("+a:bc", .resource)] "+a:bc" .field
  refine ⟨(hget _).2 ⟨isPath_iff.1 (by decide), rfl, [], _, rfl, by simp⟩, ?_, ?_⟩
  · exact (hmatch ["a"] (by simp) (by decide)).1 (by decide)
  · rw [← hmatch ["a", "b"] (by simp) (by decide)]
    decide

end ManifestMarkers
