import ManifestMarkers.Proofs.MarkerFaults
import ManifestMarkers.Proofs.MarkerHeaders
import ManifestMarkers.Proofs.MarkerSchema
import ManifestMarkers.Proofs.MarkerWriting
import ManifestMarkers.Proofs.RegistryHistory

/-!
# Paths of markers

The registry checks paths character by character, the lexer reads them segment by segment. Both have
the same paths: what the reader reports for some text is what may be defined.

* `isIdentifier_of_mem_lex` and `Reader.isSpelled_of_reach`: the scopes of a header are identifiers,
  so every path that is reported is well formed.
* `Lexeme.lexChars_flag`: a well-formed path with an identifier behind it is read as a header.
* `Reader.exists_text_of_get?`: every definition has a marker.
* `paths_agree` is all of it together.
-/

namespace ManifestMarkers

/-! ### Scopes are identifiers -/

theorem isIdentifier_append {segment : List Char} {c : Char} (h : isIdentifier segment = true)
    (hc : Lexeme.isIdentChar c = true) : isIdentifier (segment ++ [c]) = true := by
  cases segment with
  | nil => cases h
  | cons d ds =>
    obtain ⟨hd, hds⟩ := Bool.and_eq_true_iff.1 h
    simp [isIdentifier, hd, hc, -List.all_eq_true, hds]

/-- The scope segments at the start of a text are identifiers. -/
theorem isIdentifier_of_mem_scopesFrom {segment cs : List Char}
    (h : segment = [] ∨ isIdentifier segment = true) :
    ∀ s ∈ scopesFrom segment cs, isIdentifier s.toList = true := by
  fun_induction scopesFrom segment cs with
  | case1 => simp
  | case2 segment c cs hempty hc ih => exact ih (.inr (by simp [isIdentifier, hc]))
  | case3 => simp
  | case4 segment c cs hempty hc ih =>
    have hsegment := h.resolve_left (by simpa using hempty)
    exact ih (.inr (isIdentifier_append hsegment hc))
  | case5 segment cs hempty _ ih =>
    have hsegment := h.resolve_left (by simpa using hempty)
    intro s hs
    rcases List.mem_cons.1 hs with rfl | hs
    · simpa using hsegment
    · exact ih (.inl rfl) s hs
  | case6 => simp

namespace Lexeme

theorem scope_notMem_of_move {m m' : Mode} {ks : List Kind} (h : Move m ks m')
    (hm : ∀ hasScope, m ≠ .header hasScope) : .scope ∉ ks := by
  cases h with
  | scope hasScope | warning | firstArg => exact absurd rfl (hm _)
  | scalar hk | item hk =>
    intro hscope
    obtain rfl := List.mem_singleton.1 hscope
    cases hk
  | _ => decide

/-- The scope lexemes of a run are identifiers. -/
theorem Reading.isIdentifier_of_mem_toEnd (r : Reading) :
    ∀ l ∈ r.toEnd, l.kind = .scope → isIdentifier l.value.toList = true := by
  induction r using stepInduction with
  | halt r e h =>
    rw [toEnd_of_halt h]
    rcases eof_or_error_of_halt h with ⟨-, -, rfl⟩ | ⟨⟨l, rfl, hl, -⟩, -⟩
    · simp
    · simp [hl]
  | go r e n h ih =>
    rw [toEnd_of_go h]
    intro l hl hscope
    rcases List.mem_append.1 hl with hl | hl
    · by_cases hm : ∃ hasScope, r.mode = .header hasScope
      · obtain ⟨hasScope, hm⟩ := hm
        rcases scopes_of_step hm h with ⟨segment, p, q, rfl, -, hrest⟩ | ⟨k, rfl, -, hk⟩
        · have hsegment : isIdentifier segment.toList = true :=
            isIdentifier_of_mem_scopesFrom (.inl rfl) segment (hrest ▸ List.mem_cons_self)
          rcases List.mem_cons.1 hl with rfl | hl
          · exact hsegment
          · obtain rfl := List.mem_singleton.1 hl
            cases hscope
        · obtain rfl := List.mem_singleton.1 hl
          rcases hk with ⟨hk, -⟩ | ⟨hk, -⟩ <;> rw [hscope] at hk <;> cases hk
      · have hmem := List.mem_map_of_mem (f := kind) hl
        rw [hscope] at hmem
        exact absurd hmem (scope_notMem_of_move (steps_of_step h).move (not_exists.1 hm))
    · exact ih l hl hscope

theorem isIdentifier_of_mem_lex {text : String} {l : Lexeme} (h : l ∈ lex text)
    (hl : l.kind = .scope) : isIdentifier l.value.toList = true :=
  (Reading.start text.toList).isIdentifier_of_mem_toEnd l h hl

end Lexeme

/-! ### Paths that are reported -/

/-- The path that an item reports. -/
def Item.path? : Item → Option String
  | .marker found => some found.path
  | .noMatch path _ => some path
  | .warning _ | .fault _ => none

namespace Reader

variable {registry : Registry} {mode m next : Mode} {l : Lexeme} {found : Option Item}
  {path : String} {p : Point}

/-- Whether a marker of the registry is open. -/
def Mode.IsOpen : Mode → Prop
  | .value _ _ _ | .slice _ _ _ _ _ | .argument _ => True
  | _ => False

/-- What a lexeme can do to an open marker. -/
inductive Outcome.Inside : Outcome → Prop
  | stop (f : Fault) : Inside (.stop f)
  | remain {next : Mode} (h : next.IsOpen) : Inside (.go none next)
  | close (found : FoundMarker) : Inside (.go (some (.marker found)) .idle)

theorem inside_beginArg (m : OpenMarker) (l : Lexeme) : (beginArg m l).Inside := by
  unfold beginArg
  split
  · exact .stop _
  · split
    · exact .stop _
    · exact .remain trivial

theorem inside_endArg (m : OpenMarker) (spec : ArgSpec) (value : Literal) :
    (endArg m spec value).Inside := by
  unfold endArg
  split
  · exact .remain trivial
  · exact .stop _

theorem inside_closed (m : OpenMarker) : (closed m).Inside := by
  unfold closed
  split
  · exact .close _
  · exact .stop _

theorem inside_of_step {o : Outcome} (h : step registry mode l = o) (hm : mode.IsOpen) :
    o.Inside := by
  subst h
  cases mode with
  | idle | header | skipping => exact hm.elim
  | value m spec named =>
    by_cases hs : l.kind.isScalar = true
    · rw [step_value_scalar hs]
      split
      · exact inside_endArg ..
      · exact .stop _
    · simp only [step]
      split
      · next hk => exact absurd (by rw [hk]; rfl) hs
      · next hk => exact absurd (by rw [hk]; rfl) hs
      · next hk => exact absurd (by rw [hk]; rfl) hs
      · split
        · exact .remain trivial
        · exact .stop _
      · exact .stop _
      · exact .stop _
  | slice m spec element start items =>
    by_cases hs : l.kind.isScalar = true
    · rw [step_slice_scalar hs]
      split
      · exact .remain trivial
      · exact .stop _
    · simp only [step]
      split
      · exact inside_endArg ..
      · exact .remain trivial
      · next hk => exact absurd (by rw [hk]; rfl) hs
      · next hk => exact absurd (by rw [hk]; rfl) hs
      · next hk => exact absurd (by rw [hk]; rfl) hs
      · exact .stop _
      · exact .stop _
  | argument m =>
    simp only [step]
    split
    · exact inside_beginArg ..
    · exact inside_closed m
    · exact inside_closed m
    · exact .stop _
    · exact .stop _

/-- The path that is read has identifiers so far, and the one that is skipped is well formed. -/
def Mode.IsSpelled : Mode → Prop
  | .header _ scopes => ∀ s ∈ scopes, isIdentifier s.toList = true
  | .skipping _ path => IsWellFormed path
  | _ => True

theorem Mode.IsOpen.isSpelled (h : mode.IsOpen) : mode.IsSpelled := by
  cases mode with
  | idle | header | skipping => exact h.elim
  | value | slice | argument => trivial

theorem isSpelled_of_inside (h : (Outcome.go found next).Inside) : next.IsSpelled := by
  cases h with
  | remain hopen => exact hopen.isSpelled
  | close => trivial

/-- A lexeme that is expected keeps paths spelled. -/
theorem isSpelled_step (hm : mode.IsSpelled) (hl : l.kind ∈ mode.expected)
    (hscope : l.kind = .scope → isIdentifier l.value.toList = true)
    (h : step registry mode l = .go found next) : next.IsSpelled := by
  cases mode with
  | idle =>
    simp only [step] at h
    split at h <;> cases h
    · exact fun s hs => absurd hs List.not_mem_nil
    · trivial
    · trivial
  | header p scopes =>
    simp only [step] at h
    split at h
    · next hk =>
      cases h
      intro s hs
      rcases List.mem_append.1 hs with hs | hs
      · exact hm s hs
      · obtain rfl := List.mem_singleton.1 hs
        exact hscope hk
    · next hk =>
      split at h
      · exact isSpelled_of_inside (h ▸ inside_beginArg ..)
      · cases h
        -- an argument comes behind at least one scope
        have hne : scopes ≠ [] := by
          rintro rfl
          simp [hk, Mode.expected] at hl
        exact ⟨scopes, hne, hm, rfl⟩
    · cases h; trivial
    · split at h <;> cases h
      trivial
    · cases h; trivial
    · cases h; trivial
    · cases h; exact hm
  | skipping p path =>
    simp only [step] at h
    split at h <;> cases h
    · trivial
    · trivial
    · trivial
    · exact hm
  | value | slice | argument => exact isSpelled_of_inside (inside_of_step h trivial)

/-- Along lexemes that are expected paths stay spelled. -/
theorem isSpelled_of_reach {P : Mode → Prop} {before after : List Lexeme}
    (h : Guided registry P mode (before ++ after))
    (hscope : ∀ l ∈ before, l.kind = .scope → isIdentifier l.value.toList = true)
    (hmode : mode.IsSpelled) (hm : reach registry mode before = some m) : m.IsSpelled := by
  induction before generalizing mode with
  | nil => cases hm; exact hmode
  | cons l before ih =>
    obtain ⟨hl, found, next, hs, hnext⟩ := reach_cons_eq_some_iff.1 hm
    obtain ⟨hlscope, hscope⟩ := List.forall_mem_cons.1 hscope
    exact ih (h.2 hl found next hs) hscope (isSpelled_step hmode h.1 hlscope hs) hnext

/-- A path that is not registered is reported where its header breaks off or where its marker has
been skipped. -/
theorem isWellFormed_of_noMatch (hm : mode.IsSpelled) (hl : l.kind ∈ mode.expected)
    (h : (step registry mode l).item? = some (.noMatch path p)) : IsWellFormed path := by
  have hinside {o : Outcome} (ho : o.Inside) : o.item? ≠ some (.noMatch path p) := by
    cases ho <;> simp [Outcome.item?]
  cases mode with
  | idle =>
    simp only [step] at h
    split at h <;> cases h
  | header q scopes =>
    simp only [step] at h
    split at h
    · cases h
    · split at h
      · exact absurd h (hinside (inside_beginArg ..))
      · cases h
    · cases h
    · next hk =>
      split at h <;> cases h
      have hne : scopes ≠ [] := by
        rintro rfl
        simp [hk, Mode.expected] at hl
      exact ⟨scopes, hne, hm, rfl⟩
    · next hk => rw [hk, Mode.expected] at hl; split at hl <;> simp at hl
    · next hk => rw [hk, Mode.expected] at hl; split at hl <;> simp at hl
    · cases h
  | skipping q path' =>
    simp only [step] at h
    split at h <;> cases h <;> exact hm
  | value | slice | argument => exact absurd h (hinside (inside_of_step rfl trivial))

end Reader

/-- Every path that is reported is well formed. -/
theorem isWellFormed_of_mem_readMarkers {registry : Registry} {text path : String} {item : Item}
    (h : item ∈ readMarkers registry (Lexeme.lex text)) (hpath : item.path? = some path) :
    IsWellFormed path := by
  cases item with
  | marker found =>
    cases hpath
    obtain ⟨-, -, -, scopes, hne, hpath, before, after, -, -, rfl⟩ := belongs_of_mem_readMarkers _ h
    exact ⟨_, hne, isIdentifier_of_mem_scopesFrom (.inl rfl), hpath⟩
  | noMatch path' p =>
    cases hpath
    obtain ⟨before, l, after, m, htext, hm, hl, hitem⟩ := Reader.mem_readMarkers_lex h
    have hguided := Reader.guided_lex registry text
    rw [htext] at hguided
    refine Reader.isWellFormed_of_noMatch (Reader.isSpelled_of_reach hguided ?_ trivial hm) hl hitem
    intro k hk
    exact Lexeme.isIdentifier_of_mem_lex (by rw [htext]; exact List.mem_append_left _ hk)
  | warning w | fault f => cases hpath

/-! ### Well-formed paths are read -/

namespace Lexeme

/-- The name of an argument without a value, at the end of the text. -/
theorem Reading.emits_flag {r : Reading} {s : List Char} (hs : isIdentifier s = true)
    (hm : r.mode = .header true) (hr : r.rest = s) :
    r.Emits [(.arg, String.ofList s), (.boolLiteral, "true")] .afterValue [] := by
  cases s with
  | nil => cases hs
  | cons c s =>
    obtain ⟨hc, hs⟩ := by simpa [isIdentifier] using hs
    obtain ⟨htake, hdrop⟩ := span_append (t := []) hs (by simp)
    rw [List.append_nil] at htake hdrop
    have hstep : r.step = (r.skip (c :: s) []).emit
        ⟨.arg, String.ofList (c :: s), r.point⟩ .afterArg := by
      simp [step, hm, readHeader, hr, hc, htake, hdrop]
    refine emits_trans (emits_of_step hstep) fun n hn hrest => ?_
    have hflag : n.step = n.emit ⟨.boolLiteral, "true", n.point⟩ .afterValue := by
      rw [step, hn]
      simp only [skip_rest] at hrest
      simp [readAfterArg, hrest]
    have hemits := emits_of_step hflag
    rwa [show ({ n with mode := .afterValue, last := "true" } : Reading).rest = [] from hrest]
      at hemits

/-- A path with an identifier behind it is read as a header and a flag. -/
theorem lexChars_flag {segments : List (List Char)} (hne : segments ≠ [])
    (hs : ∀ s ∈ segments, isIdentifier s = true) {a : List Char} (ha : isIdentifier a = true) :
    ∃ es p, lexChars ('+' :: (Text.joinWith [':'] segments ++ ':' :: a)) =
        ⟨.markerStart, "+", .origin⟩ :: (es ++ [⟨.markerEnd, "\n", p⟩, ⟨.eof, "", p⟩]) ∧
      es.map content = Reading.segmentContents segments ++
        [(.arg, String.ofList a), (.boolLiteral, "true")] := by
  obtain ⟨c, tail, htail, hc⟩ := Reader.exists_cons_of_segments hne hs
  have hfirst : Text.joinWith [':'] segments ++ ':' :: a = c :: (tail ++ ':' :: a) := by
    rw [htail]
    rfl
  obtain ⟨n, hstart, hn, hnrest⟩ := Reading.toEnd_start hfirst hc
  obtain ⟨es, n', htoEnd, hes, hn', hnrest'⟩ :=
    Reading.emits_trans (Reading.emits_segments hs hne hn hnrest) fun n hn hrest =>
      Reading.emits_flag ha hn hrest
  refine ⟨es, n'.point, ?_, hes⟩
  rw [lexChars_eq_toEnd, hstart, htoEnd, Reading.toEnd_finish hn' hnrest']

end Lexeme

namespace Reader

variable {registry : Registry}

/-- A path that is not registered is reported at the end of its marker. -/
theorem takes_unknown {position : Point} {scopes : List String} {name : String}
    (h : registry.get? (pathOf scopes) = none) :
    Takes registry (.header position scopes) [(.arg, name), (.boolLiteral, "true")]
      (.skipping position (pathOf scopes)) := by
  refine takes_cons rfl fun p => ⟨.skipping position (pathOf scopes), by simp [step, h], ?_⟩
  exact takes_cons rfl fun q => ⟨_, rfl, takes_nil⟩

theorem readMarkers_unknown {segments : List (List Char)} (hne : segments ≠ [])
    (hs : ∀ s ∈ segments, isIdentifier s = true) {a : List Char} (ha : isIdentifier a = true)
    {path : String} (hpath : path.toList = '+' :: Text.joinWith [':'] segments)
    (h : registry.get? path = none) :
    readMarkers registry (Lexeme.lexChars ('+' :: (Text.joinWith [':'] segments ++ ':' :: a))) =
      [.noMatch path .origin] := by
  obtain ⟨es, p, hlex, hes⟩ := Lexeme.lexChars_flag hne hs ha
  have hscopes : pathOf ([] ++ segments.map String.ofList) = path := by
    rw [List.nil_append, pathOf_segments hpath]
  have htakes : Takes registry (.header .origin []) (es.map Lexeme.content)
      (.skipping .origin path) := by
    rw [hes, ← hscopes]
    exact takes_append (takes_segments segments) (takes_unknown (by rw [hscopes, h]))
  rw [hlex, readMarkers, run_cons_of_go rfl rfl, htakes es rfl]
  rfl

/-- A Boolean argument that is given as `true`. -/
theorem argReads_true {m : OpenMarker} {spec : ArgSpec} {marker : Marker} {name : String}
    (hspec : m.definition.arg? name = some spec) (hkind : spec.kind = .bool)
    (hseen : spec.name ∉ m.seen) (hset : m.marker.setArg spec.name (.bool true) = .ok marker) :
    ArgReads registry m name "true".toList (m.withArg spec.name marker) := by
  obtain ⟨k, hlex, hk, hstands⟩ := Literal.lexes_of_writesScalar (.bool true)
  refine ⟨[k], hlex.value, takes_arg hspec hseen fun named => takes_value hk (fun p => ?_) hset⟩
  simp [scalar, hkind, hstands p]

/-! ### Every definition has a marker -/

/-- The name and the type of a field, one after the other. -/
theorem argsRead_leastField {m : OpenMarker} {one two : Marker}
    (hargs : m.definition.variant.args = Field.args) (hseen : m.seen = [])
    (hname : m.marker.setArg "name" (.string "") = .ok one)
    (htype : one.setArg "type" (.string "int") = .ok two) :
    ArgsRead registry m [("name", Lexeme.quote []), ("type", "int".toList)]
      ((m.withArg "name" one).withArg "type" two) := by
  have hlexName := Lexeme.lexesScalar_quote (s := []) (by simp)
  have hlexType := Lexeme.lexesScalar_plain (s := "int".toList)
    (List.all_eq_true.1 (by decide)) (by decide)
  have hspecName : m.definition.arg? "name" = some ⟨"name", .string, false⟩ := by
    rw [Definition.arg?, hargs]
    rfl
  have hspecType : m.definition.arg? "type" = some ⟨"type", .string, false⟩ := by
    rw [Definition.arg?, hargs]
    rfl
  refine .cons (by decide)
    (argReads_of_scalar hlexName rfl hspecName rfl (by simp [hseen]) hname) ?_
  refine .cons (by decide) (argReads_of_scalar hlexType (Lexeme.isScalar_bareKind "int".toList)
    hspecType rfl (by simp [OpenMarker.withArg, hseen]) htype) ?_
  exact .nil _

/-- The value and the inclusion of a resource, one after the other. -/
theorem argsRead_leastResource {m : OpenMarker} {one two : Marker}
    (hargs : m.definition.variant.args = Resource.args) (hseen : m.seen = [])
    (hvalue : m.marker.setArg "value" (.bool true) = .ok one)
    (hinclude : one.setArg "include" (.bool true) = .ok two) :
    ArgsRead registry m [("value", "true".toList), ("include", "true".toList)]
      ((m.withArg "value" one).withArg "include" two) := by
  have hspecValue : m.definition.arg? "value" = some ⟨"value", .any, false⟩ := by
    rw [Definition.arg?, hargs]
    rfl
  have hspecInclude : m.definition.arg? "include" = some ⟨"include", .bool, false⟩ := by
    rw [Definition.arg?, hargs]
    rfl
  refine .cons (by decide) (argReads_of_writes (.scalar (.bool true)) hspecValue rfl
    (by simp [hseen]) hvalue) ?_
  refine .cons (by decide) (argReads_true hspecInclude rfl
    (by simp [OpenMarker.withArg, hseen]) hinclude) ?_
  exact .nil _

theorem exists_argsRead_least (registry : Registry) (d : Definition) : ∃ name cs args m found,
    ArgsRead registry { definition := d, position := .origin, marker := d.variant.zero }
        ((name, cs) :: args) m ∧
      close m = .ok found ∧ found.path = d.path ∧ found.marker.variant = d.variant := by
  obtain ⟨path, variant⟩ := d
  cases variant with
  | field => exact ⟨_, _, _, _, _, argsRead_leastField rfl rfl rfl rfl, rfl, rfl, rfl⟩
  | collectionField => exact ⟨_, _, _, _, _, argsRead_leastField rfl rfl rfl rfl, rfl, rfl, rfl⟩
  | resource => exact ⟨_, _, _, _, _, argsRead_leastResource rfl rfl rfl rfl, rfl, rfl, rfl⟩

/-- A definition that can be looked up has a marker. -/
theorem exists_text_of_get? {d : Definition} (hpath : isPath d.path = true)
    (hd : registry.get? d.path = some d) : ∃ text found,
      .marker found ∈ readMarkers registry (Lexeme.lex text) ∧ found.path = d.path ∧
        found.marker.variant = d.variant := by
  obtain ⟨name, cs, args, m, found, hread, hclose, hfound, hvariant⟩ :=
    exists_argsRead_least registry d
  have hmarkers := readMarkers_of_argsRead hpath hd hread hclose
  refine ⟨String.ofList (d.path.toList ++ ':' :: (name.toList ++ '=' ::
    (cs ++ args.flatMap argText))), found, ?_, hfound, hvariant⟩
  rw [Lexeme.lex, String.toList_ofList, hmarkers]
  exact List.mem_singleton_self _

end Reader

/-- A path may be defined exactly if it is reported for some text, whatever is registered. With an
identifier behind it, it is read as its segments and an argument. A marker resolves to the
definition of the whole path in front of its first argument, and after any calls of a registry every
definition has a marker. -/
theorem paths_agree (registry : Registry) :
    (∀ path, isPath path = true ↔
      ∃ text, ∃ item ∈ readMarkers registry (Lexeme.lex text), item.path? = some path) ∧
    (∀ path, isPath path = true → ∃ segments : List String, segments ≠ [] ∧
      (∀ s ∈ segments, isIdentifier s.toList = true) ∧ path = Reader.pathOf segments ∧
      ∀ a : String, isIdentifier a.toList = true →
        (Lexeme.lex (path ++ ":" ++ a)).map Lexeme.content =
          (.markerStart, "+") :: segments.flatMap (fun s => [(.scope, s), (.separator, ":")]) ++
            [(.arg, a), (.boolLiteral, "true"), (.markerEnd, "\n"), (.eof, "")]) ∧
    (∀ text found, .marker found ∈ readMarkers registry (Lexeme.lex text) →
      headerPathAt? text found.position = some found.path ∧
      ∃ d, registry.get? found.path = some d ∧ d.path = found.path ∧
        d.variant = found.marker.variant) ∧
    ∀ calls d, d ∈ (Registry.ofCalls calls).definitions → ∃ text found,
      .marker found ∈ readMarkers (Registry.ofCalls calls) (Lexeme.lex text) ∧
        found.path = d.path ∧ found.marker.variant = d.variant := by
  refine ⟨fun path => ⟨fun h => ?_, ?_⟩, fun path h => ?_, fun text found h => ?_,
    fun calls d hd => ?_⟩
  · cases hd : registry.get? path with
    | some d =>
      obtain rfl := Registry.path_of_get? hd
      obtain ⟨text, found, hfound, hpath, -⟩ := Reader.exists_text_of_get? h hd
      exact ⟨text, _, hfound, congrArg some hpath⟩
    | none =>
      obtain ⟨segments, hne, hs, hpath⟩ := exists_segments_of_isPath h
      have hread := Reader.readMarkers_unknown hne hs (a := ['a']) (by decide) hpath hd
      refine ⟨String.ofList ('+' :: (Text.joinWith [':'] segments ++ ':' :: ['a'])),
        .noMatch path .origin, ?_, rfl⟩
      rw [Lexeme.lex, String.toList_ofList, hread]
      exact List.mem_singleton_self _
  · rintro ⟨text, item, hitem, hpath⟩
    exact isPath_iff.2 (isWellFormed_of_mem_readMarkers hitem hpath)
  · obtain ⟨segments, hne, hs, rfl⟩ := isPath_iff.1 h
    refine ⟨segments, hne, hs, rfl, fun a ha => ?_⟩
    have hne' : segments.map String.toList ≠ [] := by simpa using hne
    obtain ⟨es, p, hlex, hes⟩ := Lexeme.lexChars_flag hne' (by simpa using hs) ha
    have htext : (Reader.pathOf segments ++ ":" ++ a).toList =
        '+' :: (Text.joinWith [':'] (segments.map String.toList) ++ ':' :: a.toList) := by
      simp [Reader.toList_pathOf]
    rw [Lexeme.lex, htext, hlex]
    simp [hes, Lexeme.content, Lexeme.Reading.segmentContents, List.flatMap_map]
  · obtain ⟨-, -, -, scopes, -, hpath, hheader⟩ := belongs_of_mem_readMarkers _ h
    have hconforms : found.Conforms registry := Reader.conforms_of_run .idle trivial _ _ h
    obtain ⟨d, hd, hvariant⟩ := hconforms.registered
    refine ⟨by rw [hheader.headerPathAt?_eq, hpath], d, hd, Registry.path_of_get? hd, hvariant⟩
  · have hnodup := Registry.nodup_paths_ofCalls calls
    exact Reader.exists_text_of_get? (Registry.isPath_of_mem_ofCalls d hd)
      ((Registry.get?_eq_some_iff hnodup).2 ⟨hd, rfl⟩)

/-- A path that is not registered, text that is no path, and the first definition of a path. -/
theorem paths_agree_operator :
    (∃ text, ∃ item ∈ readMarkers operatorRegistry (Lexeme.lex text),
      item.path? = some "+x:y_2") ∧
    (¬ ∃ text, ∃ item ∈ readMarkers operatorRegistry (Lexeme.lex text),
      item.path? = some "+x:2y") ∧
    ∃ text found, .marker found ∈ readMarkers
        (Registry.ofCalls [("+a:b", .resource), ("+a:b", .field)]) (Lexeme.lex text) ∧
      found.path = "+a:b" ∧ found.marker.variant = .resource := by
  obtain ⟨hiff, -, -, hmarker⟩ := paths_agree operatorRegistry
  refine ⟨(hiff _).1 (by decide), ?_, ?_⟩
  · rw [← hiff]
    decide
  · exact hmarker [("+a:b", .resource), ("+a:b", .field)] ⟨"+a:b", .resource⟩ (by decide)

end ManifestMarkers
