import ManifestMarkers.Proofs.ArgumentSchema
import ManifestMarkers.Proofs.MarkerHeaders

/-!
# Reading arguments

The reader decides one argument after the other, and still the outcome is that of the schema on all
of them.

* `Given.stream` has the lexemes of a marker with arguments.
* `Reader.OpenMarker.give?` is what the reader makes of one argument, and `Reader.Leads` says so for
  its lexemes, whether the argument is taken or not.
* `Reader.foldlM_give?_eq_some_iff` is the run over all arguments: the open marker always has what
  has been given so far (`Reader.opened`).
* `readMarkers_given`: the marker is delivered exactly if the schema accepts its arguments.
-/

namespace ManifestMarkers

/-! ### Lexemes -/

namespace Given

/-- The lexeme of a single value. -/
def Scalar.content (s : Scalar) : Lexeme.Kind × String := (s.kind, s.text)

/-- The lexemes of the elements of a slice behind its opening brace. -/
def itemContents : List Scalar → List (Lexeme.Kind × String)
  | [] => [(.sliceEnd, "\x7d")]
  | [s] => [s.content, (.sliceEnd, "\x7d")]
  | s :: t :: items => s.content :: (.sliceDelimiter, ",") :: itemContents (t :: items)

/-- The lexemes of a value. -/
def Value.contents : Value → List (Lexeme.Kind × String)
  | .scalar s => [s.content]
  | .slice items => (.sliceBegin, "\x7b") :: itemContents items

/-- The lexemes of an argument. -/
def contents (a : Given) : List (Lexeme.Kind × String) := (.arg, a.name) :: a.value.contents

/-- The lexemes of a marker, with a separator behind every scope. -/
def stream (scopes : List String) (args : List Given) : List (Lexeme.Kind × String) :=
  (.markerStart, "+") :: (Lexeme.Reading.segmentContents (scopes.map String.toList) ++
    (args.flatMap contents ++ [(.markerEnd, "\n"), (.eof, "")]))

end Given

namespace Reader

/-- The reader takes a single value for what it stands for, or for nothing. -/
theorem toOption_scalar (s : Given.Scalar) (name : String) (kind : ArgKind) (p : Point) :
    (scalar name kind ⟨s.kind, s.text, p⟩).toOption = s.literal? kind := by
  obtain ⟨k, text, hk⟩ := s
  -- the other kinds of lexemes are no single values
  cases k <;> simp only [Lexeme.Kind.isScalar, Bool.false_eq_true] at hk
  · cases kind <;> rfl
  · cases h : integer? text <;>
      cases kind <;> simp [scalar, naturalLiteral, Given.Scalar.literal?, h, Except.toOption]
  · cases kind <;> rfl

theorem scalar_of_some {s : Given.Scalar} {kind : ArgKind} {literal : Literal}
    (h : s.literal? kind = some literal) (name : String) (p : Point) :
    scalar name kind ⟨s.kind, s.text, p⟩ = .ok literal := by
  rw [← toOption_scalar s name kind p] at h
  cases hs : scalar name kind ⟨s.kind, s.text, p⟩ <;> rw [hs] at h <;> cases h
  rfl

theorem scalar_of_none {s : Given.Scalar} {kind : ArgKind} (h : s.literal? kind = none)
    (name : String) (p : Point) : ∃ e, scalar name kind ⟨s.kind, s.text, p⟩ = .error e := by
  rw [← toOption_scalar s name kind p] at h
  cases hs : scalar name kind ⟨s.kind, s.text, p⟩ with
  | ok literal => rw [hs] at h; cases h
  | error e => exact ⟨e, rfl⟩

/-! ### Steps of the reader -/

section

variable {registry : Registry} {mode middle : Mode} {ks ks' : List (Lexeme.Kind × String)}
  {next? : Option Mode}

/-- Lexemes of the given kinds and values lead to the next mode, if there is one, and to a fault
otherwise. -/
def Leads (registry : Registry) (mode : Mode) (ks : List (Lexeme.Kind × String)) :
    Option Mode → Prop
  | some next => Takes registry mode ks next
  | none => ∀ es : List Lexeme, es.map Lexeme.content = ks → ∃ f, Stops registry mode es [] f

theorem leads_nil : Leads registry mode [] (some mode) := takes_nil

/-- One lexeme, then what the mode it goes on in leads to. -/
theorem leads_cons {k : Lexeme.Kind} {v : String} (hk : k.isTerminal = false)
    (h : ∀ p, (∃ middle, step registry mode ⟨k, v, p⟩ = .go none middle ∧
      Leads registry middle ks next?) ∨
      next? = none ∧ ∃ f, step registry mode ⟨k, v, p⟩ = .stop f) :
    Leads registry mode ((k, v) :: ks) next? := by
  cases next? with
  | some next =>
    refine takes_cons hk fun p => ?_
    rcases h p with hgo | ⟨hnone, -⟩
    · exact hgo
    · cases hnone
  | none =>
    intro es hes
    obtain ⟨⟨k', v', p⟩, es, rfl, hl, htail⟩ := List.map_eq_cons_iff.1 hes
    obtain ⟨rfl, rfl⟩ := Prod.mk.inj hl
    rcases h p with ⟨middle, hstep, hmiddle⟩ | ⟨-, f, hstep⟩
    · obtain ⟨f, hf⟩ := hmiddle es htail
      refine ⟨f, fun ls => ?_⟩
      rw [List.cons_append, run_cons_of_go hk hstep, hf]
      rfl
    · exact ⟨f, fun ls => run_cons_of_stop hstep _⟩

theorem leads_append (h : Leads registry mode ks (some middle))
    (h' : Leads registry middle ks' next?) : Leads registry mode (ks ++ ks') next? := by
  cases next? with
  | some next => exact takes_append h h'
  | none =>
    intro es hes
    obtain ⟨es, es', rfl, hes, hes'⟩ := List.map_eq_append_iff.1 hes
    obtain ⟨f, hf⟩ := h' es' hes'
    refine ⟨f, fun ls => ?_⟩
    rw [List.append_assoc, h es hes, hf]
    rfl

/-- Nothing behind a fault matters. -/
theorem leads_append_none (h : Leads registry mode ks none) :
    Leads registry mode (ks ++ ks') none := by
  intro es hes
  obtain ⟨es, es', rfl, hes, -⟩ := List.map_eq_append_iff.1 hes
  obtain ⟨f, hf⟩ := h es hes
  refine ⟨f, fun ls => ?_⟩
  rw [List.append_assoc, hf]

end

/-! ### One argument -/

/-- The open marker with the argument `spec` set, if it can be set. -/
def OpenMarker.set? (m : OpenMarker) (spec : ArgSpec) (literal : Literal) : Option OpenMarker :=
  (m.marker.setArg spec.name literal).toOption.map (m.withArg spec.name)

/-- The open marker with one more argument, if it can be taken. -/
def OpenMarker.give? (m : OpenMarker) (a : Given) : Option OpenMarker :=
  (a.spec? m.definition.variant).bind fun spec =>
    if spec.name ∈ m.seen then none else (a.value.literal? spec.kind).bind (m.set? spec)

section

variable {registry : Registry} {mode : Mode} {m : OpenMarker} {spec : ArgSpec}

/-- The lexeme that completes an argument. -/
theorem leads_endArg {k : Lexeme.Kind} {v : String} (hk : k.isTerminal = false) (literal : Literal)
    (h : ∀ p, step registry mode ⟨k, v, p⟩ = endArg m spec literal) :
    Leads registry mode [(k, v)] ((m.set? spec literal).map .argument) := by
  refine leads_cons hk fun p => ?_
  rw [h p]
  unfold endArg OpenMarker.set?
  cases m.marker.setArg spec.name literal with
  | ok marker => exact .inl ⟨_, rfl, leads_nil⟩
  | error e => exact .inr ⟨rfl, e, rfl⟩

theorem leads_scalar (s : Given.Scalar) (named : Point) :
    Leads registry (.value m spec named) [s.content]
      (((s.literal? spec.kind).bind (m.set? spec)).map .argument) := by
  have hk := isTerminal_eq_false_of_isScalar s.isScalar
  cases hs : s.literal? spec.kind with
  | some literal =>
    refine leads_endArg hk literal fun p => ?_
    rw [step_value_scalar s.isScalar, scalar_of_some hs]
  | none =>
    refine leads_cons hk fun p => .inr ⟨rfl, ?_⟩
    obtain ⟨e, he⟩ := scalar_of_none hs spec.name p
    rw [step_value_scalar s.isScalar, he]
    exact ⟨e, rfl⟩

variable {element : ArgKind} {start : Lexeme} {before : List Literal}

/-- An element of a slice, then what stands behind it. -/
theorem leads_item (s : Given.Scalar) {ks : List (Lexeme.Kind × String)}
    {next? : Literal → Option Mode}
    (h : ∀ literal, Leads registry (.slice m spec element start (before ++ [literal])) ks
      (next? literal)) :
    Leads registry (.slice m spec element start before) (s.content :: ks)
      ((s.literal? element).bind next?) := by
  have hk := isTerminal_eq_false_of_isScalar s.isScalar
  cases hs : s.literal? element with
  | some literal =>
    refine leads_cons hk fun p => .inl ⟨_, ?_, h literal⟩
    rw [step_slice_scalar s.isScalar, scalar_of_some hs]
  | none =>
    refine leads_cons hk fun p => .inr ⟨rfl, ?_⟩
    obtain ⟨e, he⟩ := scalar_of_none hs spec.name p
    rw [step_slice_scalar s.isScalar, he]
    exact ⟨e, rfl⟩

/-- The elements of a slice up to its end. -/
theorem leads_items (registry : Registry) (m : OpenMarker) (spec : ArgSpec) (element : ArgKind)
    (start : Lexeme) (before : List Literal) (items : List Given.Scalar) :
    Leads registry (.slice m spec element start before) (Given.itemContents items)
      (((items.mapM fun s => Given.Scalar.literal? s element).bind fun literals =>
        m.set? spec (.slice (before ++ literals))).map .argument) := by
  fun_induction Given.itemContents items generalizing before with
  | case1 =>
    rw [List.mapM_nil]
    exact leads_endArg rfl _ fun p => by rw [List.append_nil]; rfl
  | case2 s =>
    have hend (literal : Literal) :
        Leads registry (.slice m spec element start (before ++ [literal])) [(.sliceEnd, "\x7d")]
          ((m.set? spec (.slice (before ++ [literal]))).map .argument) :=
      leads_endArg rfl _ fun p => rfl
    have hitem := leads_item s hend
    cases hs : s.literal? element <;> simpa [hs] using hitem
  | case3 s t items ih =>
    have hrest (literal : Literal) :
        Leads registry (.slice m spec element start (before ++ [literal]))
          ((.sliceDelimiter, ",") :: Given.itemContents (t :: items))
          ((((t :: items).mapM fun s => Given.Scalar.literal? s element).bind fun literals =>
            m.set? spec (.slice (before ++ [literal] ++ literals))).map .argument) :=
      leads_cons rfl fun p => .inl ⟨_, rfl, ih _⟩
    have hitem := leads_item s hrest
    rw [List.mapM_cons]
    cases hs : s.literal? element with
    | none => simpa [hs] using hitem
    | some literal => simpa [hs, Option.bind_assoc] using hitem

theorem leads_value (value : Given.Value) (named : Point) :
    Leads registry (.value m spec named) value.contents
      (((value.literal? spec.kind).bind (m.set? spec)).map .argument) := by
  cases value with
  | scalar s => exact leads_scalar s named
  | slice items =>
    refine leads_cons rfl fun p => ?_
    cases he : spec.kind.element? with
    | none =>
      refine .inr ⟨?_, ?_⟩
      · simp [Given.Value.literal?, he]
      · simp only [step, he]
        exact ⟨_, rfl⟩
    | some element =>
      refine .inl ⟨.slice m spec element ⟨.sliceBegin, "\x7b", p⟩ [], ?_, ?_⟩
      · simp only [step, he]
      · have hitems := leads_items registry m spec element ⟨.sliceBegin, "\x7b", p⟩ [] items
        simpa [Given.Value.literal?, he, Option.bind_map, Function.comp_def] using hitems

/-- One argument is taken, or it is a fault. -/
theorem leads_argument (registry : Registry) (m : OpenMarker) (a : Given) :
    Leads registry (.argument m) a.contents ((m.give? a).map .argument) := by
  refine leads_cons rfl fun p => ?_
  simp only [step, beginArg, OpenMarker.give?]
  cases hspec : a.spec? m.definition.variant with
  | none =>
    have harg : m.definition.arg? a.name = none := hspec
    simp only [harg]
    exact .inr ⟨rfl, _, rfl⟩
  | some spec =>
    have harg : m.definition.arg? a.name = some spec := hspec
    by_cases hseen : spec.name ∈ m.seen
    · simp only [harg, List.contains_iff_mem.2 hseen, if_true, Option.bind_some, hseen]
      exact .inr ⟨rfl, _, rfl⟩
    · have hnot : m.seen.contains spec.name = false := by simpa using hseen
      simp only [harg, hnot, Option.bind_some, hseen, if_false, Bool.false_eq_true]
      exact .inl ⟨_, rfl, leads_value a.value p⟩

/-- The arguments of a marker, one after the other. -/
theorem leads_arguments (registry : Registry) (m : OpenMarker) (args : List Given) :
    Leads registry (.argument m) (args.flatMap Given.contents)
      ((args.foldlM OpenMarker.give? m).map .argument) := by
  induction args generalizing m with
  | nil => exact leads_nil
  | cons a args ih =>
    have harg := leads_argument registry m a
    rw [List.flatMap_cons, List.foldlM_cons]
    cases hm : m.give? a with
    | none =>
      rw [hm] at harg
      exact leads_append_none harg
    | some m' =>
      rw [hm] at harg
      exact leads_append harg (ih m')

end

/-! ### All arguments -/

/-- The open marker at a place, with the arguments given so far. -/
def opened (d : Definition) (position : Point) (args : List Given) : OpenMarker where
  definition := d
  position
  marker := d.variant.ofArgs (Given.literalOf d.variant args)
  seen := Given.names d.variant args

theorem opened_append {d : Definition} (p : Point) {args : List Given} {a : Given} {spec : ArgSpec}
    {literal : Literal} (hspec : a.spec? d.variant = some spec)
    (hnew : spec.name ∉ Given.names d.variant args)
    (hliteral : a.value.literal? spec.kind = some literal) :
    opened d p (args ++ [a]) = (opened d p args).withArg spec.name (d.variant.ofArgs
      (Function.update (Given.literalOf d.variant args) spec.name (some literal))) := by
  simp only [opened, OpenMarker.withArg, Given.names_append hspec,
    Given.literalOf_append hspec hnew hliteral]

variable {d : Definition} {p : Point} {args : List Given} {m : OpenMarker}

theorem set?_opened_iff {spec : ArgSpec} (hspec : spec ∈ d.variant.args) {literal : Literal} :
    (opened d p args).set? spec literal = some m ↔
      (spec.name = "type" → FieldType.IsKeyword literal.text) ∧
        m = (opened d p args).withArg spec.name (d.variant.ofArgs
          (Function.update (Given.literalOf d.variant args) spec.name (some literal))) := by
  unfold OpenMarker.set?
  by_cases hkeyword : spec.name = "type" → FieldType.IsKeyword literal.text
  · have hset : (opened d p args).marker.setArg spec.name literal = .ok _ :=
      Variant.setArg_ofArgs hspec hkeyword
    rw [hset, and_iff_right hkeyword, Except.toOption, Option.map_some, Option.some.injEq, eq_comm]
  · cases h : (opened d p args).marker.setArg spec.name literal with
    | ok marker =>
      refine absurd (fun hname => ?_) hkeyword
      rw [hname] at h
      exact Marker.isKeyword_of_setArg h
    | error e => simp only [Except.toOption, Option.map_none, reduceCtorEq, hkeyword, false_and]

theorem give?_opened_iff {a : Given} : (opened d p args).give? a = some m ↔
    (∃ spec literal, a.spec? d.variant = some spec ∧ spec.name ∉ Given.names d.variant args ∧
      a.value.literal? spec.kind = some literal ∧
      (spec.name = "type" → FieldType.IsKeyword literal.text)) ∧
      m = opened d p (args ++ [a]) := by
  unfold OpenMarker.give?
  rw [Option.bind_eq_some_iff]
  constructor
  · rintro ⟨spec, hspec, h⟩
    split at h
    · cases h
    · next hnew =>
      obtain ⟨literal, hliteral, hset⟩ := Option.bind_eq_some_iff.1 h
      obtain ⟨hkeyword, rfl⟩ := (set?_opened_iff (Given.spec?_eq_some_iff.1 hspec).1).1 hset
      exact ⟨⟨spec, literal, hspec, hnew, hliteral, hkeyword⟩,
        (opened_append p hspec hnew hliteral).symm⟩
  · rintro ⟨⟨spec, literal, hspec, hnew, hliteral, hkeyword⟩, rfl⟩
    refine ⟨spec, hspec, (if_neg hnew).trans ?_⟩
    rw [hliteral, Option.bind_some, set?_opened_iff (Given.spec?_eq_some_iff.1 hspec).1]
    exact ⟨hkeyword, opened_append p hspec hnew hliteral⟩

/-- The reader takes a list of arguments if it can take each of them, and then it has them all. -/
theorem foldlM_give?_eq_some_iff :
    args.foldlM OpenMarker.give? (opened d p []) = some m ↔
      Given.Readable d.variant args ∧ m = opened d p args := by
  -- the last argument is checked against all the others
  induction args using List.reverseRecOn generalizing m with
  | nil =>
    rw [List.foldlM_nil]
    constructor
    · intro h
      exact ⟨Given.readable_nil d.variant, (Option.some.inj h).symm⟩
    · rintro ⟨-, rfl⟩
      rfl
  | append_singleton args a ih =>
    rw [List.foldlM_append]
    simp only [List.foldlM_cons, List.foldlM_nil, bind_pure, Option.bind_eq_bind,
      Option.bind_eq_some_iff]
    rw [Given.readable_append_iff]
    constructor
    · rintro ⟨m', hm', hm⟩
      obtain ⟨hargs, rfl⟩ := ih.1 hm'
      obtain ⟨hlast, rfl⟩ := give?_opened_iff.1 hm
      exact ⟨⟨hargs, hlast⟩, rfl⟩
    · rintro ⟨⟨hargs, hlast⟩, rfl⟩
      exact ⟨_, ih.2 ⟨hargs, rfl⟩, give?_opened_iff.2 ⟨hlast, rfl⟩⟩

variable {registry : Registry}

/-- Closing a marker with all its arguments is the rest of the schema. -/
theorem close_opened_iff (h : Given.Readable d.variant args) {found : FoundMarker} :
    close (opened d p args) = .ok found ↔ Given.Accepts d.variant args ∧
      found = ⟨d.path, (d.variant.ofArgs (Given.literalOf d.variant args)).settle, p⟩ := by
  have hmissing : (d.variant.args.find? fun s =>
      !s.isOptional && !(Given.names d.variant args).contains s.name) = none ↔
        ∀ spec ∈ d.variant.args, spec.isOptional = false →
          spec.name ∈ Given.names d.variant args := by
    simp [List.find?_eq_none]
  rw [Given.accepts_iff, and_iff_right h, ← hmissing]
  simp only [close, opened]
  cases hfind : d.variant.args.find? fun s =>
      !s.isOptional && !(Given.names d.variant args).contains s.name with
  | some missing => simp
  | none =>
    have htype := Given.exists_type h (hmissing.1 hfind)
    have hchecks := Variant.validate_ofArgs_iff htype
    rw [and_iff_right rfl]
    cases hv : (d.variant.ofArgs (Given.literalOf d.variant args)).validate p with
    | mk marker fault =>
      cases fault with
      | none =>
        obtain ⟨hpasses, rfl⟩ := (hchecks _ p).1 hv
        simp [hpasses, eq_comm]
      | some e =>
        have hpasses : ¬ d.variant.Passes (Given.literalOf d.variant args) := by
          intro hpasses
          rw [(hchecks _ p).2 ⟨hpasses, rfl⟩] at hv
          cases hv
        simp [hpasses]

theorem opened_nil (d : Definition) (p : Point) :
    opened d p [] = { definition := d, position := p, marker := d.variant.zero } := by
  obtain ⟨path, v⟩ := d
  cases v <;> rfl

/-- The end of a marker closes it. -/
theorem run_argument_end {m : OpenMarker} {ls : List Lexeme}
    (hls : ls.map Lexeme.content = [(.markerEnd, "\n"), (.eof, "")]) :
    run registry (.argument m) ls = match close m with
      | .ok found => [.marker found]
      | .error e => [.fault e] := by
  obtain ⟨l, ls, rfl, hl, hls⟩ := List.map_eq_cons_iff.1 hls
  obtain ⟨l', rfl, hl'⟩ := List.map_eq_singleton_iff.1 hls
  have hk : l.kind = .markerEnd := congrArg Prod.fst hl
  have hk' : l'.kind = .eof := congrArg Prod.fst hl'
  cases h : close m <;>
    simp [run, step, closed, hk, hk', h, Lexeme.Kind.isTerminal]

/-- A marker without arguments is none. -/
theorem run_header_end {position : Point} {scopes : List String} {ls : List Lexeme}
    (hls : ls.map Lexeme.content = [(.markerEnd, "\n"), (.eof, "")]) :
    run registry (.header position scopes) ls = [.noMatch (pathOf scopes) position] := by
  obtain ⟨l, ls, rfl, hl, hls⟩ := List.map_eq_cons_iff.1 hls
  obtain ⟨l', rfl, hl'⟩ := List.map_eq_singleton_iff.1 hls
  have hk : l.kind = .markerEnd := congrArg Prod.fst hl
  have hk' : l'.kind = .eof := congrArg Prod.fst hl'
  simp [run, step, hk, hk', Lexeme.Kind.isTerminal]

/-- The arguments of a marker begin behind its scopes. -/
theorem run_header_opened {scopes : List String} (hd : registry.get? (pathOf scopes) = some d)
    {a : Given} {ks : List (Lexeme.Kind × String)} {ls : List Lexeme}
    (hls : ls.map Lexeme.content = (a :: args).flatMap Given.contents ++ ks) :
    run registry (.header p scopes) ls = run registry (.argument (opened d p [])) ls := by
  obtain ⟨l, ls, rfl, hl, -⟩ := List.map_eq_cons_iff.1 hls
  rw [run_header_arg hd (congrArg Prod.fst hl), opened_nil]

/-- The arguments of a marker up to its end. -/
theorem run_arguments (registry : Registry) (p : Point) {ls : List Lexeme}
    (hls : ls.map Lexeme.content =
      args.flatMap Given.contents ++ [(.markerEnd, "\n"), (.eof, "")]) :
    (Given.Accepts d.variant args ∧ run registry (.argument (opened d p [])) ls = [.marker ⟨d.path,
      (d.variant.ofArgs (Given.literalOf d.variant args)).settle, p⟩]) ∨
    ¬ Given.Accepts d.variant args ∧
      ∃ f, run registry (.argument (opened d p [])) ls = [.fault f] := by
  obtain ⟨es, ls, rfl, hes, hls⟩ := List.map_eq_append_iff.1 hls
  have hleads := leads_arguments registry (opened d p []) args
  cases hm : args.foldlM OpenMarker.give? (opened d p []) with
  | none =>
    rw [hm] at hleads
    obtain ⟨f, hf⟩ := hleads es hes
    refine .inr ⟨fun haccepts => ?_, f, hf ls⟩
    have hsome := foldlM_give?_eq_some_iff (p := p).2 ⟨(Given.accepts_iff.1 haccepts).1, rfl⟩
    rw [hm] at hsome
    cases hsome
  | some m =>
    rw [hm] at hleads
    obtain ⟨hreadable, rfl⟩ := foldlM_give?_eq_some_iff.1 hm
    have hrun := (hleads es hes ls).trans (congrArg _ (run_argument_end hls))
    cases hclose : close (opened d p args) with
    | ok found =>
      obtain ⟨haccepts, rfl⟩ := (close_opened_iff hreadable).1 hclose
      rw [hclose] at hrun
      exact .inl ⟨haccepts, hrun⟩
    | error e =>
      rw [hclose] at hrun
      refine .inr ⟨fun haccepts => ?_, e, hrun⟩
      have hok := (close_opened_iff (p := p) hreadable).2 ⟨haccepts, rfl⟩
      rw [hclose] at hok
      cases hok

/-- The scopes in front of the arguments. -/
theorem run_scopes (registry : Registry) {scopes : List String} {args : List Given}
    {start : Lexeme} {ls : List Lexeme}
    (hls : (start :: ls).map Lexeme.content = Given.stream scopes args) :
    ∃ ls', ls'.map Lexeme.content = args.flatMap Given.contents ++
        [(.markerEnd, "\n"), (.eof, "")] ∧
      readMarkers registry (start :: ls) = run registry (.header start.position scopes) ls' := by
  obtain ⟨hstart, hls⟩ := List.cons.inj hls
  obtain ⟨es, ls', rfl, hes, hls'⟩ := List.map_eq_append_iff.1 hls
  have hkind : start.kind = .markerStart := congrArg Prod.fst hstart
  have hscopes := @takes_segments registry start.position [] (scopes.map String.toList) es hes ls'
  refine ⟨ls', hls', ?_⟩
  have hidle : step registry .idle start = .go none (.header start.position []) := by
    simp only [step, hkind]
  rw [readMarkers, run_cons_of_go (by rw [hkind]; rfl) hidle, hscopes]
  simp [Function.comp_def]

end Reader

section

variable {registry : Registry} {scopes : List String} {d : Definition} {args : List Given}
  {start : Lexeme} {ls : List Lexeme}

/-- The reader delivers the marker of arguments that the schema accepts, and no other one. -/
theorem readMarkers_stream (hd : registry.get? (Reader.pathOf scopes) = some d)
    (hls : (start :: ls).map Lexeme.content = Given.stream scopes args) :
    (Given.Accepts d.variant args ∧ readMarkers registry (start :: ls) = [.marker ⟨d.path,
      (d.variant.ofArgs (Given.literalOf d.variant args)).settle, start.position⟩]) ∨
    ¬ Given.Accepts d.variant args ∧
      ∀ found, .marker found ∉ readMarkers registry (start :: ls) := by
  obtain ⟨ls', hls', hrun⟩ := Reader.run_scopes registry hls
  rw [hrun]
  cases args with
  | nil =>
    refine .inr ⟨Given.not_accepts_nil, fun found hfound => ?_⟩
    rw [Reader.run_header_end hls'] at hfound
    simp at hfound
  | cons a args =>
    rw [Reader.run_header_opened hd hls']
    rcases Reader.run_arguments registry start.position hls' with h | ⟨hnot, f, hf⟩
    · exact .inl h
    · refine .inr ⟨hnot, fun found hfound => ?_⟩
      rw [hf] at hfound
      simp at hfound

/-- A marker of a registered path is delivered exactly if the schema of its variant accepts its
arguments, and it is the same one in every order of the arguments and however their names are
written. -/
theorem readMarkers_given (hd : registry.get? (Reader.pathOf scopes) = some d)
    (hls : (start :: ls).map Lexeme.content = Given.stream scopes args) :
    ((∃ found, .marker found ∈ readMarkers registry (start :: ls)) ↔
      Given.Accepts d.variant args) ∧
    ∀ found, .marker found ∈ readMarkers registry (start :: ls) →
      found = ⟨d.path, (d.variant.ofArgs (Given.literalOf d.variant args)).settle,
        start.position⟩ ∧
      ∀ (args' : List Given) (start' : Lexeme) (ls' : List Lexeme), Given.Alike args args' →
        (start' :: ls').map Lexeme.content = Given.stream scopes args' →
        readMarkers registry (start' :: ls') =
          [.marker { found with position := start'.position }] := by
  rcases readMarkers_stream hd hls with ⟨haccepts, hread⟩ | ⟨hnot, hread⟩
  · rw [hread]
    refine ⟨⟨fun _ => haccepts, fun _ => ⟨_, List.mem_singleton_self _⟩⟩, fun found hfound => ?_⟩
    obtain rfl := Item.marker.inj (List.mem_singleton.1 hfound)
    refine ⟨rfl, fun args' start' ls' halike hls' => ?_⟩
    obtain ⟨haccepts', hliteral⟩ := Given.accepts_of_alike halike haccepts
    rcases readMarkers_stream hd hls' with ⟨-, hread'⟩ | ⟨hnot', -⟩
    · rw [hread', hliteral]
    · exact absurd haccepts' hnot'
  · refine ⟨⟨fun ⟨found, hfound⟩ => absurd hfound (hread found), fun h => absurd h hnot⟩,
      fun found hfound => absurd hfound (hread found)⟩

end

/-- The lexemes behind the plus sign of a marker, as if they all stood at one place. -/
def Given.lexemes (p : Point) (scopes : List String) (args : List Given) : List Lexeme :=
  (stream scopes args).tail.map fun k => ⟨k.1, k.2, p⟩

theorem Given.content_lexemes (p q : Point) (scopes : List String) (args : List Given) :
    (⟨.markerStart, "+", q⟩ :: lexemes p scopes args).map Lexeme.content = stream scopes args := by
  simp only [lexemes, List.map_cons, List.map_map]
  exact congrArg _ (List.map_id _)

/-- Where one marker is collected, one is read. -/
theorem exists_marker_of_collectItems {items : List Item}
    (h : (collectItems items).toOption.map (·.1.length) = some 1) :
    ∃ found, .marker found ∈ items := by
  cases hcollect : collectItems items with
  | error e => simp [hcollect, Except.toOption] at h
  | ok collected =>
    rw [hcollect] at h
    obtain ⟨found, hfound⟩ := List.length_eq_one_iff.1 (Option.some.inj h)
    exact ⟨found, mem_items_of_collectItems hcollect found (by rw [hfound]; exact .head _)⟩

/-- A default that is a slice of a number and a truth value, for a type that makes text of both; the
other way round, in capital letters and at another place. -/
theorem readMarkers_given_reversed : ∃ found,
    .marker found ∈ readMarkers operatorRegistry (⟨.markerStart, "+", .origin⟩ ::
      Given.lexemes .origin ["operator-builder", "field"]
        [⟨"default", .slice [⟨.integerLiteral, "7", rfl⟩, ⟨.boolLiteral, "true", rfl⟩]⟩,
          ⟨"type", .scalar ⟨.stringLiteral, "[]string", rfl⟩⟩,
          ⟨"name", .scalar ⟨.integerLiteral, "8", rfl⟩⟩]) ∧
      Given.Accepts .field
        [⟨"default", .slice [⟨.integerLiteral, "7", rfl⟩, ⟨.boolLiteral, "true", rfl⟩]⟩,
          ⟨"type", .scalar ⟨.stringLiteral, "[]string", rfl⟩⟩,
          ⟨"name", .scalar ⟨.integerLiteral, "8", rfl⟩⟩] ∧
      readMarkers operatorRegistry (⟨.markerStart, "+", ⟨3, 1, 9⟩⟩ ::
        Given.lexemes .origin ["operator-builder", "field"]
          [⟨"NAME", .scalar ⟨.integerLiteral, "8", rfl⟩⟩,
            ⟨"TYPE", .scalar ⟨.stringLiteral, "[]string", rfl⟩⟩,
            ⟨"DEFAULT", .slice [⟨.integerLiteral, "7", rfl⟩, ⟨.boolLiteral, "true", rfl⟩]⟩]) =
        [.marker { found with position := ⟨3, 1, 9⟩ }] := by
  have hcount : (collectItems (readMarkers operatorRegistry (⟨.markerStart, "+", .origin⟩ ::
      Given.lexemes .origin ["operator-builder", "field"]
        [⟨"default", .slice [⟨.integerLiteral, "7", rfl⟩, ⟨.boolLiteral, "true", rfl⟩]⟩,
          ⟨"type", .scalar ⟨.stringLiteral, "[]string", rfl⟩⟩,
          ⟨"name", .scalar ⟨.integerLiteral, "8", rfl⟩⟩]))).toOption.map (·.1.length) = some 1 := by
    decide
  obtain ⟨found, hitem⟩ := exists_marker_of_collectItems hcount
  have hd : operatorRegistry.get? (Reader.pathOf ["operator-builder", "field"]) =
      some ⟨fieldPath, .field⟩ := by decide
  obtain ⟨haccepts, hfound⟩ := readMarkers_given hd (Given.content_lexemes _ _ _ _)
  refine ⟨found, hitem, haccepts.1 ⟨found, hitem⟩,
    (hfound found hitem).2 _ _ _ ?_ (Given.content_lexemes _ _ _ _)⟩
  exact ⟨_, (List.reverse_perm _).symm, .cons ⟨by decide, rfl⟩ (.cons ⟨by decide, rfl⟩
    (.cons ⟨by decide, rfl⟩ .nil))⟩

end ManifestMarkers
