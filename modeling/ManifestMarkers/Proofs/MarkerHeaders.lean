import ManifestMarkers.Proofs.MarkerSteps

/-!
# Headers of markers

The header of a marker is its plus sign and the identifiers behind it, with colons between them. The
path of a header is read off the text: the segments that have a colon behind them, up to the last
identifier or to the place where the header breaks off.

* `headerPathAt?` is the path of the header at a place, and `headerPaths` has those of all markers
  that begin in a text.
* `Reader.Behind` relates the reader to the lexer and to the header of the marker that is read;
  every step keeps it (`Reader.behind_step`), so what is found or reported belongs to a header
  (`Reader.belongs_run`).
* `parseMarkers_foreign`: markers of other tools are never faults.
-/

namespace ManifestMarkers

/-! ### Headers in the text -/

/-- The scope segments at the start of a text: identifiers with a colon behind each. `segment` is
what has been read of the next one. -/
def scopesFrom (segment : List Char) : List Char → List String
  | [] => []
  | c :: cs =>
    if segment.isEmpty then if Lexeme.isIdentStart c then scopesFrom [c] cs else []
    else if Lexeme.isIdentChar c then scopesFrom (segment ++ [c]) cs
    else if c = ':' then String.ofList segment :: scopesFrom [] cs
    else []

/-- The path of the header at a place of a text. -/
def headerPathAt? (text : String) (p : Point) : Option String :=
  (Text.dropBytes? text.toList (p.offset + 1)).map fun cs => Reader.pathOf (scopesFrom [] cs)

/-- The paths of all headers in a text. -/
def headerPaths (text : String) : List String :=
  (Lexeme.lex text).filterMap fun l =>
    if l.kind = .markerStart then headerPathAt? text l.position else none

/-- A header with these scope segments stands in the text at the place `p`. -/
def HeaderAt (text : List Char) (scopes : List String) (p : Point) : Prop :=
  ∃ before after, text = before ++ '+' :: after ∧ p = Point.origin.after before ∧
    scopesFrom [] after = scopes

theorem HeaderAt.headerPathAt?_eq {text : String} {scopes : List String} {p : Point}
    (h : HeaderAt text.toList scopes p) : headerPathAt? text p = some (Reader.pathOf scopes) := by
  obtain ⟨before, after, htext, rfl, rfl⟩ := h
  have hoffset : (Point.origin.after before).offset + 1 = Text.byteSize (before ++ ['+']) := by
    rw [Point.offset_after, Text.byteSize_append]
    simp [Point.origin, Char.utf8Size]
  have hsplit : text.toList = before ++ ['+'] ++ after := by simp [htext]
  rw [headerPathAt?, hoffset, hsplit, Text.dropBytes?_append]
  rfl

theorem mem_headerPaths {text path : String} {l : Lexeme} (hl : l ∈ Lexeme.lex text)
    (hkind : l.kind = .markerStart) (h : headerPathAt? text l.position = some path) :
    path ∈ headerPaths text :=
  List.mem_filterMap.2 ⟨l, hl, by rw [if_pos hkind, h]⟩

/-- A segment that has begun goes on to the next character that is not part of it. -/
theorem scopesFrom_of_ne_nil {segment : List Char} (h : segment ≠ []) (cs : List Char) :
    scopesFrom segment cs = match cs.dropWhile Lexeme.isIdentChar with
      | ':' :: rest =>
        String.ofList (segment ++ cs.takeWhile Lexeme.isIdentChar) :: scopesFrom [] rest
      | _ => [] := by
  induction cs generalizing segment with
  | nil => rfl
  | cons c cs ih =>
    have hempty : segment.isEmpty = false := by simpa using h
    rw [scopesFrom, hempty, List.dropWhile_cons, List.takeWhile_cons]
    by_cases hc : Lexeme.isIdentChar c = true
    · have hgrown : segment ++ [c] ≠ [] := by simp
      simp [hc, ih hgrown]
    · by_cases hcolon : c = ':'
      · subst hcolon
        simp [show Lexeme.isIdentChar ':' = false by decide]
      · simp [hc, hcolon]

theorem scopesFrom_cons {c : Char} (hc : Lexeme.isIdentStart c = true) (cs : List Char) :
    scopesFrom [] (c :: cs) = match cs.dropWhile Lexeme.isIdentChar with
      | ':' :: rest => String.ofList (c :: cs.takeWhile Lexeme.isIdentChar) :: scopesFrom [] rest
      | _ => [] := by
  rw [scopesFrom, if_pos List.isEmpty_nil, if_pos hc, scopesFrom_of_ne_nil (by simp)]
  rfl

namespace Lexeme

namespace Reading

/-- The part of `text` in front of the state has been read. -/
def IsWithin (text : List Char) (r : Reading) : Prop :=
  ∃ before, text = before ++ r.rest ∧ r.point = Point.origin.after before

theorem isWithin_start (text : List Char) : (start text).IsWithin text := ⟨[], rfl, rfl⟩

theorem isWithin_of_step {text : List Char} {r n : Reading} {e : List Lexeme}
    (hr : r.IsWithin text) (h : r.step = .go e n) : n.IsWithin text := by
  obtain ⟨before, htext, hpoint⟩ := hr
  obtain ⟨read, hread, hn⟩ := (steps_of_step h).read
  exact ⟨before ++ read, by simp [htext, hread], by simp [hn, hpoint]⟩

/-- A marker begins at a plus sign: the last lexeme is its start, and only comment signs come
before. -/
theorem markerStart_of_readText {r n : Reading} {e : List Lexeme} (hmode : r.mode = .text)
    (h : r.readText = .go e n) (hn : n.mode = .header false) :
    ∃ before es, r.rest = before ++ '+' :: n.rest ∧ (∀ l ∈ es, l.kind = .comment) ∧
      e = es ++ [⟨.markerStart, "+", r.point.after before⟩] := by
  have hne : r.mode ≠ .header false := by simp [hmode]
  have hcomment {sign : CommentSign} {cs : List Char} (hr : r.rest = sign.chars ++ cs)
      (h : r.readComment sign cs = .go e n) :
      ∃ before es, r.rest = before ++ '+' :: n.rest ∧ (∀ l ∈ es, l.kind = .comment) ∧
        e = es ++ [⟨.markerStart, "+", r.point.after before⟩] := by
    unfold readComment at h
    dsimp only at h
    split at h
    · next c ds hd =>
      split at h
      · cases h
        refine ⟨sign.chars ++ cs.takeWhile isGap, [⟨.comment, sign.text, r.point⟩], ?_, by simp,
          rfl⟩
        have hsplit : cs = cs.takeWhile isGap ++ '+' :: c :: ds := by
          rw [← hd, List.takeWhile_append_dropWhile]
        rw [hr, List.append_assoc]
        exact congrArg (sign.chars ++ ·) hsplit
      · cases h; exact absurd hn hne
    · cases h; exact absurd hn hne
  unfold readText at h
  split at h
  · cases h
  · cases h; exact absurd hn hne
  · next hr => exact hcomment hr h
  · next hr => exact hcomment hr h
  · next hr =>
    split at h
    · cases h; exact ⟨[], [], hr, by simp, rfl⟩
    · cases h; exact absurd hn hne
  · cases h; exact absurd hn hne

/-- A step inside a header reads one segment with its colon, or the header has no more. -/
theorem scopes_of_step {r n : Reading} {hasScope : Bool} {e : List Lexeme}
    (hmode : r.mode = .header hasScope) (h : r.step = .go e n) :
    (∃ segment p q, e = [⟨.scope, segment, p⟩, ⟨.separator, ":", q⟩] ∧ n.mode = .header true ∧
        scopesFrom [] r.rest = segment :: scopesFrom [] n.rest) ∨
      ∃ l, e = [l] ∧ scopesFrom [] r.rest = [] ∧
        (l.kind = .warning ∧ n.mode = .text ∨
          l.kind = .arg ∧ hasScope = true ∧ n.mode = .afterArg) := by
  unfold step at h
  simp only [hmode] at h
  unfold readHeader at h
  split at h
  · cases h
  · next c cs hr =>
    split at h
    · next hc =>
      rw [hr, scopesFrom_cons hc]
      dsimp only at h
      split at h
      · next rest hrest =>
        cases h
        rw [skip_rest] at hrest
        exact .inl ⟨_, _, _, rfl, rfl, by rw [hrest]; rfl⟩
      · next hno =>
        rw [skip_rest] at hno
        refine .inr ?_
        split at h
        · next hs =>
          cases h
          refine ⟨_, rfl, ?_, .inr ⟨rfl, hs, rfl⟩⟩
          split
          · next rest hrest => exact absurd hrest (hno rest)
          · rfl
        · cases h
          refine ⟨_, rfl, ?_, .inl ⟨rfl, rfl⟩⟩
          split
          · next rest hrest => exact absurd hrest (hno rest)
          · rfl
    · cases h

/-- A header breaks off where no identifier follows. -/
theorem scopes_of_halt {r : Reading} {hasScope : Bool} {e : List Lexeme}
    (hmode : r.mode = .header hasScope) (h : r.step = .halt e) : scopesFrom [] r.rest = [] := by
  unfold step at h
  simp only [hmode] at h
  unfold readHeader at h
  split at h
  · next hr => rw [hr]; rfl
  · next c cs hr =>
    split at h
    · dsimp only at h
      split at h
      · cases h
      · split at h <;> cases h
    · next hc => rw [hr, scopesFrom, if_pos List.isEmpty_nil, if_neg hc]

end Reading

/-- A move inside the arguments of a marker emits at most one lexeme, and only the end of the marker
leads out of them. -/
theorem arguments_of_move {m m' : Mode} {ks : List Kind} (h : Move m ks m')
    (hm : m.isArguments = true) :
    ks = [] ∧ m'.isArguments = true ∨
      ∃ k, ks = [k] ∧ k ≠ .markerStart ∧
        (k = .markerEnd ∧ m' = .text ∨ k ≠ .markerEnd ∧ m'.isArguments = true) := by
  cases h with
  | skip | start | startInComment | scope | warning | firstArg => cases hm
  | assign => exact .inl ⟨rfl, rfl⟩
  | finish => exact .inr ⟨_, rfl, by decide, .inl ⟨rfl, rfl⟩⟩
  | scalar hk | item hk =>
    refine .inr ⟨_, rfl, ?_, .inr ⟨?_, rfl⟩⟩ <;> rintro rfl <;> cases hk
  | _ => exact .inr ⟨_, rfl, by decide, .inr ⟨by decide, rfl⟩⟩

end Lexeme

/-! ### The reader -/

/-- The item is no fault; if it is a marker, its path and place have the property `P`. -/
def Item.Tells (P : String → Point → Prop) : Item → Prop
  | .marker found => P found.path found.position
  | .fault _ => False
  | _ => True

namespace Reader

variable {registry : Registry} {P : String → Point → Prop} {mode next : Mode} {l : Lexeme}
  {found : Option Item} {item : Item}

/-- The path and the place of the open marker have the property `P`, and no path is being read. -/
def Mode.Tells (P : String → Point → Prop) : Mode → Prop
  | .idle | .skipping _ _ => True
  | .header _ _ => False
  | .value m _ _ | .slice m _ _ _ _ | .argument m => P m.definition.path m.position

theorem tells_beginArg {m : OpenMarker} (hm : P m.definition.path m.position)
    (h : beginArg m l = .go found next) : (∀ item ∈ found, item.Tells P) ∧ next.Tells P := by
  unfold beginArg at h
  split at h
  · cases h
  · split at h
    · cases h
    · cases h; exact ⟨by simp, hm⟩

theorem tells_endArg {m : OpenMarker} {spec : ArgSpec} {value : Literal}
    (hm : P m.definition.path m.position) (h : endArg m spec value = .go found next) :
    (∀ item ∈ found, item.Tells P) ∧ next.Tells P := by
  unfold endArg at h
  split at h
  · cases h; exact ⟨by simp, hm⟩
  · cases h

/-- A marker that is closed keeps its path and place. -/
theorem tells_close {m : OpenMarker} {f : FoundMarker} (hm : P m.definition.path m.position)
    (h : close m = .ok f) : P f.path f.position := by
  unfold close at h
  split at h
  · cases h
  · split at h
    · cases h; exact hm
    · cases h

theorem tells_closed {m : OpenMarker} (hm : P m.definition.path m.position)
    (h : closed m = .go found next) : (∀ item ∈ found, item.Tells P) ∧ next.Tells P := by
  unfold closed at h
  split at h
  · next f hf =>
    cases h
    refine ⟨fun item hitem => ?_, trivial⟩
    obtain rfl := Option.mem_some_iff.1 hitem
    exact tells_close hm hf
  · cases h

/-- What a lexeme yields outside of paths comes from the open marker. -/
theorem tells_step (hm : mode.Tells P) (hl : mode = .idle → l.kind ≠ .markerStart)
    (h : step registry mode l = .go found next) :
    (∀ item ∈ found, item.Tells P) ∧ next.Tells P := by
  cases mode with
  | idle =>
    simp only [step] at h
    split at h
    · next hk => exact absurd hk (hl rfl)
    · cases h; exact ⟨by simp [Item.Tells], trivial⟩
    · cases h
    · cases h; exact ⟨by simp, trivial⟩
  | header position scopes => exact hm.elim
  | skipping position path =>
    simp only [step] at h
    split at h <;> cases h <;> exact ⟨by simp [Item.Tells], trivial⟩
  | value m spec named =>
    simp only [step] at h
    split at h
    · split at h
      · exact tells_endArg hm h
      · cases h
    · split at h
      · exact tells_endArg hm h
      · cases h
    · split at h
      · exact tells_endArg hm h
      · cases h
    · split at h
      · cases h; exact ⟨by simp, hm⟩
      · cases h
    · cases h
    · cases h
  | slice m spec element start items =>
    simp only [step] at h
    split at h
    · exact tells_endArg hm h
    · cases h; exact ⟨by simp, hm⟩
    · split at h
      · cases h; exact ⟨by simp, hm⟩
      · cases h
    · split at h
      · cases h; exact ⟨by simp, hm⟩
      · cases h
    · split at h
      · cases h; exact ⟨by simp, hm⟩
      · cases h
    · cases h
    · cases h
  | argument m =>
    simp only [step] at h
    split at h
    · exact tells_beginArg hm h
    · exact tells_closed hm h
    · exact tells_closed hm h
    · cases h
    · cases h

/-- Only the end of a marker makes the reader idle again. -/
theorem eq_idle_iff_of_step (hm : mode.Tells P) (hidle : mode ≠ .idle)
    (hl : l.kind.isTerminal = false) (h : step registry mode l = .go found next) :
    next = .idle ↔ l.kind = .markerEnd := by
  have hbegin {m : OpenMarker} (h : beginArg m l = .go found next) : next ≠ .idle := by
    rintro rfl
    cases follows_beginArg h
  have hend {m : OpenMarker} {spec : ArgSpec} {value : Literal}
      (h : endArg m spec value = .go found next) : next ≠ .idle := by
    rintro rfl
    cases follows_endArg h
  cases mode with
  | idle => exact absurd rfl hidle
  | header position scopes => exact hm.elim
  | skipping position path =>
    by_cases hk : l.kind = .markerEnd
    · simp only [step, hk] at h
      cases h
      simp [hk]
    · rw [step_skipping hl hk] at h
      cases h
      simp [hk]
  | value m spec named =>
    simp only [step] at h
    split at h
    · next hk =>
      split at h
      · simp [hk, hend h]
      · cases h
    · next hk =>
      split at h
      · simp [hk, hend h]
      · cases h
    · next hk =>
      split at h
      · simp [hk, hend h]
      · cases h
    · next hk =>
      split at h
      · cases h; simp [hk]
      · cases h
    · cases h
    · cases h
  | slice m spec element start items =>
    simp only [step] at h
    split at h
    · next hk => simp [hk, hend h]
    · next hk => cases h; simp [hk]
    · next hk =>
      split at h
      · cases h; simp [hk]
      · cases h
    · next hk =>
      split at h
      · cases h; simp [hk]
      · cases h
    · next hk =>
      split at h
      · cases h; simp [hk]
      · cases h
    · cases h
    · cases h
  | argument m =>
    simp only [step] at h
    split at h
    · next hk => simp [hk, hbegin h]
    · next hk =>
      cases follows_closed h with
      | idle => simp [hk]
      | skipping hm => cases hm
    · next hk => simp [hk, Lexeme.Kind.isTerminal] at hl
    · cases h
    · cases h

/-- The reader stops only inside a marker of its own. -/
theorem tells_of_stop {f : Fault} (hm : mode.Tells P) (hidle : mode ≠ .idle)
    (h : step registry mode l = .stop f) : ∃ path p, P path p := by
  cases mode with
  | idle => exact absurd rfl hidle
  | header position scopes => exact hm.elim
  | skipping position path =>
    simp only [step] at h
    split at h <;> cases h
  | value m spec named => exact ⟨_, _, hm⟩
  | slice m spec element start items => exact ⟨_, _, hm⟩
  | argument m => exact ⟨_, _, hm⟩

/-! ### The marker that is read -/

theorem passes_single (hl : l.kind.isTerminal = false)
    (h : step registry mode l = .go found next) : Passes registry mode [l] found.toList next :=
  run_cons_of_go hl h

theorem Passes.append {middle : Mode} {es es' : List Lexeme} {items items' : List Item}
    (h : Passes registry mode es items middle) (h' : Passes registry middle es' items' next) :
    Passes registry mode (es ++ es') (items ++ items') next := by
  intro ls
  rw [List.append_assoc, h, h', List.append_assoc]

/-- After the lexemes `done` the reader is inside the marker that began at `p`. -/
def Begun (registry : Registry) (done : List Lexeme) (p : Point) (mode : Mode) : Prop :=
  ∃ before start body, done = before ++ start :: body ∧ start.kind = .markerStart ∧
    start.position = p ∧ (∀ l ∈ body, l.kind ≠ .markerStart) ∧
    (∃ items, Passes registry .idle before items .idle) ∧
    ∃ items, Passes registry .idle (start :: body) items mode

/-- The reader stops with a fault inside the marker of the text that begins at `p`: up to its start
nothing is wrong, and no other marker starts before the fault is reported. -/
def StopsWithin (registry : Registry) (text : String) (p : Point) (f : Fault) : Prop :=
  ∃ before start body rest, Lexeme.lex text = before ++ start :: (body ++ rest) ∧
    start.kind = .markerStart ∧ start.position = p ∧ (∀ l ∈ body, l.kind ≠ .markerStart) ∧
    (∃ items, Passes registry .idle before items .idle) ∧
    ∃ items, Stops registry .idle (start :: body) items f

section

variable {done es ls : List Lexeme} {p : Point} {items : List Item}

theorem Begun.append (h : Begun registry done p mode) (hes : ∀ l ∈ es, l.kind ≠ .markerStart)
    (hpass : Passes registry mode es items next) : Begun registry (done ++ es) p next := by
  obtain ⟨before, start, body, rfl, hstart, hp, hbody, hbefore, items', hitems⟩ := h
  refine ⟨before, start, body ++ es, by simp, hstart, hp, fun l hl => ?_, hbefore, _,
    hitems.append hpass⟩
  rcases List.mem_append.1 hl with hl | hl
  · exact hbody l hl
  · exact hes l hl

theorem Begun.passes (h : Begun registry done p mode) :
    ∃ items, Passes registry .idle done items mode := by
  obtain ⟨before, start, body, rfl, -, -, -, ⟨items, hbefore⟩, items', hitems⟩ := h
  exact ⟨_, hbefore.append hitems⟩

theorem Begun.stopsWithin {text : String} {f : Fault} (h : Begun registry done p mode)
    (hl : l.kind ≠ .markerStart) (hlex : Lexeme.lex text = done ++ l :: ls)
    (hs : step registry mode l = .stop f) : StopsWithin registry text p f := by
  obtain ⟨before, start, body, rfl, hstart, hp, hbody, hbefore, items, hitems⟩ := h
  refine ⟨before, start, body ++ [l], ls, by simp [hlex], hstart, hp, fun k hk => ?_, hbefore,
    items, fun ls => ?_⟩
  · rcases List.mem_append.1 hk with hk | hk
    · exact hbody k hk
    · rwa [List.mem_singleton.1 hk]
  · have hrun := hitems (l :: ls)
    rw [run_cons_of_stop hs] at hrun
    simpa using hrun

/-- The header of the marker that is read. -/
theorem Begun.mem_headerPaths {text path : String} (h : Begun registry done p mode)
    (hlex : Lexeme.lex text = done ++ ls) (hpath : headerPathAt? text p = some path) :
    path ∈ headerPaths text := by
  obtain ⟨before, start, body, rfl, hstart, rfl, -⟩ := h
  exact ManifestMarkers.mem_headerPaths (by simp [hlex]) hstart hpath

end

/-- The header of a marker that is at fault is one of the text. -/
theorem StopsWithin.mem_headerPaths {text path : String} {p : Point} {f : Fault}
    (h : StopsWithin registry text p f) (hpath : headerPathAt? text p = some path) :
    path ∈ headerPaths text := by
  obtain ⟨before, start, body, rest, hlex, hstart, rfl, -⟩ := h
  exact ManifestMarkers.mem_headerPaths (by simp [hlex]) hstart hpath

/-- The path is registered and that of the header at `p`, where the marker begins. -/
def IsOwn (registry : Registry) (text : List Char) (p : Point) (path : String) (q : Point) : Prop :=
  q = p ∧ path ∈ registry.paths ∧
    ∃ scopes, scopes ≠ [] ∧ path = pathOf scopes ∧ HeaderAt text scopes q

end Reader

/-- What is found has the path of its header, and what is reported belongs to a header whose path
could match. -/
def Item.Belongs (registry : Registry) (text : String) : Item → Prop
  | .marker found => found.path ∈ headerPaths text ∧
    Reader.IsOwn registry text.toList found.position found.path found.position
  | .fault f => ∃ p path, Reader.StopsWithin registry text p f ∧
    headerPathAt? text p = some path ∧ registry.couldMatch path = true
  | _ => True

namespace Reader

/-- The reader behind the lexer, after the lexemes `done`. -/
inductive Behind (registry : Registry) (text : List Char) (done : List Lexeme)
    (r : Lexeme.Reading) : Mode → Prop
  | idle (hm : r.mode = .text) (h : ∃ items, Passes registry .idle done items .idle) :
      Behind registry text done r .idle
  | header {before after : List Char} {scopes : List String}
      (hm : r.mode = .header !scopes.isEmpty) (htext : text = before ++ '+' :: after)
      (hscopes : scopesFrom [] after = scopes ++ scopesFrom [] r.rest)
      (h : Begun registry done (Point.origin.after before)
        (.header (Point.origin.after before) scopes)) :
      Behind registry text done r (.header (Point.origin.after before) scopes)
  | inside {mode : Mode} {p : Point} (hm : r.mode.isArguments = true) (hidle : mode ≠ .idle)
      (hown : mode.Tells (IsOwn registry text p)) (h : Begun registry done p mode) :
      Behind registry text done r mode

section

variable {registry : Registry} {text : String} {r n : Lexeme.Reading} {done e ls : List Lexeme}
  {mode next : Mode} {l : Lexeme} {p : Point} {item : Item} {found : Option Item}

theorem belongs_of_tells (hb : Begun registry done p mode) (hlex : Lexeme.lex text = done ++ ls)
    (h : item.Tells (IsOwn registry text.toList p)) : item.Belongs registry text := by
  cases item with
  | marker found =>
    obtain ⟨hp, hpaths, scopes, hne, hpath, hheader⟩ := h
    subst hp
    refine ⟨?_, rfl, hpaths, scopes, hne, hpath, hheader⟩
    rw [hpath]
    exact hb.mem_headerPaths hlex hheader.headerPathAt?_eq
  | noMatch path p => trivial
  | warning w => trivial
  | fault f => exact h.elim

theorem belongs_of_stop {scopes : List String} {f : Fault} (hb : Begun registry done p mode)
    (hl : l.kind ≠ .markerStart) (hlex : Lexeme.lex text = done ++ l :: ls)
    (hs : step registry mode l = .stop f) (hheader : HeaderAt text.toList scopes p)
    (hmatch : registry.couldMatch (pathOf scopes) = true) :
    (Item.fault f).Belongs registry text :=
  ⟨p, pathOf scopes, hb.stopsWithin hl hlex hs, hheader.headerPathAt?_eq, hmatch⟩

/-- A fault inside a marker of the registry belongs to its header. -/
theorem belongs_of_stop_inside {f : Fault} (hb : Begun registry done p mode)
    (hidle : mode ≠ .idle) (hown : mode.Tells (IsOwn registry text.toList p))
    (hl : l.kind ≠ .markerStart) (hlex : Lexeme.lex text = done ++ l :: ls)
    (hs : step registry mode l = .stop f) : (Item.fault f).Belongs registry text := by
  obtain ⟨path, q, rfl, hpaths, scopes, -, rfl, hheader⟩ := tells_of_stop hown hidle hs
  exact belongs_of_stop hb hl hlex hs hheader (Registry.couldMatch_of_mem_paths hpaths)

/-! ### Behind the lexer -/

theorem passes_comments {es : List Lexeme} (hes : ∀ l ∈ es, l.kind = .comment) :
    Passes registry .idle es [] .idle := by
  induction es with
  | nil => exact fun _ => rfl
  | cons l es ih =>
    obtain ⟨hl, hes⟩ := List.forall_mem_cons.1 hes
    have hstep : step registry .idle l = .go none .idle := by simp [step, hl]
    exact (passes_single (by rw [hl]; rfl) hstep).append (ih hes)

/-- Outside of markers the lexer goes on, or a marker begins. -/
theorem behind_step_idle (hr : r.IsWithin text.toList) (hm : r.mode = .text)
    (hdone : ∃ items, Passes registry .idle done items .idle) (hs : r.step = .go e n)
    (h : item ∈ run registry .idle (e ++ ls)) :
    ∃ next, Behind registry text.toList (done ++ e) n next ∧ item ∈ run registry next ls := by
  obtain ⟨items, hdone⟩ := hdone
  by_cases hn : n.mode = .header false
  · have htext : r.readText = .go e n := by rw [← hs, Lexeme.Reading.step, hm]
    obtain ⟨before, es, hrest, hes, rfl⟩ := Lexeme.Reading.markerStart_of_readText hm htext hn
    obtain ⟨lead, hlead, hpoint⟩ := hr
    rw [hpoint, ← Point.after_append] at h ⊢
    generalize hp : Point.origin.after (lead ++ before) = p at h ⊢
    have hcomments : Passes registry .idle es [] .idle := passes_comments hes
    have hstart : Passes registry .idle [⟨.markerStart, "+", p⟩] [] (.header p []) := fun _ => rfl
    rw [(hcomments.append hstart) ls] at h
    have hbegun : Begun registry (done ++ (es ++ [⟨.markerStart, "+", p⟩])) p (.header p []) :=
      ⟨done ++ es, _, [], by simp, rfl, rfl, by simp, ⟨_, hdone.append hcomments⟩, _, hstart⟩
    subst hp
    exact ⟨_, .header (by simp [hn]) (by simp [hlead, hrest]) rfl hbegun, h⟩
  · have hmove := (Lexeme.Reading.steps_of_step hs).move
    rw [hm] at hmove
    obtain ⟨he, hmode⟩ : e.map Lexeme.kind = [] ∧ n.mode = .text := by
      generalize e.map Lexeme.kind = ks at hmove ⊢
      generalize n.mode = m at hmove hn ⊢
      cases hmove with
      | skip => exact ⟨rfl, rfl⟩
      | start => exact absurd rfl hn
      | startInComment => exact absurd rfl hn
    obtain rfl := List.map_eq_nil_iff.1 he
    exact ⟨.idle, .idle hmode ⟨items, by rwa [List.append_nil]⟩, h⟩

/-- Inside a header the next segment is read, or the header is complete. -/
theorem behind_step_header {before after : List Char} {scopes : List String}
    (hlex : Lexeme.lex text = done ++ (e ++ ls)) (hm : r.mode = .header !scopes.isEmpty)
    (htext : text.toList = before ++ '+' :: after)
    (hscopes : scopesFrom [] after = scopes ++ scopesFrom [] r.rest)
    (hb : Begun registry done (Point.origin.after before)
      (.header (Point.origin.after before) scopes)) (hs : r.step = .go e n)
    (h : item ∈ run registry (.header (Point.origin.after before) scopes) (e ++ ls)) :
    item.Belongs registry text ∨
      ∃ next, Behind registry text.toList (done ++ e) n next ∧ item ∈ run registry next ls := by
  rcases Lexeme.Reading.scopes_of_step hm hs with
    ⟨segment, p, q, rfl, hn, hrest⟩ | ⟨l, rfl, hrest, hl⟩
  · -- a segment and its colon
    have hpass : Passes registry (.header (Point.origin.after before) scopes)
        [⟨.scope, segment, p⟩, ⟨.separator, ":", q⟩] []
        (.header (Point.origin.after before) (scopes ++ [segment])) := fun _ => rfl
    rw [hpass] at h
    refine .inr ⟨_, .header (by simp [hn]) htext ?_ (hb.append (by simp) hpass), h⟩
    rw [hscopes, hrest, List.append_assoc]
    rfl
  · rw [hrest, List.append_nil] at hscopes
    have hheader : HeaderAt text.toList scopes (Point.origin.after before) :=
      ⟨before, after, htext, rfl, hscopes⟩
    rcases hl with ⟨hl, hn⟩ | ⟨hl, hscope, hn⟩
    · -- no scope at all
      have hstep : step registry (.header (Point.origin.after before) scopes) l =
          .go (some (.warning (warningOf l))) .idle := by simp [step, hl]
      have hpass := passes_single (by rw [hl]; rfl) hstep
      have h' := hpass ls ▸ h
      rcases List.mem_append.1 h' with h' | h'
      · obtain rfl : item = .warning (warningOf l) := by simpa using h'
        exact .inl trivial
      · exact .inr ⟨.idle, .idle hn (hb.append (by simp [hl]) hpass).passes, h'⟩
    · -- the first argument
      have hne : scopes ≠ [] := by simpa using hscope
      have hstart : l.kind ≠ .markerStart := by simp [hl]
      cases hstep : step registry (.header (Point.origin.after before) scopes) l with
      | stop f =>
        rw [List.singleton_append, run_cons_of_stop hstep] at h
        obtain rfl := List.mem_singleton.1 h
        refine .inl (belongs_of_stop hb hstart hlex hstep hheader ?_)
        simp only [step, hl] at hstep
        split at hstep
        · next d hd =>
          rw [← Registry.path_of_get? hd]
          exact Registry.couldMatch_of_mem_paths (Registry.mem_paths_of_get? hd)
        · cases hstep
      | go found next =>
        have hpass := passes_single (by rw [hl]; rfl) hstep
        obtain ⟨⟨hfound, hown⟩, hidle⟩ :
            ((∀ item ∈ found, item.Tells (IsOwn registry text.toList (Point.origin.after before))) ∧
              next.Tells (IsOwn registry text.toList (Point.origin.after before))) ∧
              next ≠ .idle := by
          simp only [step, hl] at hstep
          split at hstep
          · next d hd =>
            have hown : IsOwn registry text.toList (Point.origin.after before) d.path
                (Point.origin.after before) :=
              ⟨rfl, Registry.mem_paths_of_get? hd, scopes, hne, Registry.path_of_get? hd, hheader⟩
            refine ⟨tells_beginArg hown hstep, ?_⟩
            rintro rfl
            cases follows_beginArg hstep
          · cases hstep
            exact ⟨⟨by simp, trivial⟩, by simp⟩
        rw [hpass] at h
        rcases List.mem_append.1 h with h | h
        · exact .inl (belongs_of_tells hb hlex (hfound item (by simpa using h)))
        · exact .inr ⟨next, .inside (by rw [hn]; rfl) hidle hown
            (hb.append (by simp [hl]) hpass), h⟩

/-- Inside the arguments of a marker. -/
theorem behind_step_inside (hlex : Lexeme.lex text = done ++ (e ++ ls))
    (hm : r.mode.isArguments = true) (hidle : mode ≠ .idle)
    (hown : mode.Tells (IsOwn registry text.toList p)) (hb : Begun registry done p mode)
    (hs : r.step = .go e n) (h : item ∈ run registry mode (e ++ ls)) :
    item.Belongs registry text ∨
      ∃ next, Behind registry text.toList (done ++ e) n next ∧ item ∈ run registry next ls := by
  have hmove := (Lexeme.Reading.steps_of_step hs).move
  rcases Lexeme.arguments_of_move hmove hm with ⟨he, hn⟩ | ⟨k, he, hk, hend⟩
  · obtain rfl := List.map_eq_nil_iff.1 he
    exact .inr ⟨mode, .inside hn hidle hown (by rwa [List.append_nil]), h⟩
  · obtain ⟨l, rfl, rfl⟩ := List.map_eq_singleton_iff.1 he
    have hl : l.kind.isTerminal = false := Lexeme.not_isTerminal_of_move hmove _ (by simp)
    cases hstep : step registry mode l with
    | stop f =>
      rw [List.singleton_append, run_cons_of_stop hstep] at h
      obtain rfl := List.mem_singleton.1 h
      exact .inl (belongs_of_stop_inside hb hidle hown hk hlex hstep)
    | go found next =>
      obtain ⟨hfound, hnext⟩ := tells_step hown (fun hi => absurd hi hidle) hstep
      have hpass := passes_single hl hstep
      have hbegun := hb.append (by simpa using hk) hpass
      have hiff := eq_idle_iff_of_step hown hidle hl hstep
      rw [hpass] at h
      rcases List.mem_append.1 h with h | h
      · exact .inl (belongs_of_tells hb hlex (hfound item (by simpa using h)))
      · refine .inr ⟨next, ?_, h⟩
        rcases hend with ⟨hmarkerEnd, hn⟩ | ⟨hmarkerEnd, hn⟩
        · obtain rfl := hiff.2 hmarkerEnd
          exact .idle hn hbegun.passes
        · exact .inside hn (fun hi => hmarkerEnd (hiff.1 hi)) hnext hbegun

/-- A step of the lexer keeps the reader behind it; what is found or reported on the way belongs to
its header. -/
theorem behind_step (hlex : Lexeme.lex text = done ++ (e ++ ls)) (hr : r.IsWithin text.toList)
    (hb : Behind registry text.toList done r mode) (hs : r.step = .go e n)
    (h : item ∈ run registry mode (e ++ ls)) :
    item.Belongs registry text ∨
      ∃ next, Behind registry text.toList (done ++ e) n next ∧ item ∈ run registry next ls := by
  cases hb with
  | idle hm hdone => exact .inr (behind_step_idle hr hm hdone hs h)
  | header hm htext hscopes hb => exact behind_step_header hlex hm htext hscopes hb hs h
  | inside hm hidle hown hb => exact behind_step_inside hlex hm hidle hown hb hs h

/-- What the last lexeme of a text yields belongs to its header. -/
theorem belongs_halt (hlex : Lexeme.lex text = done ++ e)
    (hb : Behind registry text.toList done r mode) (hs : r.step = .halt e)
    (h : item ∈ run registry mode e) : item.Belongs registry text := by
  have herror (hm : r.mode ≠ .text) : ∃ l, e = [l] ∧ l.kind = .error := by
    rcases Lexeme.Reading.eof_or_error_of_halt hs with ⟨htext, -⟩ | ⟨⟨l, he, hl, -⟩, -⟩
    · exact absurd htext hm
    · exact ⟨l, he, hl⟩
  cases hb with
  | idle hm hdone =>
    rcases Lexeme.Reading.eof_or_error_of_halt hs with ⟨-, -, rfl⟩ | ⟨-, hrecognised | ⟨hheader, -⟩⟩
    · cases h
    · rw [hm] at hrecognised
      exact hrecognised.elim
    · rw [hm] at hheader
      cases hheader
  | @header before after scopes hm htext hscopes hb =>
    obtain ⟨l, rfl, hl⟩ := herror (by simp [hm])
    rw [Lexeme.Reading.scopes_of_halt hm hs, List.append_nil] at hscopes
    by_cases hmatch : registry.couldMatch (pathOf scopes) = true
    · have hstep : step registry (.header (Point.origin.after before) scopes) l =
          .stop (faultOf l) := by simp [step, hl, hmatch]
      rw [run_cons_of_stop hstep] at h
      obtain rfl := List.mem_singleton.1 h
      exact belongs_of_stop hb (by simp [hl]) hlex hstep ⟨before, after, htext, rfl, hscopes⟩ hmatch
    · have hitem : item = .noMatch (pathOf scopes) (Point.origin.after before) := by
        simpa [run, step, hl, hmatch, Lexeme.Kind.isTerminal] using h
      rw [hitem]
      trivial
  | inside hm hidle hown hb =>
    obtain ⟨l, rfl, hl⟩ := herror fun htext => by
      rw [htext] at hm
      cases hm
    cases hstep : step registry mode l with
    | stop f =>
      rw [run_cons_of_stop hstep] at h
      obtain rfl := List.mem_singleton.1 h
      exact belongs_of_stop_inside hb hidle hown (by simp [hl]) hlex hstep
    | go found next =>
      have hfound : item ∈ found := by
        simpa [run, hstep, hl, Lexeme.Kind.isTerminal] using h
      exact belongs_of_tells hb hlex
        ((tells_step hown (fun hi => absurd hi hidle) hstep).1 item hfound)

end

/-- Whatever a run of both yields belongs to a header of the text. -/
theorem belongs_run (registry : Registry) (text : String) (r : Lexeme.Reading) :
    ∀ mode done, Lexeme.lex text = done ++ r.toEnd → r.IsWithin text.toList →
      Behind registry text.toList done r mode →
      ∀ item ∈ run registry mode r.toEnd, item.Belongs registry text := by
  induction r using Lexeme.Reading.stepInduction with
  | halt r e hs =>
    intro mode done hlex _ hb item h
    rw [Lexeme.Reading.toEnd_of_halt hs] at hlex h
    exact belongs_halt hlex hb hs h
  | go r e n hs ih =>
    intro mode done hlex hr hb item h
    rw [Lexeme.Reading.toEnd_of_go hs] at hlex h
    rcases behind_step hlex hr hb hs h with h | ⟨next, hnext, h⟩
    · exact h
    · exact ih next (done ++ e) (by rw [hlex, List.append_assoc])
        (Lexeme.Reading.isWithin_of_step hr hs) hnext item h

end Reader

/-- Whatever a text yields belongs to one of its headers. -/
theorem belongs_of_mem_readMarkers {registry : Registry} {text : String} :
    ∀ item ∈ readMarkers registry (Lexeme.lex text), item.Belongs registry text :=
  Reader.belongs_run registry text (.start text.toList) .idle [] rfl
    (Lexeme.Reading.isWithin_start _) (.idle rfl ⟨[], fun _ => rfl⟩)

/-! ### Markers of other tools -/

/-- The markers of a text are among what is read. -/
theorem mem_items_of_collectItems {items : List Item} {ms : List FoundMarker} {ws : List Warning}
    (h : collectItems items = .ok (ms, ws)) : ∀ m ∈ ms, .marker m ∈ items := by
  induction items generalizing ms ws with
  | nil => cases h; simp
  | cons item items ih =>
    cases item with
    | fault f => cases h
    | noMatch path p =>
      intro m hm
      exact List.mem_cons_of_mem _ (ih h m hm)
    | warning w =>
      obtain ⟨⟨ns, vs⟩, hr, heq⟩ := Lexeme.exists_ok_of_map_ok h
      obtain ⟨rfl, -⟩ := Prod.mk.inj heq
      intro m hm
      exact List.mem_cons_of_mem _ (ih hr m hm)
    | marker found =>
      obtain ⟨⟨ns, vs⟩, hr, heq⟩ := Lexeme.exists_ok_of_map_ok h
      obtain ⟨rfl, -⟩ := Prod.mk.inj heq
      intro m hm
      rcases List.mem_cons.1 hm with rfl | hm
      · exact List.mem_cons_self
      · exact List.mem_cons_of_mem _ (ih hr m hm)

/-- The fault of a text is among what is read. -/
theorem fault_mem_of_collectItems {items : List Item} {f : Fault}
    (h : collectItems items = .error f) : .fault f ∈ items := by
  induction items with
  | nil => cases h
  | cons item items ih =>
    cases item with
    | fault e =>
      cases h
      exact List.mem_cons_self
    | noMatch path p => exact List.mem_cons_of_mem _ (ih h)
    | warning w | marker found =>
      cases hrest : collectItems items with
      | error e =>
        rw [collectItems, hrest] at h
        cases h
        exact List.mem_cons_of_mem _ (ih hrest)
      | ok r =>
        rw [collectItems, hrest] at h
        cases h

/-- Markers of other tools are never faults: a text without a header that could match has no markers
and no faults, and a fault is reported inside a marker whose path is registered or leads to a
registered one by whole segments. -/
theorem parseMarkers_foreign (registry : Registry) (text : String) :
    ((∀ path ∈ headerPaths text, registry.couldMatch path = false) →
      ∃ warnings, parseMarkers registry text = .ok ([], warnings)) ∧
    ∀ f, parseMarkers registry text = .error f →
      ∃ p path d, Reader.StopsWithin registry text p f ∧ headerPathAt? text p = some path ∧
        d ∈ registry.definitions ∧ (d.path = path ∨ path.toList ++ [':'] <+: d.path.toList) := by
  constructor
  · intro hno
    cases hparse : parseMarkers registry text with
    | error f =>
      obtain ⟨p, path, hstop, hpath, hmatch⟩ :=
        belongs_of_mem_readMarkers _ (fault_mem_of_collectItems hparse)
      rw [hno path (hstop.mem_headerPaths hpath)] at hmatch
      cases hmatch
    | ok result =>
      obtain ⟨markers, warnings⟩ := result
      refine ⟨warnings, ?_⟩
      suffices markers = [] by rw [this]
      rw [List.eq_nil_iff_forall_not_mem]
      intro found hfound
      obtain ⟨hheader, -, hpath, -⟩ :=
        belongs_of_mem_readMarkers _ (mem_items_of_collectItems hparse found hfound)
      have hmatch := Registry.couldMatch_of_mem_paths hpath
      rw [hno found.path hheader] at hmatch
      cases hmatch
  · intro f hparse
    obtain ⟨p, path, hstop, hpath, hmatch⟩ :=
      belongs_of_mem_readMarkers _ (fault_mem_of_collectItems hparse)
    obtain ⟨d, hd, hleads⟩ := Registry.couldMatch_iff.1 hmatch
    exact ⟨p, path, d, hstop, hpath, hd, hleads⟩

/-- A marker of another tool with a string that is not closed; and a header that breaks off behind
the first segment of a registered path. -/
theorem parseMarkers_foreign_broken :
    (∀ path ∈ headerPaths "# +hello\n# +kubebuilder:rbac:groups=\"a",
      operatorRegistry.couldMatch path = false) ∧
    (∃ warnings, parseMarkers operatorRegistry "# +hello\n# +kubebuilder:rbac:groups=\"a" =
      .ok ([], warnings)) ∧
    ∃ f p path d, parseMarkers operatorRegistry "+a:b:c=1\n+operator-builder:" = .error f ∧
      Reader.StopsWithin operatorRegistry "+a:b:c=1\n+operator-builder:" p f ∧
      headerPathAt? "+a:b:c=1\n+operator-builder:" p = some path ∧
      d ∈ operatorRegistry.definitions ∧
      (d.path = path ∨ path.toList ++ [':'] <+: d.path.toList) := by
  have hno : ∀ path ∈ headerPaths "# +hello\n# +kubebuilder:rbac:groups=\"a",
      operatorRegistry.couldMatch path = false := by decide +kernel
  refine ⟨hno, (parseMarkers_foreign _ _).1 hno, ?_⟩
  cases hparse : parseMarkers operatorRegistry "+a:b:c=1\n+operator-builder:" with
  | ok result =>
    have hnone : (parseMarkers operatorRegistry "+a:b:c=1\n+operator-builder:").toOption.isNone =
        true := by decide
    rw [hparse] at hnone
    cases hnone
  | error f =>
    obtain ⟨p, path, d, h⟩ := (parseMarkers_foreign _ _).2 f hparse
    exact ⟨f, p, path, d, rfl, h⟩

end ManifestMarkers
