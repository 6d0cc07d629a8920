import ManifestMarkers.Marker.Reader

/-!
# Markers on demand

The items of a sequence of lexemes, pulled one after the other from any sequence whatsoever.

* `Reader.next` yields one item of a `Reader.Source` and leaves the source behind it. Reading is
  over after a fault and after what `Reader.endsReading`: a terminal lexeme, or the end.
* `Reader.next_after_eq` relates the calls to `readMarkers`, which takes a whole sequence.
* `Reader.spares_after` is about what the calls read, `Reader.next_after_append` about what they do
  not read.
* `Reader.Mode.credit` counts the marker that is open, which yields one item at most. A step spends
  the credit or a lexeme that opens an item (`Reader.credit_of_step`), so a run does
  (`Reader.length_run_le`).
* `Reader.items_of_any` has all of it together, for every registry and every sequence.
-/

namespace ManifestMarkers

/-- Whether a lexeme of this kind may be what an item comes from. -/
def Lexeme.Kind.opensItem : Lexeme.Kind → Bool
  | .markerStart | .warning | .error => true
  | _ => false

/-- Whether the item is a fault. -/
def Item.isFault : Item → Bool
  | .fault _ => true
  | .marker _ | .noMatch _ _ | .warning _ => false

namespace Reader

variable {registry : Registry}

/-! ### The machine, call by call -/

/-- Whether nothing is read after this has been pulled: the end, or a terminal lexeme. -/
def endsReading : Option Lexeme → Bool
  | none => true
  | some l => l.kind.isTerminal

/-- What is read from: what each further pull gives, where `none` is the end, and whether reading is
over. A source may have more behind its end. -/
structure Source where
  done : Bool
  pulls : List (Option Lexeme)

/-- Pull until there is an item or reading is over. -/
def nextFrom (registry : Registry) : Mode → List (Option Lexeme) → Option Item × Source
  | mode, [] => (finish mode, ⟨true, []⟩)
  | mode, none :: pulls => (finish mode, ⟨true, pulls⟩)
  | mode, some l :: pulls => match step registry mode l with
    | .stop e => (some (.fault e), ⟨true, pulls⟩)
    | .go (some item) _ => (some item, ⟨endsReading (some l), pulls⟩)
    | .go none mode' =>
      if endsReading (some l) then (none, ⟨true, pulls⟩) else nextFrom registry mode' pulls

/-- The next item, with the source behind it. -/
def next (registry : Registry) (s : Source) : Option Item × Source :=
  if s.done then (none, s) else nextFrom registry .idle s.pulls

/-- The source after `n` items have been asked for. -/
def after (registry : Registry) : Nat → Source → Source
  | 0, s => s
  | n + 1, s => after registry n (next registry s).2

/-! ### What one lexeme does -/

theorem beginArg_none {m : OpenMarker} {l : Lexeme} {found : Option Item} {mode : Mode}
    (h : beginArg m l = .go found mode) : found = none := by
  unfold beginArg at h
  split at h
  · cases h
  · split at h
    · cases h
    · cases h; rfl

theorem endArg_none {m : OpenMarker} {spec : ArgSpec} {value : Literal} {found : Option Item}
    {mode : Mode} (h : endArg m spec value = .go found mode) : found = none := by
  unfold endArg at h
  split at h
  · cases h; rfl
  · cases h

theorem idle_of_closed {m : OpenMarker} {found : Option Item} {mode : Mode}
    (h : closed m = .go found mode) :
    mode = .idle ∧ ∀ item ∈ found, item.isFault = false := by
  unfold closed at h
  split at h
  · cases h
    exact ⟨rfl, by simp [Item.isFault]⟩
  · cases h

/-- After an item the machine is between markers, and the item is no fault: a fault stops it. -/
theorem idle_of_step_some {mode mode' : Mode} {l : Lexeme} {item : Item}
    (h : step registry mode l = .go (some item) mode') :
    mode' = .idle ∧ item.isFault = false := by
  cases mode with
  | idle =>
    simp only [step] at h
    split at h <;> cases h
    exact ⟨rfl, rfl⟩
  | header position scopes =>
    simp only [step] at h
    split at h
    · cases h
    · split at h
      · exact absurd (beginArg_none h) (by simp)
      · cases h
    · cases h; exact ⟨rfl, rfl⟩
    · split at h
      · cases h
      · cases h; exact ⟨rfl, rfl⟩
    · cases h; exact ⟨rfl, rfl⟩
    · cases h; exact ⟨rfl, rfl⟩
    · cases h
  | skipping position path =>
    simp only [step] at h
    split at h <;> cases h <;> exact ⟨rfl, rfl⟩
  | value m spec named =>
    simp only [step] at h
    split at h <;> first | cases h | skip
    all_goals split at h <;> first | cases h | exact absurd (endArg_none h) (by simp)
  | slice m spec element start items =>
    simp only [step] at h
    split at h <;> first | cases h | skip
    · exact absurd (endArg_none h) (by simp)
    all_goals split at h <;> cases h
  | argument m =>
    simp only [step] at h
    split at h <;> first | cases h | skip
    · exact absurd (beginArg_none h) (by simp)
    all_goals
      obtain ⟨hidle, hitem⟩ := idle_of_closed h
      exact ⟨hidle, hitem item rfl⟩

/-- What a mode still owes: one item for the marker that is open. -/
def Mode.credit : Mode → Nat
  | .idle => 0
  | _ => 1

theorem Mode.credit_le_one (mode : Mode) : mode.credit ≤ 1 := by
  cases mode <;> simp [Mode.credit]

theorem credit_of_finish (mode : Mode) : (finish mode).toList.length ≤ mode.credit := by
  cases mode <;> simp only [finish, Mode.credit] <;> first | split <;> simp | simp

/-- What one lexeme adds to the items that are owed. -/
def gain (l : Lexeme) : Nat := if l.kind.opensItem then 1 else 0

/-- An item is paid by the credit or by the lexeme, and so is a new credit. -/
theorem credit_of_step {mode mode' : Mode} {l : Lexeme} {found : Option Item}
    (h : step registry mode l = .go found mode') :
    found.toList.length + mode'.credit ≤ mode.credit + gain l := by
  by_cases hmode : mode = .idle
  · subst hmode
    simp only [step] at h
    split at h <;> cases h <;> simp_all [Mode.credit, gain, Lexeme.Kind.opensItem]
  · -- a marker is open: an item closes it, and without an item at most this one stays open
    have hone : mode.credit = 1 := by cases mode <;> simp_all [Mode.credit]
    cases found with
    | none =>
      have hle := mode'.credit_le_one
      simp only [Option.toList_none, List.length_nil]
      omega
    | some item =>
      obtain ⟨rfl, -⟩ := idle_of_step_some h
      simp only [Option.toList_some, List.length_singleton, Mode.credit]
      omega

/-- A fault is paid in the same way. -/
theorem credit_of_stop {mode : Mode} {l : Lexeme} {f : Fault}
    (h : step registry mode l = .stop f) : 1 ≤ mode.credit + gain l := by
  cases mode with
  | idle =>
    simp only [step] at h
    split at h <;> cases h
    simp_all [Mode.credit, gain, Lexeme.Kind.opensItem]
  | _ => simp [Mode.credit]

/-! ### What a run yields -/

theorem length_run_le (registry : Registry) (mode : Mode) (ls : List Lexeme) :
    (run registry mode ls).length ≤ mode.credit + ls.countP fun l => l.kind.opensItem := by
  induction ls generalizing mode with
  | nil => exact credit_of_finish mode
  | cons l ls ih =>
    have hcount : (l :: ls).countP (fun l => l.kind.opensItem) =
        ls.countP (fun l => l.kind.opensItem) + gain l := List.countP_cons
    simp only [run]
    split
    · next f hstep =>
      have hpaid := credit_of_stop hstep
      simp only [List.length_singleton]
      omega
    · next found mode' hstep =>
      have hpaid := credit_of_step hstep
      have hrest := ih mode'
      split <;> simp only [List.length_append, List.length_nil] <;> omega

/-- Only the last item may be a fault. -/
theorem isFault_of_mem_dropLast (mode : Mode) (ls : List Lexeme) :
    ∀ item ∈ (run registry mode ls).dropLast, item.isFault = false := by
  induction ls generalizing mode with
  | nil => cases h : finish mode <;> simp [run, h]
  | cons l ls ih =>
    simp only [run]
    split
    · simp
    · next found mode' hstep =>
      cases found with
      | none =>
        split
        · simp
        · exact ih mode'
      | some item =>
        obtain ⟨-, hitem⟩ := idle_of_step_some hstep
        split
        · simp
        · intro other hmem
          by_cases hnil : run registry mode' ls = []
          · simp [hnil] at hmem
          · rw [List.dropLast_append_of_ne_nil hnil] at hmem
            rcases List.mem_append.1 hmem with hmem | hmem
            · obtain rfl : other = item := by simpa using hmem
              exact hitem
            · exact ih mode' other hmem

/-! ### What the calls yield -/

@[simp]
theorem after_done (n : Nat) (pulls : List (Option Lexeme)) :
    after registry n ⟨true, pulls⟩ = ⟨true, pulls⟩ := by
  induction n with
  | zero => rfl
  | succ n ih => exact ih

/-- A call yields the first item of the run. If reading is not over, the next call goes on with the
run. -/
theorem nextFrom_eq (registry : Registry) (mode : Mode) (ls : List Lexeme)
    (behind : List (Option Lexeme)) :
    ∃ item s, nextFrom registry mode (ls.map some ++ none :: behind) = (item, s) ∧
      ((s.done = true ∧ run registry mode ls = item.toList) ∨
        ∃ i rest, item = some i ∧ s = ⟨false, rest.map some ++ none :: behind⟩ ∧
          run registry mode ls = i :: run registry .idle rest) := by
  induction ls generalizing mode with
  | nil => exact ⟨_, _, rfl, .inl ⟨rfl, rfl⟩⟩
  | cons l ls ih =>
    simp only [List.map_cons, List.cons_append, nextFrom, run]
    cases hstep : step registry mode l with
    | stop f => exact ⟨_, _, rfl, .inl ⟨rfl, rfl⟩⟩
    | go found mode' =>
      cases hl : l.kind.isTerminal with
      | true =>
        cases found with
        | none =>
          exact ⟨none, ⟨true, ls.map some ++ none :: behind⟩, by simp [endsReading, hl],
            .inl ⟨rfl, rfl⟩⟩
        | some i => exact ⟨_, _, rfl, .inl ⟨hl, rfl⟩⟩
      | false =>
        cases found with
        | none =>
          obtain ⟨item, s, hnext, hrun⟩ := ih mode'
          exact ⟨item, s, by simpa [endsReading, hl] using hnext, by simpa using hrun⟩
        | some i =>
          obtain ⟨rfl, -⟩ := idle_of_step_some hstep
          exact ⟨_, _, rfl, .inr ⟨i, ls, rfl, by rw [endsReading, hl], rfl⟩⟩

/-- Each call yields one item of the run, in order, and those behind them yield nothing. -/
theorem next_after_eq (n : Nat) (ls : List Lexeme) (behind : List (Option Lexeme)) :
    (next registry (after registry n ⟨false, ls.map some ++ none :: behind⟩)).1 =
      (readMarkers registry ls)[n]? := by
  show _ = (run registry .idle ls)[n]?
  induction n generalizing ls with
  | zero =>
    obtain ⟨item, s, hnext, ⟨-, hrun⟩ | ⟨i, rest, rfl, -, hrun⟩⟩ :=
      nextFrom_eq registry .idle ls behind
    · cases item <;> simp [after, next, hnext, hrun]
    · simp [after, next, hnext, hrun]
  | succ n ih =>
    obtain ⟨item, s, hnext, ⟨hdone, hrun⟩ | ⟨i, rest, rfl, rfl, hrun⟩⟩ :=
      nextFrom_eq registry .idle ls behind
    · obtain ⟨done, pulls⟩ := s
      obtain rfl : done = true := hdone
      cases item <;> simp [after, next, hnext, hrun]
    · simp only [after, next, Bool.false_eq_true, if_false, hnext, hrun, List.getElem?_cons_succ]
      exact ih rest

/-! ### What the calls read -/

/-- Nothing but the last of what was read ends reading, and if it does then reading is over. -/
def Spares (read : List (Option Lexeme)) (s : Source) : Prop :=
  (∀ pulled ∈ read.dropLast, endsReading pulled = false) ∧
    ((∃ pulled ∈ read, endsReading pulled = true) → s.done = true)

theorem spares_single {pulled : Option Lexeme} {s : Source}
    (hs : endsReading pulled = true → s.done = true) : Spares [pulled] s := by
  refine ⟨by simp, ?_⟩
  rintro ⟨p, hp, hends⟩
  obtain rfl := List.mem_singleton.1 hp
  exact hs hends

/-- Pulls that end nothing in front of the others. -/
theorem Spares.append {read read' : List (Option Lexeme)} {s : Source} (h : Spares read' s)
    (hread : ∀ pulled ∈ read, endsReading pulled = false) : Spares (read ++ read') s := by
  refine ⟨fun pulled hp => ?_, ?_⟩
  · by_cases hnil : read' = []
    · subst hnil
      exact hread pulled (List.dropLast_subset _ (by simpa using hp))
    · rw [List.dropLast_append_of_ne_nil hnil] at hp
      exact (List.mem_append.1 hp).elim (hread pulled) (h.1 pulled)
  · rintro ⟨pulled, hp, hends⟩
    rcases List.mem_append.1 hp with hp | hp
    · simp [hread pulled hp] at hends
    · exact h.2 ⟨pulled, hp, hends⟩

theorem spares_nextFrom (registry : Registry) (mode : Mode) (pulls : List (Option Lexeme)) :
    ∃ read, pulls = read ++ (nextFrom registry mode pulls).2.pulls ∧
      Spares read (nextFrom registry mode pulls).2 := by
  induction pulls generalizing mode with
  | nil => exact ⟨[], rfl, by simp [Spares]⟩
  | cons pulled pulls ih =>
    cases pulled with
    | none => exact ⟨[none], rfl, spares_single fun _ => rfl⟩
    | some l =>
      simp only [nextFrom]
      cases hstep : step registry mode l with
      | stop f => exact ⟨[some l], rfl, spares_single fun _ => rfl⟩
      | go found mode' =>
        cases found with
        | some i => exact ⟨[some l], rfl, spares_single id⟩
        | none =>
          cases hl : endsReading (some l) with
          | true =>
            exact ⟨[some l], rfl, spares_single fun _ => rfl⟩
          | false =>
            obtain ⟨read, hpulls, hread⟩ := ih mode'
            refine ⟨some l :: read, congrArg (some l :: ·) hpulls, ?_⟩
            exact hread.append (List.forall_mem_singleton.2 hl)

/-- Once the end or a terminal lexeme has been read nothing more is read, however often an item is
asked for. -/
theorem spares_after (n : Nat) (s : Source) (hs : s.done = false) :
    ∃ read, s.pulls = read ++ (after registry n s).pulls ∧ Spares read (after registry n s) := by
  induction n generalizing s with
  | zero => exact ⟨[], rfl, by simp [Spares]⟩
  | succ n ih =>
    obtain ⟨read, hpulls, hread⟩ := spares_nextFrom registry .idle s.pulls
    have hnext : next registry s = nextFrom registry .idle s.pulls := by simp [next, hs]
    rw [← hnext] at hpulls hread
    simp only [after]
    cases hdone : (next registry s).2.done with
    | true =>
      have hafter : after registry n (next registry s).2 = (next registry s).2 := by
        rw [show (next registry s).2 = ⟨true, (next registry s).2.pulls⟩ by rw [← hdone]]
        exact after_done n _
      rw [hafter]
      exact ⟨read, hpulls, hread⟩
    | false =>
      obtain ⟨read', hpulls', hread'⟩ := ih (next registry s).2 hdone
      refine ⟨read ++ read', by rw [List.append_assoc, ← hpulls', ← hpulls], ?_⟩
      refine hread'.append fun pulled hp => ?_
      refine Bool.eq_false_iff.2 fun hends => ?_
      have hover := hread.2 ⟨pulled, hp, hends⟩
      rw [hdone] at hover
      cases hover

/-- Behind a pull that ends reading nothing matters for a call, and the next call is in the same
situation. -/
theorem nextFrom_append (registry : Registry) (mode : Mode) {pulled : Option Lexeme}
    (hends : endsReading pulled = true) (read rest : List (Option Lexeme)) :
    ∃ item s s', nextFrom registry mode (read ++ pulled :: rest) = (item, s) ∧
      nextFrom registry mode (read ++ [pulled]) = (item, s') ∧
      (s.done = true ∧ s'.done = true ∨
        ∃ read', s = ⟨false, read' ++ pulled :: rest⟩ ∧ s' = ⟨false, read' ++ [pulled]⟩) := by
  induction read generalizing mode with
  | nil =>
    cases pulled with
    | none => exact ⟨_, _, _, rfl, rfl, .inl ⟨rfl, rfl⟩⟩
    | some l =>
      simp only [List.nil_append, nextFrom, hends, if_true]
      cases hstep : step registry mode l with
      | stop f => exact ⟨_, _, _, rfl, rfl, .inl ⟨rfl, rfl⟩⟩
      | go found mode' => cases found <;> exact ⟨_, _, _, rfl, rfl, .inl ⟨rfl, rfl⟩⟩
  | cons first read ih =>
    cases first with
    | none => exact ⟨_, _, _, rfl, rfl, .inl ⟨rfl, rfl⟩⟩
    | some l =>
      simp only [List.cons_append, nextFrom]
      cases hstep : step registry mode l with
      | stop f => exact ⟨_, _, _, rfl, rfl, .inl ⟨rfl, rfl⟩⟩
      | go found mode' =>
        cases hl : endsReading (some l) with
        | true => cases found <;> exact ⟨_, _, _, rfl, rfl, .inl ⟨rfl, rfl⟩⟩
        | false =>
          cases found with
          | none => exact ih mode'
          | some i => exact ⟨_, _, _, rfl, rfl, .inr ⟨read, rfl, rfl⟩⟩

theorem next_after_append (n : Nat) {pulled : Option Lexeme} (hends : endsReading pulled = true)
    (read rest : List (Option Lexeme)) :
    (next registry (after registry n ⟨false, read ++ pulled :: rest⟩)).1 =
      (next registry (after registry n ⟨false, read ++ [pulled]⟩)).1 := by
  induction n generalizing read with
  | zero =>
    obtain ⟨item, s, s', hnext, hnext', -⟩ :=
      nextFrom_append registry .idle hends read rest
    simp [after, next, hnext, hnext']
  | succ n ih =>
    obtain ⟨item, ⟨done, pulls⟩, ⟨done', pulls'⟩, hnext, hnext', hleft⟩ :=
      nextFrom_append registry .idle hends read rest
    obtain ⟨hdone, hdone'⟩ | ⟨read', hs, hs'⟩ := hleft
    · obtain rfl : done = true := hdone
      obtain rfl : done' = true := hdone'
      simp [after, next, hnext, hnext']
    · rw [hs] at hnext
      rw [hs'] at hnext'
      simp only [after, next, Bool.false_eq_true, if_false, hnext, hnext']
      exact ih read'

/-! ### Any sequence whatsoever -/

/-- The items of any lexemes, in any order and with any values, when they are pulled one by one from
a source that ends behind them (and might give more after its end):

* the calls yield the finitely many items of `readMarkers`, then nothing;
* only the last item may be a fault;
* of all that has been read, only the last pull may be the end or a terminal lexeme;
* what stands behind the first such pull never matters;
* there are at most as many items as there are marker starts, warnings and errors. -/
theorem items_of_any (registry : Registry) (lexemes : List Lexeme)
    (behind : List (Option Lexeme)) :
    let start : Source := ⟨false, lexemes.map some ++ none :: behind⟩
    (∀ n, (next registry (after registry n start)).1 = (readMarkers registry lexemes)[n]?) ∧
      (∀ item ∈ (readMarkers registry lexemes).dropLast, item.isFault = false) ∧
      (∀ n, ∃ read, start.pulls = read ++ (after registry n start).pulls ∧
        Spares read (after registry n start)) ∧
      (∀ read pulled rest, start.pulls = read ++ pulled :: rest → endsReading pulled = true →
        ∀ n, (next registry (after registry n start)).1 =
          (next registry (after registry n ⟨false, read ++ [pulled]⟩)).1) ∧
      (readMarkers registry lexemes).length ≤ lexemes.countP fun l => l.kind.opensItem := by
  intro start
  refine ⟨fun n => next_after_eq n lexemes behind, isFault_of_mem_dropLast .idle lexemes,
    fun n => spares_after n start rfl, fun read pulled rest hpulls hends n => ?_, ?_⟩
  · have hstart : start = ⟨false, read ++ pulled :: rest⟩ := by rw [← hpulls]
    rw [hstart]
    exact next_after_append n hends read rest
  · simpa [readMarkers, Mode.credit] using length_run_le registry .idle lexemes

end Reader

end ManifestMarkers
