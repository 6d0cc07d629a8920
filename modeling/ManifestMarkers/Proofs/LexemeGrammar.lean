import Mathlib
import ManifestMarkers.Proofs.LexemeSteps

/-!
# The grammar of lexeme streams

The kinds of the lexemes of a text form a word of a regular language: complete blocks, then the end
of the text or a broken marker with an error. `opened` says for every mode of the lexer what has
been read of the current block; every move keeps it (`lexed_move`), so a whole run does
(`lexed_moves`).

* `Grammar.stream` is the language of all streams.
* `lex_stream` says that every text is lexed to a word of it, that its last lexeme alone is
  terminal, and that every string in quotes has its closing quote.
-/

namespace ManifestMarkers.Lexeme

open scoped Computability

namespace Grammar

/-! ### The language -/

/-- A single value. -/
def scalar : Language Kind := {ks | ∃ k : Kind, k.isScalar ∧ ks = [k]}

/-- The elements of a slice that is not empty. -/
def items : Language Kind := scalar * ({[.sliceDelimiter]} * scalar)∗

/-- The value of an argument: a single value, or a slice. -/
def value : Language Kind := scalar + {[.sliceBegin]} * (1 + items) * {[.sliceEnd]}

/-- The start of a marker, with its comment sign if it has one. -/
def start : Language Kind := (1 + {[.comment]}) * {[.markerStart]}

/-- A segment of a path with its separator. -/
def segment : Language Kind := {[.scope, .separator]}

/-- The path of a marker, which has at least one segment. -/
def path : Language Kind := start * (segment * segment∗)

/-- An argument with its value. -/
def argument : Language Kind := {[.arg]} * value

/-- A complete marker, which has at least one argument. -/
def marker : Language Kind := path * (argument * argument∗) * {[.markerEnd]}

/-- A marker without scope and its warning, or a complete marker. -/
def block : Language Kind := start * {[.warning]} + marker

/-- A proper initial part of a complete marker, with at least one segment of its path. -/
def broken : Language Kind :=
  {ks | (∃ lead ∈ start * segment, lead <+: ks) ∧ ∃ rest ≠ [], ks ++ rest ∈ marker}

/-- Blocks up to the end of the text, or up to a broken marker with its error. -/
def stream : Language Kind := block∗ * ({[.eof]} + broken * {[.error]})

/-! ### What has been read in a mode -/

/-- The part of the current block that has been read in a mode. -/
def opened : Mode → Language Kind
  | .text => 1
  | .header false => start
  | .header true => path
  | .afterArg | .value => path * argument∗ * {[.arg]}
  | .slice .first => path * argument∗ * ({[.arg]} * {[.sliceBegin]})
  | .slice .delimiter => path * argument∗ * ({[.arg]} * ({[.sliceBegin]} * items))
  | .slice .element =>
    path * argument∗ * ({[.arg]} * ({[.sliceBegin]} * (items * {[.sliceDelimiter]})))
  | .afterValue => path * argument∗ * argument

theorem singleton_append (a b : List Kind) :
    ({a ++ b} : Language Kind) = {a} * {b} := by
  ext x
  simp only [Language.mem_mul]
  constructor
  · rintro rfl
    exact ⟨a, rfl, b, rfl, rfl⟩
  · rintro ⟨_, rfl, _, rfl, rfl⟩
    rfl

theorem singleton_le {ks : List Kind} {l : Language Kind} :
    ({ks} : Language Kind) ≤ l ↔ ks ∈ l := by
  constructor
  · intro h
    exact h rfl
  · rintro h _ rfl
    exact h

theorem singleton_le_scalar {k : Kind} (hk : k.isScalar) : ({[k]} : Language Kind) ≤ scalar :=
  singleton_le.2 ⟨k, hk, rfl⟩

theorem scalar_le_value : scalar ≤ value := by
  unfold value
  exact le_self_add

theorem slice_le_value {l : Language Kind} (h : l ≤ 1 + items) :
    {[.sliceBegin]} * l * {[.sliceEnd]} ≤ value := by
  unfold value
  calc {[.sliceBegin]} * l * {[.sliceEnd]}
      ≤ {[.sliceBegin]} * (1 + items) * {[.sliceEnd]} := by gcongr
    _ ≤ _ := le_add_self

/-! ### Moves keep it -/

theorem opened_arg_mul {l : Language Kind} (h : l ≤ value) :
    path * argument∗ * ({[.arg]} * l) ≤ opened .afterValue := by
  show _ ≤ path * argument∗ * ({[.arg]} * value)
  gcongr

theorem path_mul_segment : path * segment ≤ path := by
  unfold path
  calc start * (segment * segment∗) * segment
      = start * (segment * (segment∗ * segment)) := by simp only [mul_assoc]
    _ ≤ start * (segment * segment∗) := by gcongr; exact kstar_mul_le_kstar

theorem items_mul_item {k : Kind} (hk : k.isScalar) :
    items * {[.sliceDelimiter]} * {[k]} ≤ items := by
  unfold items
  calc scalar * ({[.sliceDelimiter]} * scalar)∗ * {[.sliceDelimiter]} * {[k]}
      = scalar * (({[.sliceDelimiter]} * scalar)∗ * ({[.sliceDelimiter]} * {[k]})) := by
        simp only [mul_assoc]
    _ ≤ scalar * (({[.sliceDelimiter]} * scalar)∗ * ({[.sliceDelimiter]} * scalar)) := by
        gcongr; exact singleton_le_scalar hk
    _ ≤ scalar * ({[.sliceDelimiter]} * scalar)∗ := by gcongr; exact kstar_mul_le_kstar

/-- A move goes on with the current block, unless it leaves it. -/
theorem opened_move {m m' : Mode} {e : List Kind} (h : Move m e m') (hm : m' ≠ .text) :
    opened m * {e} ≤ opened m' := by
  cases h with
  | skip | warning | finish => exact absurd rfl hm
  | start =>
    simp only [opened, start, one_mul]
    exact le_mul_of_one_le_left' le_self_add
  | startInComment =>
    simp only [opened, start, one_mul]
    rw [show [Kind.comment, .markerStart] = [.comment] ++ [.markerStart] from rfl,
      singleton_append]
    gcongr
    exact le_add_self
  | scope hasScope =>
    cases hasScope with
    | true => exact path_mul_segment
    | false =>
      simp only [opened, path]
      gcongr
      exact le_mul_of_one_le_right' one_le_kstar
  | firstArg =>
    simp only [opened]
    gcongr
    exact le_mul_of_one_le_right' one_le_kstar
  | assign =>
    simp only [opened]
    exact (mul_one _).le
  | flag =>
    rw [opened, mul_assoc]
    exact opened_arg_mul ((singleton_le_scalar (k := .boolLiteral) rfl).trans scalar_le_value)
  | scalar hk =>
    rw [opened, mul_assoc]
    exact opened_arg_mul ((singleton_le_scalar hk).trans scalar_le_value)
  | openSlice => simp only [opened, mul_assoc, le_refl]
  | @item k turn hk ht =>
    cases turn with
    | delimiter => exact absurd rfl ht
    | first =>
      simp only [opened, mul_assoc, items]
      gcongr
      exact (singleton_le_scalar hk).trans (le_mul_of_one_le_right' one_le_kstar)
    | element =>
      simp only [opened, mul_assoc]
      gcongr
      rw [← mul_assoc]
      exact items_mul_item hk
  | delimiter => simp only [opened, mul_assoc, le_refl]
  | @closeSlice turn ht =>
    cases turn with
    | element => exact absurd rfl ht
    | first =>
      have := opened_arg_mul (slice_le_value (l := 1) le_self_add)
      simpa only [opened, mul_assoc, one_mul] using this
    | delimiter =>
      have := opened_arg_mul (slice_le_value (l := items) le_add_self)
      simpa only [opened, mul_assoc] using this
  | nextArg =>
    simp only [opened]
    calc path * argument∗ * argument * {[.arg]}
        = path * (argument∗ * argument) * {[.arg]} := by simp only [mul_assoc]
      _ ≤ path * argument∗ * {[.arg]} := by gcongr; exact kstar_mul_le_kstar

/-- A complete marker is what precedes its last move, and the end. -/
theorem opened_mul_markerEnd : opened .afterValue * {[.markerEnd]} = marker := by
  simp only [opened, marker, mul_assoc, ← Language.mul_self_kstar_comm]

/-- What has been read up to a mode: complete blocks and the part of the current one. -/
def lexed (m : Mode) : Language Kind := block∗ * opened m

theorem lexed_move {m m' : Mode} {e : List Kind} (h : Move m e m') : lexed m * {e} ≤ lexed m' := by
  by_cases hm : m' = .text
  · -- a block is complete, or there was none
    subst hm
    have hblock {l : Language Kind} (hl : l ≤ block) : block∗ * l ≤ lexed .text := by
      calc block∗ * l ≤ block∗ * block := by gcongr
        _ ≤ block∗ := kstar_mul_le_kstar
        _ = lexed .text := (mul_one _).symm
    cases h with
    | skip => exact (mul_one _).le
    | warning =>
      rw [lexed, mul_assoc]
      exact hblock le_self_add
    | finish =>
      rw [lexed, mul_assoc, opened_mul_markerEnd]
      exact hblock le_add_self
  · rw [lexed, mul_assoc]
    unfold lexed
    gcongr
    exact opened_move h hm

theorem lexed_moves {m m' : Mode} {ks : List Kind} (h : Moves m ks m') :
    lexed m * {ks} ≤ lexed m' := by
  induction h with
  | nil m => exact (mul_one _).le
  | @cons m m' m'' e ks h hs ih =>
    calc lexed m * {e ++ ks} = lexed m * {e} * {ks} := by rw [singleton_append, mul_assoc]
      _ ≤ lexed m' * {ks} := by gcongr; exact lexed_move h
      _ ≤ lexed m'' := ih

/-! ### Broken markers -/

theorem completes_of_move {m m' : Mode} {e : List Kind} (h : Move m e m') (hm : m' ≠ .text)
    (h' : ∃ ks, opened m' * {ks} ≤ opened .afterValue) :
    ∃ ks, opened m * {ks} ≤ opened .afterValue := by
  obtain ⟨ks, hks⟩ := h'
  refine ⟨e ++ ks, ?_⟩
  calc opened m * {e ++ ks} = opened m * {e} * {ks} := by rw [singleton_append, mul_assoc]
    _ ≤ opened m' * {ks} := by gcongr; exact opened_move h hm
    _ ≤ opened .afterValue := hks

/-- From every mode of a recognised marker some lexemes complete its last argument. -/
theorem exists_completion {m : Mode} (h : m.isRecognised) :
    ∃ ks, opened m * {ks} ≤ opened .afterValue := by
  have hvalue : ∃ ks, opened .afterValue * {ks} ≤ opened .afterValue := ⟨[], (mul_one _).le⟩
  have harg : ∃ ks, opened .afterArg * {ks} ≤ opened .afterValue :=
    completes_of_move .flag (by simp) hvalue
  have hslice : ∃ ks, opened (.slice .delimiter) * {ks} ≤ opened .afterValue :=
    completes_of_move (.closeSlice (by simp)) (by simp) hvalue
  cases m with
  | text => exact h.elim
  | header hasScope =>
    cases hasScope with
    | false => exact h.elim
    | true => exact completes_of_move .firstArg (by simp) harg
  | afterArg => exact harg
  | value => exact harg
  | afterValue => exact hvalue
  | slice turn =>
    cases turn with
    | delimiter => exact hslice
    | first => exact completes_of_move (.closeSlice (by simp)) (by simp) hvalue
    | element => exact completes_of_move (.item (k := .boolLiteral) rfl (by simp)) (by simp) hslice

/-- A recognised marker has the first segment of its path. -/
theorem opened_eq_of_isRecognised {m : Mode} (h : m.isRecognised) :
    ∃ l, opened m = start * segment * l := by
  have hpath (l : Language Kind) : path * l = start * segment * (segment∗ * l) := by
    simp only [path, mul_assoc]
  cases m with
  | text => exact h.elim
  | header hasScope =>
    cases hasScope with
    | false => exact h.elim
    | true => exact ⟨segment∗, by simp only [opened, path, mul_assoc]⟩
  | afterArg | value | afterValue => exact ⟨_, by rw [opened, mul_assoc, hpath]⟩
  | slice turn => cases turn <;> exact ⟨_, by rw [opened, mul_assoc, hpath]⟩

/-- What has been read of a recognised marker is a broken marker. -/
theorem opened_le_broken {m : Mode} (h : m.isRecognised) : opened m ≤ broken := by
  intro ks hks
  obtain ⟨rest, hrest⟩ := exists_completion h
  obtain ⟨l, hl⟩ := opened_eq_of_isRecognised h
  constructor
  · rw [hl] at hks
    obtain ⟨lead, hlead, tail, -, rfl⟩ := Language.mem_mul.1 hks
    exact ⟨lead, hlead, lead.prefix_append tail⟩
  · refine ⟨rest ++ [.markerEnd], by simp, ?_⟩
    rw [← opened_mul_markerEnd, ← List.append_assoc]
    exact Language.append_mem_mul (hrest (Language.append_mem_mul hks rfl)) rfl

/-- A run that makes moves from the start and ends as it has to is a stream. -/
theorem mem_stream_of_moves {ks : List Kind} {m : Mode} {k : Kind} (h : Moves .text ks m)
    (hm : m = .text ∧ k = .eof ∨ m.isRecognised ∧ k = .error) : ks ++ [k] ∈ stream := by
  have hks : ks ∈ lexed m :=
    lexed_moves h (Language.append_mem_mul (b := ks) (a := [])
      (Language.append_mem_mul (a := []) (b := []) (Language.nil_mem_kstar _) rfl) rfl)
  obtain ⟨blocks, hblocks, rest, hrest, rfl⟩ := Language.mem_mul.1 hks
  rw [List.append_assoc]
  refine Language.append_mem_mul hblocks ?_
  rcases hm with ⟨rfl, rfl⟩ | ⟨hm, rfl⟩
  · obtain rfl := (Language.mem_one rest).1 hrest
    exact .inl rfl
  · exact .inr (Language.append_mem_mul (opened_le_broken hm hrest) rfl)

end Grammar

/-! ### The stream of a text -/

/-- Every text is lexed to complete blocks and one terminal lexeme, the end of the text or an error
after a broken marker; and every string that begins with a quote has its closing quote. -/
theorem lex_stream (text : String) :
    (lex text).map Lexeme.kind ∈ Grammar.stream ∧
      (∃ ls l, lex text = ls ++ [l] ∧ l.kind.isTerminal = true ∧
        ∀ l ∈ ls, l.kind.isTerminal = false) ∧
      ∀ l ∈ lex text, l.kind = .stringLiteral →
        ∃ before rest, text.toList = before ++ rest ∧ l.position = Point.origin.after before ∧
          ∀ c ∈ rest.head?, isQuote c = true → ∃ source, ClosedString source ∧ source <+: rest := by
  have hlex : lex text = (Reading.start text.toList).toEnd := rfl
  obtain ⟨es, l, m, hes, hmoves, hm⟩ := (Reading.start text.toList).toEnd_moves
    (Reading.isReady_start _)
  rw [hlex]
  refine ⟨?_, ⟨es, l, hes, ?_, ?_⟩, ?_⟩
  · rw [hes, List.map_append]
    exact Grammar.mem_stream_of_moves hmoves hm
  · rcases hm with ⟨-, hl⟩ | ⟨-, hl⟩ <;> simp [hl, Kind.isTerminal]
  · intro x hx
    exact not_isTerminal_of_moves hmoves _ (List.mem_map_of_mem hx)
  · intro x hx hk
    obtain ⟨before, rest, hsplit, hpos, hspell⟩ := Reading.holds_of_mem_toEnd _ x hx
    refine ⟨before, rest, hsplit, hpos, fun c hc hquote => ?_⟩
    rw [Spelled, hk] at hspell
    rcases hspell with h | ⟨-, h⟩
    · exact h
    · rw [h c hc] at hquote
      cases hquote

end ManifestMarkers.Lexeme
