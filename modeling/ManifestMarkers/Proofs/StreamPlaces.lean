import Mathlib.Data.Option.Defs
import ManifestMarkers.Yaml.Scanner

/-!
# Places in two streams

A comment line in front of a token does not change what is read. To show this, a stream with the
comment is read next to the same stream without it.

* `Both` and `Alike` are results of two readers that agree; `rel_bind` and its companions follow two
  readers step by step.
* `Ends` says how two streams end that are the same before: in the same way, or with a comment on
  the left and another line of the same indentation on the right.
* `Twin` is the same place in both streams before their last line, `Edge` the same place in the
  indentation of that line, and `Near` one or the other.
* `Twin.skipMany`, `Twin.readWhile` and `Twin.readBreak`: reading on leads from such places to such
  places. The number that comes with them bounds how much is left, and makes up for fuel.
-/

namespace ManifestMarkers.Yaml

variable {s t : Spot}

/-! ### Results that agree -/

/-- Two readers that have read the same and stand at related places. -/
def Both {α : Type} (R : Spot → Spot → Prop) (a b : α × Spot) : Prop := a.1 = b.1 ∧ R a.2 b.2

/-- Readers that have read the same, and say the same about it. -/
def Alike {α β : Type} (R : Spot → Spot → Prop) (a b : α × Spot × β) : Prop :=
  a.1 = b.1 ∧ R a.2.1 b.2.1 ∧ a.2.2 = b.2.2

theorem rel_bind {α β γ δ : Type} {R : α → β → Prop} {S : γ → δ → Prop} {a : Option α}
    {b : Option β} {f : α → Option γ} {g : β → Option δ} (h : Option.Rel R a b)
    (hfg : ∀ x y, R x y → Option.Rel S (f x) (g y)) : Option.Rel S (a.bind f) (b.bind g) := by
  cases h with
  | none => exact .none
  | some hxy => exact hfg _ _ hxy

theorem both_bind {α γ δ : Type} {R : Spot → Spot → Prop} {S : γ → δ → Prop}
    {a b : Option (α × Spot)} {f : α × Spot → Option γ} {g : α × Spot → Option δ}
    (h : Option.Rel (Both R) a b)
    (hfg : ∀ v s t, R s t → Option.Rel S (f (v, s)) (g (v, t))) :
    Option.Rel S (a.bind f) (b.bind g) := by
  refine rel_bind h ?_
  rintro ⟨v, s⟩ ⟨_, t⟩ ⟨rfl, hst⟩
  exact hfg v s t hst

theorem rel_map {α β γ δ : Type} {R : α → β → Prop} {S : γ → δ → Prop} {a : Option α}
    {b : Option β} {f : α → γ} {g : β → δ} (h : Option.Rel R a b)
    (hfg : ∀ x y, R x y → S (f x) (g y)) : Option.Rel S (a.map f) (b.map g) := by
  cases h with
  | none => exact .none
  | some hxy => exact .some (hfg _ _ hxy)

theorem both_map {α γ δ : Type} {R : Spot → Spot → Prop} {S : γ → δ → Prop}
    {a b : Option (α × Spot)} {f : α × Spot → γ} {g : α × Spot → δ}
    (h : Option.Rel (Both R) a b) (hfg : ∀ v s t, R s t → S (f (v, s)) (g (v, t))) :
    Option.Rel S (a.map f) (b.map g) := by
  refine rel_map h ?_
  rintro ⟨v, s⟩ ⟨_, t⟩ ⟨rfl, hst⟩
  exact hfg v s t hst

theorem rel_mono {α β : Type} {R S : α → β → Prop} {a : Option α} {b : Option β}
    (h : Option.Rel R a b) (hRS : ∀ x y, R x y → S x y) : Option.Rel S a b := by
  cases h with
  | none => exact .none
  | some hxy => exact .some (hRS _ _ hxy)

theorem both_mono {α : Type} {R S : Spot → Spot → Prop} {a b : Option (α × Spot)}
    (h : Option.Rel (Both R) a b) (hRS : ∀ s t, R s t → S s t) : Option.Rel (Both S) a b :=
  rel_mono h fun _ _ hxy => ⟨hxy.1, hRS _ _ hxy.2⟩

theorem exists_of_rel {α β : Type} {R : α → β → Prop} {a : Option α} {b : Option β} {y : β}
    (h : Option.Rel R a b) (hb : b = some y) : ∃ x, a = some x ∧ R x y := by
  subst hb
  cases h with
  | some hxy => exact ⟨_, rfl, hxy⟩

theorem exists_of_both {α : Type} {R : Spot → Spot → Prop} {a b : Option (α × Spot)} {v : α}
    {t : Spot} (h : Option.Rel (Both R) a b) (hb : b = some (v, t)) :
    ∃ s, a = some (v, s) ∧ R s t := by
  obtain ⟨⟨_, s⟩, ha, rfl, hst⟩ := exists_of_rel h hb
  exact ⟨s, ha, hst⟩

theorem exists_of_alike {α β : Type} {R : Spot → Spot → Prop} {a b : Option (α × Spot × β)} {v : α}
    {x : β} (h : Option.Rel (Alike R) a b) (hb : b = some (v, t, x)) :
    ∃ s, a = some (v, s, x) ∧ R s t := by
  obtain ⟨⟨_, s, _⟩, ha, rfl, hst, rfl⟩ := exists_of_rel h hb
  exact ⟨s, ha, hst⟩

theorem rel_refl {α : Type} (a : Option α) : Option.Rel Eq a a := by
  cases a with
  | none => exact .none
  | some a => exact .some rfl

/-! ### Line breaks -/

/-- The line breaks. -/
def breakChars : List Char :=
  ['\r', '\n', Char.ofNat 0x85, Char.ofNat 0x2028, Char.ofNat 0x2029]

theorem isBreak_iff {c : Char} : isBreak c = true ↔ c ∈ breakChars := by
  have hnat (k : Nat) (hk : (Char.ofNat k).toNat = k) : c.toNat = k ↔ c = Char.ofNat k := by
    constructor
    · rintro rfl
      exact (Char.ofNat_toNat c).symm
    · rintro rfl
      exact hk
  simp [isBreak, breakChars, hnat 0x85 (by decide), hnat 0x2028 (by decide),
    hnat 0x2029 (by decide), or_assoc]

/-- A class of characters without line breaks. -/
theorem isBreak_of_class {p : Char → Bool} (hp : breakChars.any p = false) {c : Char}
    (hc : p c = true) : isBreak c = false := by
  rw [Bool.eq_false_iff]
  intro hbreak
  exact List.any_eq_false.1 hp c (isBreak_iff.1 hbreak) hc

/-- A text without line breaks. -/
theorem isBreak_of_any {q : List Char} (hq : q.any isBreak = false) :
    ∀ c ∈ q, isBreak c = false := by
  simpa using hq

/-- The number of line breaks in a text. -/
def breaks : List Char → Nat
  | '\r' :: '\n' :: cs => breaks cs + 1
  | c :: cs => if isBreak c then breaks cs + 1 else breaks cs
  | [] => 0

theorem breaks_cons {c : Char} (hc : isBreak c = false) (cs : List Char) :
    breaks (c :: cs) = breaks cs := by
  rw [breaks, if_neg (by simp [hc])]
  rintro _ rfl
  exact absurd hc (by decide)

theorem breaks_crlf (cs : List Char) : breaks ('\r' :: '\n' :: cs) = breaks cs + 1 := by rw [breaks]

theorem breaks_break {c : Char} {cs : List Char} (hc : isBreak c = true)
    (hcr : c = '\r' → cs.head? ≠ some '\n') : breaks (c :: cs) = breaks cs + 1 := by
  rw [breaks, if_pos hc]
  rintro cs' rfl rfl
  exact hcr rfl rfl

theorem Spot.readBreak_crlf {cs : List Char} (h : s.rest = '\r' :: '\n' :: cs) :
    s.readBreak = (['\n'], ⟨cs, s.index + 2, s.line + 1, 0⟩) := by
  simp [readBreak, h]

theorem Spot.readBreak_break {c : Char} {cs : List Char} (h : s.rest = c :: cs)
    (hc : isBreak c = true) (hcr : c = '\r' → cs.head? ≠ some '\n') :
    s.readBreak = (if c.toNat == 0x2028 || c.toNat == 0x2029 then [c] else ['\n'],
      ⟨cs, s.index + c.utf8Size, s.line + 1, 0⟩) := by
  unfold readBreak
  rw [h]
  split
  · next heq =>
    cases heq
    exact absurd rfl (hcr rfl)
  · next heq =>
    cases heq
    rw [if_pos hc]
  · next heq => cases heq

/-- Without a line break nothing is read. -/
theorem Spot.readBreak_of_next (h : s.next isBreak = false) : s.readBreak = ([], s) := by
  unfold readBreak
  unfold next at h
  split
  · next cs heq =>
    rw [heq] at h
    change isBreak '\r' = false at h
    exact absurd h (by decide)
  · next heq => rw [heq] at h; rw [if_neg (by simp [h])]
  · rfl

/-! ### Ends of streams -/

/-- How two streams end that are the same before. -/
inductive Ends
  /-- Both end in the same way; the left one is ahead by some bytes and lines. -/
  | moved (bytes lines : Int)
  /-- Both end with a line of the same indentation: a comment on the left, and on the right the line
  with the given number, which starts with `c`. -/
  | remark (indent line : Nat) (body : List Char) (c : Char) (cs : List Char)

namespace Ends

/-- The end of the left stream. -/
def left : Ends → List Char
  | moved _ _ => []
  | remark indent _ body _ _ => '\n' :: (List.replicate indent ' ' ++ '#' :: body)

/-- The end of the right stream. -/
def right : Ends → List Char
  | moved _ _ => []
  | remark indent _ _ c cs => '\n' :: (List.replicate indent ' ' ++ c :: cs)

/-- The number of characters that the right stream has to itself. -/
def own : Ends → Nat
  | moved _ _ => 0
  | remark _ _ _ _ cs => cs.length + 1

/-- By how many bytes the left stream is ahead. -/
def bytes : Ends → Int
  | moved bytes _ => bytes
  | remark _ _ _ _ _ => 0

/-- By how many lines the left stream is ahead. -/
def lines : Ends → Int
  | moved _ lines => lines
  | remark _ _ _ _ _ => 0

/-- Whether the line at the end is the one with its number, counted from a place before it. -/
def Counts : Ends → Nat → List Char → Prop
  | moved _ _, _, _ => True
  | remark _ line _ _ _, from_, p => from_ + breaks (p ++ ['\n']) = line

/-- Whether the line at the end starts after its indentation, and the left stream is not the shorter
one. -/
def IsClear : Ends → Prop
  | moved _ _ => True
  | remark _ _ body c cs =>
    isSpaceOrTab c = false ∧ isBreak c = false ∧ cs.length ≤ body.length

end Ends

variable {e : Ends} {n m : Nat}

theorem Ends.left_eq_nil_or (e : Ends) :
    (e.left = [] ∧ e.right = []) ∨ ∃ a b, e.left = '\n' :: a ∧ e.right = '\n' :: b := by
  cases e with
  | moved => exact .inl ⟨rfl, rfl⟩
  | remark => exact .inr ⟨_, _, rfl, rfl⟩

theorem Ends.own_le (e : Ends) : e.own ≤ e.right.length := by
  cases e <;> simp [own, right]
  omega

theorem Ends.counts_append {l : Nat} {q p : List Char} (hq : ∀ c ∈ q, isBreak c = false) :
    e.Counts l (q ++ p) ↔ e.Counts l p := by
  cases e with
  | moved => rfl
  | remark =>
    have heq : breaks (q ++ (p ++ ['\n'])) = breaks (p ++ ['\n']) := by
      induction q with
      | nil => rfl
      | cons c q ih =>
        rw [List.forall_mem_cons] at hq
        rw [List.cons_append, breaks_cons hq.1, ih hq.2]
    simp only [Counts, List.append_assoc, heq]

theorem Ends.counts_break {l : Nat} {q p : List Char} (h : e.Counts l (q ++ p))
    (hbreaks : breaks (q ++ (p ++ ['\n'])) = breaks (p ++ ['\n']) + 1) : e.Counts (l + 1) p := by
  cases e with
  | moved => trivial
  | remark =>
    simp only [Counts, List.append_assoc] at h ⊢
    omega

/-- The same place in two streams, before the line that they end with, and at most `n` characters
before what the right one has to itself. -/
structure Twin (e : Ends) (n : Nat) (s t : Spot) : Prop where
  column : s.column = t.column
  index : (s.index : Int) = t.index + e.bytes
  line : (s.line : Int) = t.line + e.lines
  bound : t.rest.length ≤ n + e.own
  rest : ∃ p, s.rest = p ++ e.left ∧ t.rest = p ++ e.right ∧ e.Counts t.line p

/-- The same place in the indentation of the line that two streams end with. -/
inductive Edge : Ends → Nat → Spot → Spot → Prop
  | mk {indent line : Nat} {body cs : List Char} {c : Char} {n k index column : Nat} (hk : k ≤ n)
    (hcolumn : column + k = indent) :
    Edge (.remark indent line body c cs) n
      ⟨List.replicate k ' ' ++ '#' :: body, index, line, column⟩
      ⟨List.replicate k ' ' ++ c :: cs, index, line, column⟩

/-- The same place in two streams. -/
def Near (e : Ends) (n : Nat) (s t : Spot) : Prop := Twin e n s t ∨ Edge e n s t

/-! ### Places before the last line -/

theorem Twin.mono (h : Twin e n s t) (hnm : n ≤ m) : Twin e m s t :=
  { h with bound := by have := h.bound; omega }

theorem Twin.refl (t : Spot) : Twin (.moved 0 0) t.rest.length t t :=
  ⟨rfl, by simp [Ends.bytes], by simp [Ends.lines], by simp [Ends.own], t.rest, by simp [Ends.left],
    by simp [Ends.right], trivial⟩

/-- Both streams go on with the same character, or both are at their end. -/
theorem Twin.rest_cases (h : Twin e n s t) :
    (s.rest = [] ∧ t.rest = []) ∨ ∃ c a b, s.rest = c :: a ∧ t.rest = c :: b := by
  obtain ⟨p, hs, ht, -⟩ := h.rest
  rw [hs, ht]
  cases p with
  | cons c p => exact .inr ⟨c, _, _, rfl, rfl⟩
  | nil =>
    rcases e.left_eq_nil_or with ⟨hl, hr⟩ | ⟨a, b, hl, hr⟩
    · exact .inl ⟨hl, hr⟩
    · exact .inr ⟨'\n', a, b, hl, hr⟩

theorem Twin.head?_eq (h : Twin e n s t) : s.rest.head? = t.rest.head? := by
  rcases h.rest_cases with ⟨hs, ht⟩ | ⟨c, a, b, hs, ht⟩ <;> rw [hs, ht] <;> rfl

theorem Twin.isEmpty_eq (h : Twin e n s t) : s.rest.isEmpty = t.rest.isEmpty := by
  rcases h.rest_cases with ⟨hs, ht⟩ | ⟨c, a, b, hs, ht⟩ <;> rw [hs, ht] <;> rfl

theorem Twin.next (h : Twin e n s t) (p : Char → Bool) : s.next p = t.next p := by
  unfold Spot.next
  rcases h.rest_cases with ⟨hs, ht⟩ | ⟨c, a, b, hs, ht⟩ <;> rw [hs, ht]

theorem Twin.atBlankOrEnd (h : Twin e n s t) : s.atBlankOrEnd = t.atBlankOrEnd := by
  unfold Spot.atBlankOrEnd Spot.blankOrEndAt
  rcases h.rest_cases with ⟨hs, ht⟩ | ⟨c, a, b, hs, ht⟩ <;> rw [hs, ht] <;> rfl

theorem Twin.rest_of_zero (h : Twin e 0 s t) : s.rest = [] ∧ t.rest = [] := by
  obtain ⟨p, hs, ht, -⟩ := h.rest
  have hbound := h.bound
  rw [ht] at hbound
  cases e with
  | moved =>
    obtain rfl : p = [] := by simpa [Ends.right, Ends.own] using hbound
    exact ⟨hs, ht⟩
  | remark =>
    simp [Ends.right, Ends.own] at hbound
    omega

/-- The number of characters that can be read on both sides. -/
theorem Twin.exact (h : Twin e n s t) :
    ∃ m ≤ n, m ≤ s.rest.length ∧ m ≤ t.rest.length ∧ Twin e m s t := by
  obtain ⟨p, hs, ht, -⟩ := h.rest
  have hbound := h.bound
  refine ⟨t.rest.length - e.own, by omega, ?_, by omega, { h with bound := by omega }⟩
  rw [hs, ht]
  cases e <;> simp [Ends.own, Ends.left, Ends.right]
  omega

/-- Reading on by some characters without a line break. -/
theorem Twin.skipMany (h : Twin e n s t) {q b : List Char} (ht : t.rest = q ++ b)
    (hq : ∀ c ∈ q, isBreak c = false) :
    ∃ a, s.rest = q ++ a ∧ (s.skipMany q.length).rest = a ∧ (t.skipMany q.length).rest = b ∧
      q.length ≤ n ∧ Twin e (n - q.length) (s.skipMany q.length) (t.skipMany q.length) := by
  obtain ⟨p, hs, ht', hcounts⟩ := h.rest
  have hown := e.own_le
  -- the text is in front of the ends, because it has no line break
  obtain ⟨p', rfl⟩ : ∃ p', p = q ++ p' := by
    rcases List.append_eq_append_iff.1 (ht.symm.trans ht') with ⟨p', hp, -⟩ | ⟨r, hq', hr⟩
    · exact ⟨p', hp⟩
    · rcases e.left_eq_nil_or with ⟨-, hright⟩ | ⟨a, d, -, hright⟩
      · rw [hright] at hr
        exact ⟨[], by simp_all⟩
      · rw [hright] at hr
        cases r with
        | nil => exact ⟨[], by simp_all⟩
        | cons c r =>
          cases hr
          have := hq '\n' (by simp [hq'])
          exact absurd this (by decide)
  have hlength : t.rest.length = q.length + (p'.length + e.right.length) := by simp [ht']
  have hbound := h.bound
  refine ⟨p' ++ e.left, by simp [hs], by simp [Spot.skipMany, hs], by simp [Spot.skipMany, ht],
    by omega, ?_, ?_, ?_, ?_, p', ?_, ?_, ?_⟩
  · simp [Spot.skipMany, h.column]
  · have hindex := h.index
    simp only [Spot.skipMany, hs, ht', List.append_assoc, List.take_left]
    omega
  · exact h.line
  · simp only [Spot.skipMany, List.length_drop]
    omega
  · simp [Spot.skipMany, hs]
  · simp [Spot.skipMany, ht']
  · exact (Ends.counts_append hq).1 hcounts

/-- Reading on by one character. -/
theorem Twin.skip (h : Twin e n s t) {c : Char} {b : List Char} (ht : t.rest = c :: b)
    (hc : isBreak c = false) :
    ∃ a, s.rest = c :: a ∧ s.skip.rest = a ∧ t.skip.rest = b ∧ 0 < n ∧
      Twin e (n - 1) s.skip t.skip :=
  h.skipMany (q := [c]) ht (by simpa using hc)

theorem Twin.skip_of_next (h : Twin e n s t) {p : Char → Bool} (hnext : t.next p = true)
    (hp : breakChars.any p = false) : 0 < n ∧ Twin e (n - 1) s.skip t.skip := by
  rcases h.rest_cases with ⟨-, ht⟩ | ⟨c, a, b, -, ht⟩
  · simp [Spot.next, ht] at hnext
  · have hc : p c = true := by simpa [Spot.next, ht] using hnext
    obtain ⟨-, -, -, -, hn, h₁⟩ := h.skip ht (isBreak_of_class hp hc)
    exact ⟨hn, h₁⟩

theorem takeWhile_append_eq {p : Char → Bool} {a b : List Char} (ha : ∀ c ∈ a, p c = true)
    (hb : ∀ c ∈ b.head?, p c = false) : (a ++ b).takeWhile p = a := by
  rw [List.takeWhile_append_of_pos ha]
  cases b with
  | nil => simp
  | cons c b => simp [hb c (by simp)]

/-- Reading characters without line breaks. -/
theorem Twin.readWhile (h : Twin e n s t) {p : Char → Bool} (hp : breakChars.any p = false) :
    Both (Twin e n) (s.readWhile p) (t.readWhile p) := by
  have hall : ∀ c ∈ t.rest.takeWhile p, p c = true := by
    intro c hc
    exact List.all_eq_true.1 List.all_takeWhile c hc
  obtain ⟨a, hs, ha, hb, -, htwin⟩ := h.skipMany (List.takeWhile_append_dropWhile (p := p)).symm
    fun c hc => isBreak_of_class hp (hall c hc)
  have hread : s.rest.takeWhile p = t.rest.takeWhile p := by
    rw [hs]
    refine takeWhile_append_eq hall fun c hc => ?_
    -- what is left starts with the same character on both sides
    have hhead : a.head? = (t.rest.dropWhile p).head? := by
      rw [← ha, ← hb]
      exact htwin.head?_eq
    have hnot := List.head?_dropWhile_not p t.rest
    rw [← hhead, Option.mem_def.1 hc] at hnot
    simpa using hnot
  refine ⟨hread, ?_⟩
  unfold Spot.readWhile
  rw [hread]
  exact htwin.mono (Nat.sub_le _ _)

/-- The place after a line break that is in front of the ends. -/
theorem Twin.afterBreak (h : Twin e n s t) (q : List Char) {p : List Char} (hq : 0 < q.length)
    (ht : t.rest = q ++ (p ++ e.right)) (hcounts : e.Counts (t.line + 1) p) (size : Nat) :
    0 < n ∧ Twin e (n - 1) ⟨p ++ e.left, s.index + size, s.line + 1, 0⟩
      ⟨p ++ e.right, t.index + size, t.line + 1, 0⟩ := by
  have hbound := h.bound
  have hindex := h.index
  have hline := h.line
  have hown := e.own_le
  simp only [ht, List.length_append] at hbound
  refine ⟨by omega, rfl, ?_, ?_, ?_, p, rfl, rfl, hcounts⟩
  · dsimp only
    omega
  · dsimp only
    omega
  · simp only [List.length_append]
    omega

/-- The place after the line break before the last line. -/
theorem edge_of_break {indent line : Nat} {body cs : List Char} {c : Char}
    (h : Twin (.remark indent line body c cs) n s t) {p : List Char}
    (ht : t.rest = p ++ (Ends.remark indent line body c cs).right)
    (hline : t.line + 1 = line) (size : Nat) :
    0 < n ∧ Edge (.remark indent line body c cs) (n - 1)
      ⟨List.replicate indent ' ' ++ '#' :: body, s.index + size, s.line + 1, 0⟩
      ⟨List.replicate indent ' ' ++ c :: cs, t.index + size, t.line + 1, 0⟩ := by
  have hbound := h.bound
  have hindex : s.index = t.index := by
    have := h.index
    simp only [Ends.bytes] at this
    omega
  have hlines : s.line = t.line := by
    have := h.line
    simp only [Ends.lines] at this
    omega
  simp [ht, Ends.right, Ends.own] at hbound
  rw [hindex, hlines, hline]
  exact ⟨by omega, .mk (by omega) (by omega)⟩

/-- Reading a line break. The one before the last line leads into its indentation. -/
theorem Twin.readBreak (h : Twin e n s t) (hbreak : t.next isBreak = true) :
    0 < n ∧ Both (Near e (n - 1)) s.readBreak t.readBreak := by
  obtain ⟨p, hs, ht, hcounts⟩ := h.rest
  cases p with
  | nil =>
    cases e with
    | moved => simp [Spot.next, ht, Ends.right] at hbreak
    | remark indent line body c cs =>
      have hline : t.line + 1 = line := hcounts
      obtain ⟨hn, hedge⟩ := edge_of_break h ht hline 1
      rw [Spot.readBreak_break hs (by decide) (by simp),
        Spot.readBreak_break ht (by decide) (by simp)]
      exact ⟨hn, rfl, .inr hedge⟩
  | cons c p =>
    have hc : isBreak c = true := by simpa [Spot.next, ht] using hbreak
    by_cases hcr : c = '\r'
    · subst hcr
      cases p with
      | nil =>
        cases e with
        | moved =>
          obtain ⟨hn, htwin⟩ := h.afterBreak ['\r'] (p := []) (by simp) ht trivial
            ('\r' : Char).utf8Size
          rw [Spot.readBreak_break hs hc (by simp [Ends.left]),
            Spot.readBreak_break ht hc (by simp [Ends.right])]
          exact ⟨hn, rfl, .inl htwin⟩
        | remark indent line body c cs =>
          have hline : t.line + 1 = line := hcounts
          obtain ⟨hn, hedge⟩ := edge_of_break h ht hline 2
          rw [Spot.readBreak_crlf hs, Spot.readBreak_crlf ht]
          exact ⟨hn, rfl, .inr hedge⟩
      | cons d p =>
        by_cases hd : d = '\n'
        · subst hd
          obtain ⟨hn, htwin⟩ := h.afterBreak ['\r', '\n'] (by simp) ht
            (Ends.counts_break (q := ['\r', '\n']) hcounts (breaks_crlf _)) 2
          rw [Spot.readBreak_crlf hs, Spot.readBreak_crlf ht]
          exact ⟨hn, rfl, .inl htwin⟩
        · obtain ⟨hn, htwin⟩ := h.afterBreak ['\r'] (by simp) ht
            (Ends.counts_break (q := ['\r']) hcounts (breaks_break hc (by simpa using hd)))
            ('\r' : Char).utf8Size
          rw [Spot.readBreak_break hs hc (by simpa using hd),
            Spot.readBreak_break ht hc (by simpa using hd)]
          exact ⟨hn, rfl, .inl htwin⟩
    · obtain ⟨hn, htwin⟩ := h.afterBreak [c] (by simp) ht
        (Ends.counts_break (q := [c]) hcounts (breaks_break hc (absurd · hcr))) c.utf8Size
      rw [Spot.readBreak_break hs hc (absurd · hcr), Spot.readBreak_break ht hc (absurd · hcr)]
      exact ⟨hn, rfl, .inl htwin⟩

/-! ### Places in the last line -/

theorem Edge.mono (h : Edge e n s t) (hnm : n ≤ m) : Edge e m s t := by
  obtain ⟨hk, hcolumn⟩ := h
  exact ⟨Nat.le_trans hk hnm, hcolumn⟩

theorem Near.mono (h : Near e n s t) (hnm : n ≤ m) : Near e m s t := by
  rcases h with h | h
  · exact .inl (h.mono hnm)
  · exact .inr (h.mono hnm)

theorem Near.column (h : Near e n s t) : s.column = t.column := by
  rcases h with h | ⟨-, -⟩
  · exact h.column
  · rfl

theorem Near.length_le (h : Near e n s t) : t.rest.length ≤ n + e.own := by
  rcases h with h | ⟨hk, -⟩
  · exact h.bound
  · simp [Ends.own]
    omega

theorem Near.tighten (h : Near e n s t) (hm : t.rest.length ≤ m + e.own) : Near e m s t := by
  rcases h with h | h
  · exact .inl { h with bound := hm }
  · obtain ⟨hk, hcolumn⟩ := h
    simp only [List.length_append, List.length_replicate, List.length_cons, Ends.own] at hm
    exact .inr (.mk (by omega) hcolumn)

theorem Near.exact (h : Near e n s t) :
    ∃ m ≤ n, m ≤ s.rest.length ∧ m ≤ t.rest.length ∧ Near e m s t := by
  rcases h with h | @⟨indent, line, body, cs, c, n, k, index, column, hk, hcolumn⟩
  · obtain ⟨m, hm, hs, ht, h⟩ := h.exact
    exact ⟨m, hm, hs, ht, .inl h⟩
  · exact ⟨k, hk, by simp, by simp, .inr (.mk (Nat.le_refl k) hcolumn)⟩

theorem Twin.readBreak_le (h : Twin e n s t) : Both (Near e n) s.readBreak t.readBreak := by
  by_cases hbreak : t.next isBreak = true
  · obtain ⟨-, hread, h₁⟩ := h.readBreak hbreak
    exact ⟨hread, Near.mono h₁ (Nat.sub_le _ _)⟩
  · have hbreak : t.next isBreak = false := by simpa using hbreak
    rw [Spot.readBreak_of_next hbreak, Spot.readBreak_of_next ((h.next _).trans hbreak)]
    exact ⟨rfl, .inl h⟩

section

variable (he : e.IsClear)

include he

theorem Edge.next_eq (h : Edge e n s t) :
    s.next isSpaceOrTab = t.next isSpaceOrTab ∧ s.next isBreak = t.next isBreak ∧
      s.next (· == '\t') = t.next (· == '\t') ∧ t.next isBreak = false := by
  obtain @⟨indent, line, body, cs, c, n, k, index, column, hk, -⟩ := h
  obtain ⟨hblank, hbreak, -⟩ := he
  cases k with
  | zero =>
    have htab : (c == '\t') = false := by
      rw [Bool.eq_false_iff]
      intro hc
      rw [beq_iff_eq.1 hc] at hblank
      exact absurd hblank (by decide)
    refine ⟨?_, ?_, ?_, hbreak⟩
    · exact hblank.symm
    · exact hbreak.symm
    · exact htab.symm
  | succ k => exact ⟨rfl, rfl, rfl, rfl⟩

theorem Edge.skip (h : Edge e n s t) (hnext : t.next isSpaceOrTab = true) :
    0 < n ∧ Edge e (n - 1) s.skip t.skip ∧ s.rest.take 1 = t.rest.take 1 := by
  obtain @⟨indent, line, body, cs, c, n, k, index, column, hk, hcolumn⟩ := h
  obtain ⟨hblank, -⟩ := he
  cases k with
  | zero =>
    change isSpaceOrTab c = true at hnext
    rw [hblank] at hnext
    cases hnext
  | succ k =>
    have hedge : Edge (.remark indent line body c cs) (n - 1)
        ⟨List.replicate k ' ' ++ '#' :: body, index + 1, line, column + 1⟩
        ⟨List.replicate k ' ' ++ c :: cs, index + 1, line, column + 1⟩ :=
      .mk (by omega) (by omega)
    exact ⟨by omega, hedge, rfl⟩

theorem Near.next_blank (h : Near e n s t) : s.next isSpaceOrTab = t.next isSpaceOrTab := by
  rcases h with h | h
  · exact h.next _
  · exact (h.next_eq he).1

theorem Near.next_break (h : Near e n s t) : s.next isBreak = t.next isBreak := by
  rcases h with h | h
  · exact h.next _
  · exact (h.next_eq he).2.1

theorem Near.next_tab (h : Near e n s t) : s.next (· == '\t') = t.next (· == '\t') := by
  rcases h with h | h
  · exact h.next _
  · exact (h.next_eq he).2.2.1

/-- Reading on by a blank. -/
theorem Near.skip (h : Near e n s t) (hnext : t.next isSpaceOrTab = true) :
    0 < n ∧ Near e (n - 1) s.skip t.skip ∧ s.rest.take 1 = t.rest.take 1 := by
  rcases h with h | h
  · obtain ⟨hn, h₁⟩ := h.skip_of_next hnext (by decide)
    refine ⟨hn, .inl h₁, ?_⟩
    rcases h.rest_cases with ⟨hs, ht⟩ | ⟨c, a, b, hs, ht⟩ <;> simp [hs, ht]
  · obtain ⟨hn, h₁, htake⟩ := h.skip he hnext
    exact ⟨hn, .inr h₁, htake⟩

theorem Near.readBreak (h : Near e n s t) (hnext : t.next isBreak = true) :
    0 < n ∧ Both (Near e (n - 1)) s.readBreak t.readBreak := by
  rcases h with h | h
  · exact h.readBreak hnext
  · rw [(h.next_eq he).2.2.2] at hnext
    cases hnext

/-- Behind the blanks, only the start of the last line is not the same place. -/
theorem Near.twin_or_edge (h : Near e n s t) (hnext : t.next isSpaceOrTab = false) :
    Twin e n s t ∨ Edge e 0 s t := by
  rcases h with h | h
  · exact .inl h
  · obtain @⟨indent, line, body, cs, c, n, k, index, column, hk, hcolumn⟩ := h
    cases k with
    | zero => exact .inr (.mk (Nat.le_refl 0) hcolumn)
    | succ k => exact absurd hnext (by simp [Spot.next, List.replicate_succ, isSpaceOrTab])

/-- Reading on by some of the spaces of an indentation. -/
theorem Near.spaces (h : Near e n s t) :
    s.rest.takeWhile (· == ' ') = t.rest.takeWhile (· == ' ') ∧
      ∀ j ≤ (t.rest.takeWhile (· == ' ')).length, Near e n (s.skipMany j) (t.skipMany j) := by
  rcases h with h | h
  · refine ⟨(h.readWhile (by decide)).1, fun j hj => ?_⟩
    obtain ⟨u, hu⟩ := List.takeWhile_prefix (l := t.rest) (· == ' ')
    have hline : t.rest =
        (t.rest.takeWhile (· == ' ')).take j ++ ((t.rest.takeWhile (· == ' ')).drop j ++ u) := by
      rw [← List.append_assoc, List.take_append_drop, hu]
    obtain ⟨-, -, -, -, -, h₁⟩ := h.skipMany hline fun c hc => by
      have hspace := List.all_eq_true.1 List.all_takeWhile c (List.mem_of_mem_take hc)
      rw [beq_iff_eq.1 hspace]
      decide
    rw [List.length_take, Nat.min_eq_left hj] at h₁
    exact .inl (h₁.mono (Nat.sub_le _ _))
  · obtain @⟨indent, line, body, cs, c, n, k, index, column, hk, hcolumn⟩ := h
    have hc : (c == ' ') = false := by
      rw [Bool.eq_false_iff]
      intro hspace
      rw [beq_iff_eq.1 hspace] at he
      exact absurd he.1 (by decide)
    have hall : ∀ d ∈ List.replicate k ' ', (d == ' ') = true := by simp
    dsimp only
    rw [takeWhile_append_eq hall (by simp), takeWhile_append_eq hall (by simpa using hc)]
    refine ⟨rfl, fun j hj => .inr ?_⟩
    rw [List.length_replicate] at hj
    have hdrop (v : List Char) :
        (List.replicate k ' ' ++ v).drop j = List.replicate (k - j) ' ' ++ v := by
      rw [List.drop_append_of_le_length (by simpa using hj), List.drop_replicate]
    have htake (v : List Char) : (List.replicate k ' ' ++ v).take j = List.replicate j ' ' := by
      rw [List.take_append_of_le_length (by simpa using hj), List.take_replicate,
        Nat.min_eq_left hj]
    simp only [Spot.skipMany, hdrop, htake]
    exact .mk (by omega) (by omega)

/-- The left stream is not the shorter one. -/
theorem Near.length_le_left (h : Near e n s t) : t.rest.length ≤ s.rest.length := by
  rcases h with h | h
  · obtain ⟨p, hs, ht, -⟩ := h.rest
    rw [hs, ht]
    cases e with
    | moved => simp [Ends.left, Ends.right]
    | remark =>
      have hlength := he.2.2
      simp only [Ends.left, Ends.right, List.length_append, List.length_cons]
      omega
  · obtain ⟨-, -⟩ := h
    have hlength := he.2.2
    simp only [List.length_append, List.length_cons]
    omega

end

end ManifestMarkers.Yaml
