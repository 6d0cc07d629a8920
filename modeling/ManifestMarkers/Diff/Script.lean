/-!
# Edit scripts

A script turns one list into another: runs of items that are kept, deleted or inserted. A script
determines both lists.

* `search` splits at a point in the middle of a shortest script and goes on on both sides.
* `old_search`, `new_search`: the script that is found belongs to the two lists, wherever they are
  split.
-/

namespace ManifestMarkers.Diff

/-- What a change does with its items. -/
inductive Side
  | delete
  | insert
  deriving DecidableEq, Repr

/-- A run of a script. -/
inductive Edit (α : Type)
  | keep (items : List α)
  | change (side : Side) (items : List α)
  deriving DecidableEq, Repr

namespace Edit

variable {α : Type}

/-- The items of the old list in a run. -/
def old : Edit α → List α
  | keep xs | change .delete xs => xs
  | change .insert _ => []

/-- The items of the new list in a run. -/
def new : Edit α → List α
  | keep xs | change .insert xs => xs
  | change .delete _ => []

/-- The number of items of a run, and one for the run. -/
def weight : Edit α → Nat
  | keep xs | change _ xs => xs.length + 1

end Edit

variable {α : Type}

/-- The old list of a script. -/
def oldOf (es : List (Edit α)) : List α := es.flatMap Edit.old

/-- The new list of a script. -/
def newOf (es : List (Edit α)) : List α := es.flatMap Edit.new

/-- The weight of all runs. -/
def weight (es : List (Edit α)) : Nat := es.foldr (fun e n => e.weight + n) 0

@[simp] theorem oldOf_append (a b : List (Edit α)) : oldOf (a ++ b) = oldOf a ++ oldOf b :=
  List.flatMap_append

@[simp] theorem newOf_append (a b : List (Edit α)) : newOf (a ++ b) = newOf a ++ newOf b :=
  List.flatMap_append

/-- A run of kept items, unless it is empty. -/
def kept (xs : List α) : List (Edit α) := if xs.isEmpty then [] else [.keep xs]

@[simp] theorem oldOf_kept (xs : List α) : oldOf (kept xs) = xs := by
  cases xs with
  | nil => rfl
  | cons x xs => exact List.append_nil _

@[simp] theorem newOf_kept (xs : List α) : newOf (kept xs) = xs := by
  cases xs with
  | nil => rfl
  | cons x xs => exact List.append_nil _

/-! ### Common ends -/

variable [DecidableEq α]

/-- The number of items that two lists start with alike. -/
def common : List α → List α → Nat
  | a :: as, b :: bs => if a = b then common as bs + 1 else 0
  | _, _ => 0

theorem take_common (as bs : List α) : as.take (common as bs) = bs.take (common as bs) := by
  induction as generalizing bs with
  | nil => simp [common]
  | cons a as ih =>
    cases bs with
    | nil => simp [common]
    | cons b bs =>
      simp only [common]
      split
      · next h => simp [h, ih]
      · simp

/-- The number of items that two lists end with alike. -/
def commonEnd (as bs : List α) : Nat := common as.reverse bs.reverse

theorem drop_commonEnd (as bs : List α) :
    as.drop (as.length - commonEnd as bs) = bs.drop (bs.length - commonEnd as bs) := by
  have h := congrArg List.reverse (take_common as.reverse bs.reverse)
  simpa [commonEnd, List.reverse_take] using h

/-! ### The middle of a shortest script -/

/-- How far a search has come on each diagonal, which is a difference of places. -/
structure Frontier where
  offset : Nat
  reach : Array Nat

namespace Frontier

/-- The start of a search that takes fewer than `size` steps. -/
def start (size : Nat) : Frontier := ⟨size + 1, Array.replicate (2 * size + 3) 0⟩

/-- How far the search has come on a diagonal. -/
def get (f : Frontier) (k : Int) : Nat := f.reach.getD (k + f.offset).toNat 0

/-- Note how far the search has come on a diagonal. -/
def set (f : Frontier) (k : Int) (x : Nat) : Frontier :=
  { f with reach := f.reach.setIfInBounds (k + f.offset).toNat x }

/-- Where step `d` enters a diagonal: from the neighbour that is further. -/
def enter (f : Frontier) (d k : Int) : Nat :=
  if k = -d ∨ (k ≠ d ∧ f.get (k - 1) < f.get (k + 1)) then f.get (k + 1) else f.get (k - 1) + 1

end Frontier

/-- The diagonals of step `d`, from the last to the first. -/
def diagonals (d : Nat) : List Int := (List.range (d + 1)).map fun i : Nat => (d : Int) - 2 * i

/-- A run along a diagonal: where it starts and ends. -/
structure Snake where
  diagonal : Int
  start : Nat
  stop : Nat

/-- One step of a search over some diagonals, up to the first run that `meets` accepts. -/
def sweep (as bs : List α) (d : Nat) (meets : Snake → Bool) :
    List Int → Frontier → Frontier × Option Snake
  | [], f => (f, none)
  | k :: ks, f =>
    let x := f.enter d k
    let stop := x + common (as.drop x) (bs.drop (x - k).toNat)
    let f := f.set k stop
    let snake := ⟨k, x, stop⟩
    if meets snake then (f, some snake) else sweep as bs d meets ks f

/-- Search from both ends, step by step, until the searches meet. The fuel bounds the steps. -/
def meet (as bs : List α) : Nat → Nat → Frontier → Frontier → Option (Nat × Nat)
  | 0, _, _, _ => none
  | fuel + 1, d, forward, backward =>
    let n := as.length
    let m := bs.length
    let delta : Int := n - m
    let isOdd := delta % 2 != 0
    let metBackward (s : Snake) : Bool :=
      isOdd && (s.diagonal - delta).natAbs < d && n ≤ s.stop + backward.get (delta - s.diagonal)
    match sweep as bs d metBackward (diagonals d) forward with
    | (_, some s) => some (s.start, (s.start - s.diagonal).toNat)
    | (forward, none) =>
      let metForward (s : Snake) : Bool :=
        !isOdd && (s.diagonal - delta).natAbs ≤ d && n ≤ s.stop + forward.get (delta - s.diagonal)
      match sweep as.reverse bs.reverse d metForward (diagonals d) backward with
      | (_, some s) => some (n - s.stop, m - (s.stop - s.diagonal).toNat)
      | (backward, none) => meet as bs fuel (d + 1) forward backward

/-- A point in the middle of a shortest script. -/
def middle (as bs : List α) : Option (Nat × Nat) :=
  let size := (as.length + bs.length + 1) / 2 + 1
  meet as bs size 0 (.start size) (.start size)

/-! ### Search -/

/-- The script between two lists that share no end. `search` gives the scripts of the two sides of
the middle. -/
def between (search : List α → List α → List (Edit α)) (as bs : List α) : List (Edit α) :=
  if as.isEmpty && bs.isEmpty then []
  else if bs.isEmpty then [.change .delete as]
  else if as.isEmpty then [.change .insert bs]
  else match middle as bs with
    | some (x, y) => search (as.take x) (bs.take y) ++ search (as.drop x) (bs.drop y)
    | none => [.change .delete as, .change .insert bs]

/-- The script between two lists. The fuel bounds how often they are split. -/
def searchFrom : Nat → List α → List α → List (Edit α)
  | 0, as, bs => [.change .delete as, .change .insert bs]
  | fuel + 1, as, bs =>
    let lead := common as bs
    let as' := as.drop lead
    let bs' := bs.drop lead
    let tail := commonEnd as' bs'
    let na := as'.length - tail
    let nb := bs'.length - tail
    kept (as.take lead) ++ between (searchFrom fuel) (as'.take na) (bs'.take nb) ++
      kept (as'.drop na)

/-- The script between two lists. -/
def search (as bs : List α) : List (Edit α) := searchFrom (as.length + bs.length + 1) as bs

theorem old_between {search : List α → List α → List (Edit α)}
    (h : ∀ as bs, oldOf (search as bs) = as) (as bs : List α) :
    oldOf (between search as bs) = as := by
  unfold between
  split
  · next hc => simp_all [oldOf]
  · split
    · simp [oldOf, Edit.old]
    · split
      · next ha => simp_all [oldOf, Edit.old]
      · split
        · simp [h]
        · simp [oldOf, Edit.old]

theorem new_between {search : List α → List α → List (Edit α)}
    (h : ∀ as bs, newOf (search as bs) = bs) (as bs : List α) :
    newOf (between search as bs) = bs := by
  unfold between
  split
  · next hc => simp_all [newOf]
  · split
    · next hb => simp_all [newOf, Edit.new]
    · split
      · simp [newOf, Edit.new]
      · split
        · simp [h]
        · simp [newOf, Edit.new]

theorem old_searchFrom (fuel : Nat) (as bs : List α) : oldOf (searchFrom fuel as bs) = as := by
  induction fuel generalizing as bs with
  | zero => simp [searchFrom, oldOf, Edit.old]
  | succ fuel ih =>
    simp only [searchFrom, oldOf_append, oldOf_kept, old_between ih]
    rw [List.append_assoc, List.take_append_drop, List.take_append_drop]

theorem new_searchFrom (fuel : Nat) (as bs : List α) : newOf (searchFrom fuel as bs) = bs := by
  induction fuel generalizing as bs with
  | zero => simp [searchFrom, newOf, Edit.new]
  | succ fuel ih =>
    simp only [searchFrom, newOf_append, newOf_kept, new_between ih]
    rw [drop_commonEnd, take_common, List.append_assoc, List.take_append_drop,
      List.take_append_drop]

/-- The old list of the script is the old list. -/
theorem old_search (as bs : List α) : oldOf (search as bs) = as := old_searchFrom _ as bs

/-- The new list of the script is the new list. -/
theorem new_search (as bs : List α) : newOf (search as bs) = bs := new_searchFrom _ as bs

end ManifestMarkers.Diff
