import ManifestMarkers.Text.CodeRange

/-!
# Sets of code points

A set is kept as the ascending list of its edges: the code points at which membership changes, first
from outside to inside. Equal sets have equal lists, and every operation is one pass over the lists.

* `combine` joins two sets by any operation on membership; union, intersection and differences are
  instances of it.
* `ranges` is the list of maximal ranges.
-/

namespace ManifestMarkers.Text

/-- A set of code points. -/
structure CodeSet where
  /-- The code points at which membership changes, in ascending order. -/
  edges : List Nat
  deriving DecidableEq, Repr

namespace CodeSet

/-- The set without members. -/
def empty : CodeSet := ⟨[]⟩

/-- The set of a range. -/
def range (first last : Nat) : CodeSet := ⟨[first, last + 1]⟩

/-- The set of one code point. -/
def single (n : Nat) : CodeSet := range n n

/-- The set of ranges that stand in ascending order with a gap between any two. -/
def ofRanges (ranges : List CodeRange) : CodeSet :=
  ⟨ranges.flatMap fun r => [r.1, r.2 + 1]⟩

/-- Every character: the code points without the surrogates. -/
def characters : CodeSet := ofRanges [(0, 0xd7ff), (0xe000, 0x10ffff)]

/-- Whether the edges, of which the next one leads inside, enclose `n`. -/
def inside (n : Nat) : List Nat → Bool
  | [] => false
  | [first] => first ≤ n
  | first :: past :: edges => if n < first then false else n < past || inside n edges

/-- Membership of a code point. -/
def contains (s : CodeSet) (n : Nat) : Bool := inside n s.edges

/-- The edges of the set of code points whose membership in two sets satisfies `op`. `a` and `b` say
whether the place is inside of the two sets. -/
def combineEdges (op : Bool → Bool → Bool) (a b : Bool) : List Nat → List Nat → List Nat
  | [], [] => []
  | x :: xs, [] =>
    let rest := combineEdges op (!a) b xs []
    if op (!a) b == op a b then rest else x :: rest
  | [], y :: ys =>
    let rest := combineEdges op a (!b) [] ys
    if op a (!b) == op a b then rest else y :: rest
  | x :: xs, y :: ys =>
    if x < y then
      let rest := combineEdges op (!a) b xs (y :: ys)
      if op (!a) b == op a b then rest else x :: rest
    else if y < x then
      let rest := combineEdges op a (!b) (x :: xs) ys
      if op a (!b) == op a b then rest else y :: rest
    else
      let rest := combineEdges op (!a) (!b) xs ys
      if op (!a) (!b) == op a b then rest else x :: rest
termination_by xs ys => xs.length + ys.length

/-- The set of code points whose membership in two sets satisfies `op`, which has to be false for
code points in neither. -/
def combine (op : Bool → Bool → Bool) (s t : CodeSet) : CodeSet :=
  ⟨combineEdges op false false s.edges t.edges⟩

instance : Union CodeSet := ⟨combine or⟩

instance : Inter CodeSet := ⟨combine and⟩

/-- The set with the surrogates only if the characters on both sides of them are members, so that
its ranges start and end with characters. -/
def trim (s : CodeSet) : CodeSet :=
  if s.contains 0xd800 && !(s.contains 0xd7ff && s.contains 0xe000) then s ∩ characters else s

instance : SDiff CodeSet := ⟨fun s t => (combine (fun a b => a && !b) s t).trim⟩

/-- What lies in exactly one of two sets. -/
def symmDiff (s t : CodeSet) : CodeSet := (s ∪ t) \ (s ∩ t)

/-- Whether the surrogates stand between two ranges of the set. -/
def isSplit (s : CodeSet) : Bool := s.contains 0xd7ff && !s.contains 0xd800 && s.contains 0xe000

/-- Every character that is not in the set. A gap of surrogates between two ranges has no characters
of its own, and the characters on both sides of it are taken for its ends. -/
def compl (s : CodeSet) : CodeSet :=
  let rest := range 0 0x10ffff \ s
  if s.isSplit then rest ∪ range 0xd7ff 0xe000 else rest

/-- The union of a list of sets. -/
def unions (sets : List CodeSet) : CodeSet := sets.foldr (· ∪ ·) empty

/-- The set of ranges in any order. -/
def joinRanges (ranges : List CodeRange) : CodeSet :=
  unions (ranges.map fun r => range r.1 r.2)

/-- The ranges between the edges. -/
def rangesOf : List Nat → List CodeRange
  | first :: past :: edges => (first, past - 1) :: rangesOf edges
  | _ => []

/-- The maximal ranges of the set, in ascending order. -/
def ranges (s : CodeSet) : List CodeRange := rangesOf s.edges

/-- Whether the set holds ASCII characters only. -/
def isAscii (s : CodeSet) : Bool := s.edges.all (· ≤ 0x80)

/-- The member of a set with one member. -/
def single? (s : CodeSet) : Option Nat :=
  match s.edges with
  | [first, past] => if past = first + 1 then some first else none
  | _ => none

/-- The set moved by a distance. -/
def moved (distance : Int) (s : CodeSet) : CodeSet :=
  ⟨s.edges.map fun (n : Nat) => (n + distance).toNat⟩

end CodeSet

/-- A set with the names it is known by. -/
structure NamedSet where
  names : List String
  members : CodeSet
  deriving Repr

/-! ### Sets in strides -/

namespace CodeStride

/-- The edges of `n` members from `first` on, each `step` after the one before. -/
def edges (first step : Nat) : Nat → List Nat
  | 0 => []
  | n + 1 => first :: (first + 1) :: edges (first + step) step n

/-- The set of a stride. -/
def toSet (s : CodeStride) : CodeSet :=
  if s.2.2 ≤ 1 then .range s.1 s.2.1
  else ⟨edges s.1 s.2.2 ((s.2.1 - s.1) / s.2.2 + 1)⟩

end CodeStride

/-- The set of strides that stand in ascending order with a gap between any two. -/
def CodeSet.ofStrides (strides : List CodeStride) : CodeSet :=
  ⟨strides.flatMap fun s => s.toSet.edges⟩

namespace CodeShift

/-- The code points that a shift moves. -/
def domain (s : CodeShift) : CodeSet := CodeStride.toSet (s.first, s.last, s.step)

/-- Where the members of a set go that the shift moves. -/
def image (s : CodeShift) (set : CodeSet) : CodeSet := (set ∩ s.domain).moved s.shift

/-- The code points that the shift takes into a set. -/
def preimage (s : CodeShift) (set : CodeSet) : CodeSet :=
  (set ∩ s.domain.moved s.shift).moved (-s.shift)

end CodeShift

end ManifestMarkers.Text
