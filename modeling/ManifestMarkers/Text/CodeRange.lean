/-!
# Ranges of code points

Character classes and case mappings are tables of code-point ranges. Membership is a plain search,
so a statement about one class is a statement about one list.
-/

namespace ManifestMarkers.Text

/-- An inclusive range of code points. -/
abbrev CodeRange := Nat × Nat

/-- Whether the range holds the code point `n`. -/
def CodeRange.holds (r : CodeRange) (n : Nat) : Bool := r.1 ≤ n && n ≤ r.2

/-- Whether `c` lies in one of the ranges. -/
def inRanges (ranges : List CodeRange) (c : Char) : Bool :=
  ranges.any (CodeRange.holds · c.toNat)

/-- Every `step`-th code point from a first to a last one, in this order: first, last, step. -/
abbrev CodeStride := Nat × Nat × Nat

/-- Every `step`-th code point from `first` to `last`, moved by `shift`. -/
structure CodeShift where
  first : Nat
  last : Nat
  step : Nat
  shift : Int

/-- Whether `n` is one of the code points the shift moves. -/
def CodeShift.moves (s : CodeShift) (n : Nat) : Bool :=
  s.first ≤ n && n ≤ s.last && (n - s.first) % s.step == 0

/-- Where the shift takes `n`, if it moves it. -/
def CodeShift.target? (s : CodeShift) (n : Nat) : Option Nat :=
  if s.moves n then some (n + s.shift).toNat else none

/-- The character `c`, moved by the first shift that moves it. -/
def shiftedBy (shifts : List CodeShift) (c : Char) : Char :=
  match shifts.findSome? (·.target? c.toNat) with
  | some n => Char.ofNat n
  | none => c

end ManifestMarkers.Text
