import ManifestMarkers.Text.CodeSet

/-!
# Characters as bytes

A range of characters is a union of boxes of bytes: sequences of byte ranges such that any choice of
one byte from each range is the UTF-8 form of a character of the range.

* `cut?` finds where a range has to be divided.
* `boxes` divides a range until every piece is a box.
-/

namespace ManifestMarkers.Pattern.Utf8

open Text (CodeRange CodeSet)

/-- The first of the given borders that lies inside of a range. -/
def border? (first last : Nat) (borders : List Nat) : Option Nat :=
  borders.find? fun b => first ≤ b && b < last

/-- Where the last bytes, `block` characters of them, force a division: the end of the first block
if the range starts inside of it, or the place before the last block if the range ends inside. -/
def blockCut? (first last block : Nat) : Option Nat :=
  if first / block == last / block then none
  else if first % block != 0 then some (first / block * block + (block - 1))
  else if last % block != block - 1 then some (last / block * block - 1)
  else none

/-- The last character of the first piece, if the range has to be divided: characters of different
lengths are kept apart, and so are partial blocks of final bytes. -/
def cut? (first last : Nat) : Option Nat :=
  match border? first last [0x7f, 0x7ff, 0xffff] with
  | some b => some b
  | none =>
    if last ≤ 0x7f then none
    else [0x40, 0x1000, 0x40000].findSome? (blockCut? first last)

/-- The box from the bytes of a first to those of a last character. -/
def box (first last : Nat) : List CodeRange :=
  ((String.utf8EncodeChar (Char.ofNat first)).map (·.toNat)).zip
    ((String.utf8EncodeChar (Char.ofNat last)).map (·.toNat))

/-- The boxes of a range in ascending order. The number of characters bounds the divisions. -/
def boxesOf : Nat → Nat → Nat → List (List CodeRange)
  | 0, _, _ => []
  | fuel + 1, first, last => match cut? first last with
    | some b => boxesOf fuel first b ++ boxesOf fuel (b + 1) last
    | none => [box first last]

/-- The boxes of a set of characters in ascending order. -/
def boxes (s : CodeSet) : List (List CodeRange) :=
  (s ∩ .characters).ranges.flatMap fun r => boxesOf (r.2 - r.1 + 1) r.1 r.2

end ManifestMarkers.Pattern.Utf8
