import ManifestMarkers.Diff.Script

/-!
# Compacting an edit script

A change can move over kept items that are equal to its own: deleting the first or the second of two
equal lines is the same. Every deletion, and then every insertion, is moved up as far as it goes and
then down as far as it goes. Changes that meet on the way are merged or change places.
-/

namespace ManifestMarkers.Diff

variable {α : Type} [DecidableEq α]

/-- Kept items before a script. -/
def keepBefore (xs : List α) : List (Edit α) → List (Edit α)
  | .keep ys :: es => .keep (xs ++ ys) :: es
  | es => .keep xs :: es

/-- Kept items after a script that is given from its end. -/
def keepAfter (xs : List α) : List (Edit α) → List (Edit α)
  | .keep ys :: es => .keep (ys ++ xs) :: es
  | es => .keep xs :: es

/-- A run of kept items in front of a script, unless it is empty. -/
def consKept (xs : List α) (es : List (Edit α)) : List (Edit α) :=
  if xs.isEmpty then es else .keep xs :: es

/-- A change in a script, with the runs before it from the last to the first. -/
structure Cursor (α : Type) where
  before : List (Edit α)
  items : List α
  after : List (Edit α)

/-- Move a change up. The fuel is the weight of the runs before it. -/
def moveUp (side : Side) : Nat → Cursor α → Cursor α
  | 0, c => c
  | fuel + 1, c => match c.before with
    | [] => c
    | .keep xs :: before =>
      let n := commonEnd xs c.items
      if n = 0 then
        if xs.isEmpty then moveUp side fuel { c with before } else c
      else
        let shared := xs.drop (xs.length - n)
        moveUp side fuel
          { before := consKept (xs.take (xs.length - n)) before
            items := shared ++ c.items.take (c.items.length - n)
            after := keepBefore shared c.after }
    | .change side' xs :: before =>
      if side' = side then moveUp side fuel { c with before, items := xs ++ c.items }
      else moveUp side fuel { c with before, after := .change side' xs :: c.after }

/-- Move a change down. The fuel is the weight of the runs after it. -/
def moveDown (side : Side) : Nat → Cursor α → Cursor α
  | 0, c => c
  | fuel + 1, c => match c.after with
    | [] => c
    | .keep xs :: after =>
      let n := common xs c.items
      if n = 0 then
        if xs.isEmpty then moveDown side fuel { c with after } else c
      else
        let shared := xs.take n
        moveDown side fuel
          { before := keepAfter shared c.before
            items := c.items.drop n ++ shared
            after := consKept (xs.drop n) after }
    | .change side' xs :: after =>
      if side' = side then moveDown side fuel { c with after, items := c.items ++ xs }
      else moveDown side fuel { c with after, before := .change side' xs :: c.before }

/-- Move a change up and then down. -/
def settle (side : Side) (c : Cursor α) : Cursor α :=
  let c := moveUp side (weight c.before + 1) c
  moveDown side (weight c.after + 1) c

/-- Move every change of one side. The runs before are given from the last to the first. -/
def settleAll (side : Side) : Nat → List (Edit α) → List (Edit α) → List (Edit α)
  | 0, before, after => before.reverse ++ after
  | _ + 1, before, [] => before.reverse
  | fuel + 1, before, e :: after => match e with
    | .keep xs => settleAll side fuel (.keep xs :: before) after
    | .change side' xs =>
      if side' = side then
        let c := settle side ⟨before, xs, after⟩
        settleAll side fuel (.change side c.items :: c.before) c.after
      else settleAll side fuel (.change side' xs :: before) after

/-- Move the changes of one side. -/
def compactSide (side : Side) (es : List (Edit α)) : List (Edit α) :=
  settleAll side (4 * (weight es + 1)) [] es

/-- Move deletions, then insertions. -/
def compact (es : List (Edit α)) : List (Edit α) := compactSide .insert (compactSide .delete es)

end ManifestMarkers.Diff
