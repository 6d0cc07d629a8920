import ManifestMarkers.Diff.Compact

/-!
# Differences between texts

The lines of two texts are compared by a shortest edit script. Between kept lines, deletions come
before insertions.
-/

namespace ManifestMarkers.Diff

/-- What happens to a line. -/
inductive Mark
  | kept
  | deleted
  | inserted
  deriving DecidableEq, Repr

/-- The lines of a text with their ends, which are a line feed, a carriage return or both. -/
def textLinesFrom (line : List Char) : List Char → List (List Char)
  | [] => if line.isEmpty then [] else [line.reverse]
  | '\r' :: '\n' :: cs => ('\n' :: '\r' :: line).reverse :: textLinesFrom [] cs
  | c :: cs =>
    if c = '\n' ∨ c = '\r' then (c :: line).reverse :: textLinesFrom [] cs
    else textLinesFrom (c :: line) cs

/-- The lines of a text with their ends. -/
def textLines (text : String) : List String := (textLinesFrom [] text.toList).map String.ofList

variable {α : Type}

/-- The marked items of a script. Deletions and insertions wait until the next kept item. -/
def marksFrom (deleted inserted : List α) : List (Edit α) → List (Mark × α)
  | [] => deleted.map (.deleted, ·) ++ inserted.map (.inserted, ·)
  | .keep xs :: es =>
    deleted.map (.deleted, ·) ++ inserted.map (.inserted, ·) ++ xs.map (.kept, ·) ++
      marksFrom [] [] es
  | .change .delete xs :: es => marksFrom (deleted ++ xs) inserted es
  | .change .insert xs :: es => marksFrom deleted (inserted ++ xs) es

/-- The marked items of a script. -/
def marks (es : List (Edit α)) : List (Mark × α) := marksFrom [] [] es

/-- The lines of two texts, marked. -/
def lines (old new : String) : List (Mark × String) :=
  marks (compact (search (textLines old) (textLines new)))

end ManifestMarkers.Diff
