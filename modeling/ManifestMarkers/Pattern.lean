import ManifestMarkers.Pattern.Program
import ManifestMarkers.Pattern.Reader

/-!
# Patterns

A pattern is a regular expression over characters. Matches are leftmost, and of those the preferred
one: the first choice before the second, greedy before lazy.
-/

namespace ManifestMarkers

/-- A compiled pattern. -/
structure Pattern where
  program : Pattern.Program

namespace Pattern

/-- The pattern a text describes, if it describes one. -/
def compile? (text : String) : Option Pattern :=
  (readExpr? text.toList).map fun e => ⟨.ofExpr e⟩

/-- Whether a text describes a pattern. -/
def isPattern (text : String) : Bool := (readExpr? text.toList).isSome

/-- The text with every match replaced by `new`, which is taken as it is. -/
def replaceAll (p : Pattern) (new text : String) : String :=
  String.ofList (p.program.replaceFrom new.toList 0 false none text.toList)

end Pattern

end ManifestMarkers
