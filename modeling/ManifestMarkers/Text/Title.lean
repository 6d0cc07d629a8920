import ManifestMarkers.Text.Alphanumeric
import ManifestMarkers.Text.Uppercase

/-!
# Title case

Every word starts with a capital: a word begins at the start of the text and after every character
that is neither a letter nor a number.
-/

namespace ManifestMarkers.Text

/-- Title case of the remaining characters; `fresh` says that a word may start here. -/
def titleFrom (fresh : Bool) : List Char → List Char
  | [] => []
  | c :: cs => (if fresh then uppercase c else [c]) ++ titleFrom (!isAlphanumeric c) cs

/-- The text with the first letter of every word in upper case. -/
def title (s : String) : String := String.ofList (titleFrom true s.toList)

end ManifestMarkers.Text
