import ManifestMarkers.Text.Category.Letter
import ManifestMarkers.Text.Category.Mark
import ManifestMarkers.Text.Category.Number
import ManifestMarkers.Text.Category.Sign
import ManifestMarkers.Text.CodeSet

/-!
# Kinds of characters

The general category of a character, as of Unicode 16.0. Categories have codes of two letters and
names; the first letters of the codes are the categories that hold several.
-/

namespace ManifestMarkers.Text

/-- The categories of assigned characters. -/
inductive Category
  | uppercaseLetter
  | lowercaseLetter
  | titlecaseLetter
  | modifierLetter
  | otherLetter
  | nonspacingMark
  | spacingMark
  | enclosingMark
  | decimalNumber
  | letterNumber
  | otherNumber
  | connectorPunctuation
  | dashPunctuation
  | openPunctuation
  | closePunctuation
  | initialPunctuation
  | finalPunctuation
  | otherPunctuation
  | mathSymbol
  | currencySymbol
  | modifierSymbol
  | otherSymbol
  | spaceSeparator
  | lineSeparator
  | paragraphSeparator
  | control
  | format
  | privateUse
  deriving DecidableEq, Repr

namespace Category

/-- The characters of a category. -/
def toSet (category : Category) : CodeSet :=
  match category with
  | uppercaseLetter => .ofStrides uppercaseLetters
  | lowercaseLetter => .ofStrides lowercaseLetters
  | titlecaseLetter => .ofRanges titlecaseLetters
  | modifierLetter => .ofRanges modifierLetters
  | otherLetter => .ofRanges otherLetters
  | nonspacingMark => .ofRanges nonspacingMarks
  | spacingMark => .ofRanges spacingMarks
  | enclosingMark => .ofRanges enclosingMarks
  | decimalNumber => .ofRanges decimalNumbers
  | letterNumber => .ofRanges letterNumbers
  | otherNumber => .ofRanges otherNumbers
  | .connectorPunctuation => .ofRanges Text.connectorPunctuation
  | .dashPunctuation => .ofRanges Text.dashPunctuation
  | .openPunctuation => .ofRanges Text.openPunctuation
  | .closePunctuation => .ofRanges Text.closePunctuation
  | .initialPunctuation => .ofRanges Text.initialPunctuation
  | .finalPunctuation => .ofRanges Text.finalPunctuation
  | .otherPunctuation => .ofRanges Text.otherPunctuation
  | mathSymbol => .ofRanges mathSymbols
  | currencySymbol => .ofRanges currencySymbols
  | modifierSymbol => .ofRanges modifierSymbols
  | otherSymbol => .ofRanges otherSymbols
  | spaceSeparator => .ofRanges spaceSeparators
  | lineSeparator => .single 0x2028
  | paragraphSeparator => .single 0x2029
  | control => .ofRanges [(0x00, 0x1f), (0x7f, 0x9f)]
  | format => .ofRanges formatCharacters
  | privateUse => .ofRanges privateCharacters

/-- Letters. -/
def letters : List Category :=
  [uppercaseLetter, lowercaseLetter, titlecaseLetter, modifierLetter, otherLetter]

/-- Letters with case. -/
def casedLetters : List Category := [uppercaseLetter, lowercaseLetter, titlecaseLetter]

/-- Marks. -/
def marks : List Category := [nonspacingMark, spacingMark, enclosingMark]

/-- Numbers. -/
def numbers : List Category := [decimalNumber, letterNumber, otherNumber]

/-- Punctuation. -/
def punctuation : List Category :=
  [.connectorPunctuation, .dashPunctuation, .openPunctuation, .closePunctuation,
    .initialPunctuation, .finalPunctuation, .otherPunctuation]

/-- Symbols. -/
def symbols : List Category := [mathSymbol, currencySymbol, modifierSymbol, otherSymbol]

/-- Separators. -/
def separators : List Category := [spaceSeparator, lineSeparator, paragraphSeparator]

/-- What is assigned and none of these. -/
def others : List Category := [control, format, privateUse]

end Category

/-- The characters of some categories. -/
def ofCategories (categories : List Category) : CodeSet := .unions (categories.map (·.toSet))

/-- Letters, marks, numbers, punctuation, symbols and separators. -/
def graphic : CodeSet :=
  ofCategories (Category.letters ++ Category.marks ++ Category.numbers ++ Category.punctuation ++
    Category.symbols ++ Category.separators)

/-- The characters of any category. -/
def assigned : CodeSet := graphic ∪ ofCategories Category.others

end ManifestMarkers.Text
