import ManifestMarkers.Text.Category
import ManifestMarkers.Text.Property.Case
import ManifestMarkers.Text.Property.Emoji
import ManifestMarkers.Text.Property.Identifier
import ManifestMarkers.Text.Property.Ideograph
import ManifestMarkers.Text.Property.Mark
import ManifestMarkers.Text.Property.Sign

/-!
# Properties of characters

The properties of Unicode 16.0 that follow from others by a rule. A property that follows from none
is one of the tables under this module.
-/

namespace ManifestMarkers.Text

/-- Blank characters. -/
def blanks : CodeSet :=
  .ofRanges [(0x09, 0x0d), (0x20, 0x20), (0x85, 0x85), (0xa0, 0xa0), (0x1680, 0x1680),
    (0x2000, 0x200a), (0x2028, 0x2029), (0x202f, 0x202f), (0x205f, 0x205f), (0x3000, 0x3000)]

/-! ### Case -/

/-- Characters of the lower case. -/
def lowercase : CodeSet := Category.toSet .lowercaseLetter ∪ .ofRanges otherLowercase

/-- Characters of the upper case. -/
def allUppercase : CodeSet := Category.toSet .uppercaseLetter ∪ .ofRanges otherUppercase

/-- Characters with case. -/
def cased : CodeSet := .unions [lowercase, allUppercase, Category.toSet .titlecaseLetter]

/-- Characters that lower case changes. -/
def changesWhenLowercased : CodeSet := .ofStrides lowercaseChanges

/-- Characters that upper case changes. -/
def changesWhenUppercased : CodeSet := .ofStrides uppercaseChanges

/-- Characters that title case changes. -/
def changesWhenTitlecased : CodeSet :=
  (changesWhenUppercased \ .ofStrides uppercaseOnlyChanges) ∪ .ofStrides titlecaseOnlyChanges

/-- Characters that case folding changes. -/
def changesWhenCasefolded : CodeSet :=
  (changesWhenLowercased \ .ofStrides lowercaseOnlyChanges) ∪ .ofStrides foldingOnlyChanges

/-- Characters that some change of case changes. -/
def changesWhenCasemapped : CodeSet :=
  .unions [changesWhenLowercased, changesWhenUppercased, changesWhenTitlecased]

/-! ### Letters and words -/

/-- Characters that stand for a sound, a syllable or a word. -/
def alphabetic : CodeSet :=
  .unions [lowercase, allUppercase,
    ofCategories [.titlecaseLetter, .modifierLetter, .otherLetter, .letterNumber],
    .ofRanges otherAlphabetic]

/-- Characters that patterns treat as part of a word: alphabetic characters, marks, decimal digits,
connector punctuation and the join controls. -/
def wordCharacters : CodeSet :=
  .unions [alphabetic, ofCategories (.decimalNumber :: .connectorPunctuation :: Category.marks),
    .ofRanges joinControls]

/-- Characters of mathematics. -/
def mathCharacters : CodeSet := Category.toSet .mathSymbol ∪ .ofRanges otherMath

/-! ### Identifiers -/

/-- What is reserved for patterns has no place in identifiers. -/
def reservedForPatterns : CodeSet := .ofRanges patternSyntax ∪ .ofRanges patternSpace

/-- Characters that may start an identifier. -/
def idStart : CodeSet :=
  (ofCategories (.letterNumber :: Category.letters) ∪ .ofRanges otherIdStart) \ reservedForPatterns

/-- Characters that may go on with an identifier. -/
def idContinue : CodeSet :=
  .unions [idStart,
    ofCategories [.nonspacingMark, .spacingMark, .decimalNumber, .connectorPunctuation],
    .ofRanges otherIdContinue] \ reservedForPatterns

/-- Characters that may start an identifier, also after normalization. -/
def xidStart : CodeSet := idStart \ .ofRanges unstableIdStart

/-- Characters that may go on with an identifier, also after normalization. -/
def xidContinue : CodeSet := idContinue \ .ofRanges unstableIdContinue

/-! ### Layout -/

/-- Characters that extend the one before them. -/
def extending : CodeSet :=
  ofCategories [.nonspacingMark, .enclosingMark] ∪ .ofRanges otherExtending

/-- Characters that stand on their own. -/
def standing : CodeSet :=
  assigned \ .unions [extending,
    ofCategories [.control, .format, .privateUse, .lineSeparator, .paragraphSeparator]]

/-- Characters without a visible form, which a display may leave out: the format characters among
them are those that do not annotate, describe or precede others. -/
def ignorable : CodeSet :=
  .unions [.ofRanges otherIgnorable, .ofRanges variationSelectors,
    Category.toSet .format \
      .unions [blanks, .range 0xfff9 0xfffb, .range 0x13430 0x13440, .ofRanges prependedMarks]]

end ManifestMarkers.Text
