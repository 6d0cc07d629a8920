import ManifestMarkers.Text.Property
import ManifestMarkers.Text.Script

/-!
# Breaks between characters, words and sentences

Text is divided into what readers see as one character, into words and into sentences by classes of
characters. This module has the classes of Unicode 16.0: their names, and their characters by rules
on the properties and by exceptions.
-/

namespace ManifestMarkers.Text

/-- The signs at the end of a line that all divisions treat alike. -/
def lineEnds : List NamedSet := [⟨["CR"], .single 0x0d⟩, ⟨["LF"], .single 0x0a⟩]

/-- The zero width joiner. -/
def joiner : CodeSet := .single 0x200d

/-- The signs before digits that count as digits. -/
def digitSigns : CodeSet := .ofRanges prependedMarks \ .single 0x70f

/-- Decimal digits and the separators and signs that go with them. -/
def numerals : CodeSet :=
  .unions [Category.toSet .decimalNumber, digitSigns, .single 0x66b, .single 0x19da]

/-! ### Characters as readers see them -/

/-- Leading consonants of Hangul. -/
def hangulLeading : CodeSet := .ofRanges [(0x1100, 0x115f), (0xa960, 0xa97c)]

/-- Vowels of Hangul, and the vowels of Kirat Rai that join like them. -/
def hangulVowels : CodeSet :=
  .ofRanges [(0x1160, 0x11a7), (0xd7b0, 0xd7c6), (0x16d63, 0x16d63), (0x16d67, 0x16d6a)]

/-- Trailing consonants of Hangul. -/
def hangulTrailing : CodeSet := .ofRanges [(0x11a8, 0x11ff), (0xd7cb, 0xd7fb)]

/-- Syllables of Hangul without a trailing consonant: every 28th of all syllables. -/
def openSyllables : CodeSet := .ofStrides [(0xac00, 0xd788, 28)]

/-- Syllables of Hangul with a trailing consonant. -/
def closedSyllables : CodeSet := .range 0xac00 0xd7a3 \ openSyllables

/-- Characters that extend the one before them, skin tones included. -/
def clusterExtending : CodeSet := extending ∪ .ofRanges emojiModifiers

/-- Characters that start a cluster with the one after them. -/
def clusterPrepending : CodeSet :=
  .ofRanges prependedMarks ∪
    .ofRanges [(0xd4e, 0xd4e), (0x111c2, 0x111c3), (0x113d1, 0x113d1), (0x1193f, 0x1193f),
      (0x11941, 0x11941), (0x11a3a, 0x11a3a), (0x11a84, 0x11a89), (0x11d46, 0x11d46),
      (0x11f02, 0x11f02)]

/-- Marks with room that do not join the character before them. -/
def looseMarks : CodeSet :=
  .ofRanges [(0x102b, 0x102c), (0x1038, 0x1038), (0x1062, 0x1064), (0x1067, 0x106d),
    (0x1083, 0x1083), (0x1087, 0x108c), (0x108f, 0x108f), (0x109a, 0x109c), (0x1a61, 0x1a61),
    (0x1a63, 0x1a64), (0xaa7b, 0xaa7b), (0xaa7d, 0xaa7d), (0x11720, 0x11721)]

/-- Marks with room that join the character before them. -/
def clusterSpacing : CodeSet :=
  ((Category.toSet .spacingMark \ extending) \ looseMarks) ∪
    .ofRanges [(0xe33, 0xe33), (0xeb3, 0xeb3)]

/-- Characters that stand alone: controls, separators, format characters and code points that are
kept for characters without a visible form. -/
def clusterControls : CodeSet :=
  (ofCategories [.control, .format, .lineSeparator, .paragraphSeparator] ∪ (ignorable \ assigned)) \
    .unions [.single 0x0a, .single 0x0d, joiner, extending, .ofRanges prependedMarks]

/-- The classes of characters as readers see them. -/
def clusterClasses : List NamedSet :=
  lineEnds ++
    [⟨["Control", "CN"], clusterControls⟩,
     ⟨["Extend", "EX"], clusterExtending⟩,
     ⟨["L"], hangulLeading⟩,
     ⟨["LV"], openSyllables⟩,
     ⟨["LVT"], closedSyllables⟩,
     ⟨["Prepend", "PP"], clusterPrepending⟩,
     ⟨["Regional_Indicator", "RI"], .ofRanges regionalIndicators⟩,
     ⟨["SpacingMark", "SM"], clusterSpacing⟩,
     ⟨["T"], hangulTrailing⟩,
     ⟨["V"], hangulVowels⟩,
     ⟨["ZWJ"], joiner⟩]

/-! ### Words -/

/-- The characters of the script with the given name. -/
def ofScript (name : String) : CodeSet :=
  .unions ((scripts.filter (·.names.contains name)).map fun s => .ofRanges s.ranges)

/-- Scripts without blanks between words, where a dictionary finds the words. -/
def unspacedScripts : List String :=
  ["Hiragana", "Thai", "Lao", "Myanmar", "Khmer", "Tai_Le", "New_Tai_Lue", "Tai_Tham", "Tai_Viet",
   "Ahom"]

/-- Letters of Hebrew. -/
def hebrewLetters : CodeSet := ofScript "Hebrew" ∩ Category.toSet .otherLetter

/-- Characters of Katakana, with the signs that are used with them. -/
def katakana : CodeSet :=
  ofScript "Katakana" ∪
    .ofRanges [(0x3031, 0x3035), (0x309b, 0x309c), (0x30a0, 0x30a0), (0x30fc, 0x30fc),
      (0xff70, 0xff70)]

/-- Characters that belong to the one before them. -/
def wordExtending : CodeSet := clusterExtending ∪ Category.toSet .spacingMark

/-- Signs that count as letters of a word. -/
def wordSigns : CodeSet :=
  .ofRanges [(0xb8, 0xb8), (0x2c2, 0x2c5), (0x2d2, 0x2d7), (0x2de, 0x2df), (0x2e5, 0x2eb),
    (0x2ed, 0x2ed), (0x2ef, 0x2ff), (0x55a, 0x55c), (0x55e, 0x55e), (0x58a, 0x58a),
    (0x5f3, 0x5f3), (0x70f, 0x70f), (0xa708, 0xa716), (0xa720, 0xa721), (0xa789, 0xa78a),
    (0xab5b, 0xab5b)]

/-- Letters of words in scripts with blanks between words. -/
def wordLetters : CodeSet :=
  (alphabetic \ .unions ([.ofRanges ideographs, katakana, hebrewLetters, wordExtending, numerals] ++
    unspacedScripts.map ofScript)) ∪ wordSigns

/-- Format characters inside words. -/
def wordFormat : CodeSet :=
  Category.toSet .format \ .unions [.range 0x200b 0x200d, .ofRanges prependedMarks, extending]

/-- Signs inside of words and numbers. -/
def midWordOrNumber : CodeSet :=
  .ofRanges [(0x2e, 0x2e), (0x2018, 0x2019), (0x2024, 0x2024), (0xfe52, 0xfe52), (0xff07, 0xff07),
    (0xff0e, 0xff0e)]

/-- Signs inside of words. -/
def midWord : CodeSet :=
  .ofRanges [(0x3a, 0x3a), (0xb7, 0xb7), (0x387, 0x387), (0x55f, 0x55f), (0x5f4, 0x5f4),
    (0x2027, 0x2027), (0xfe13, 0xfe13), (0xfe55, 0xfe55), (0xff1a, 0xff1a)]

/-- Signs inside of numbers. -/
def midNumber : CodeSet :=
  .ofRanges [(0x2c, 0x2c), (0x3b, 0x3b), (0x37e, 0x37e), (0x589, 0x589), (0x60c, 0x60d),
    (0x66c, 0x66c), (0x7f8, 0x7f8), (0x2044, 0x2044), (0xfe10, 0xfe10), (0xfe14, 0xfe14),
    (0xfe50, 0xfe50), (0xfe54, 0xfe54), (0xff0c, 0xff0c), (0xff1b, 0xff1b)]

/-- The classes of characters in words. -/
def wordClasses : List NamedSet :=
  lineEnds ++
    [⟨["ALetter", "LE"], wordLetters⟩,
     ⟨["Double_Quote", "DQ"], .single 0x22⟩,
     ⟨["Extend"], wordExtending⟩,
     ⟨["ExtendNumLet", "EX"], Category.toSet .connectorPunctuation ∪ .single 0x202f⟩,
     ⟨["Format", "FO"], wordFormat⟩,
     ⟨["Hebrew_Letter", "HL"], hebrewLetters⟩,
     ⟨["Katakana", "KA"], katakana⟩,
     ⟨["MidLetter", "ML"], midWord⟩,
     ⟨["MidNum", "MN"], midNumber⟩,
     ⟨["MidNumLet", "MB"], midWordOrNumber⟩,
     ⟨["Newline", "NL"], .ofRanges [(0x0b, 0x0c), (0x85, 0x85), (0x2028, 0x2029)]⟩,
     ⟨["Numeric", "NU"], numerals⟩,
     ⟨["Regional_Indicator", "RI"], .ofRanges regionalIndicators⟩,
     ⟨["Single_Quote", "SQ"], .single 0x27⟩,
     ⟨["WSegSpace"],
      Category.toSet .spaceSeparator \
        .ofRanges [(0xa0, 0xa0), (0x2007, 0x2007), (0x202f, 0x202f)]⟩,
     ⟨["ZWJ"], joiner⟩]

/-- Characters that case ignores: marks, format characters, modifiers and signs inside of words. -/
def caseIgnorable : CodeSet :=
  ofCategories [.nonspacingMark, .enclosingMark, .format, .modifierLetter, .modifierSymbol] ∪
    .unions [midWord, midWordOrNumber, .single 0x27]

/-! ### Sentences -/

/-- Characters that belong to the one before them. -/
def sentenceExtending : CodeSet :=
  .unions [extending, Category.toSet .spacingMark, joiner]

/-- Ends of paragraphs. -/
def paragraphEnds : CodeSet := .ofRanges [(0x85, 0x85), (0x2028, 0x2029)]

/-- Letters of the lower case. The letters of Georgian count as letters without case. -/
def sentenceLower : CodeSet :=
  lowercase \ .unions [extending, .range 0x10d0 0x10fa, .range 0x10fd 0x10ff]

/-- Letters of the upper case or title case. -/
def sentenceUpper : CodeSet :=
  (allUppercase ∪ Category.toSet .titlecaseLetter) \ .range 0x1c90 0x1cbf

/-- Letters without case. -/
def sentenceLetters : CodeSet :=
  (alphabetic ∪ .single 0x5f3) \
    .unions [sentenceLower, sentenceUpper, sentenceExtending, numerals]

/-- Full stops, which also end abbreviations. -/
def fullStops : CodeSet :=
  .ofRanges [(0x2e, 0x2e), (0x2024, 0x2024), (0xfe52, 0xfe52), (0xff0e, 0xff0e)]

/-- Signs after which a sentence goes on. -/
def sentenceContinuing : CodeSet :=
  .ofRanges [(0x2c, 0x2d), (0x3a, 0x3b), (0x37e, 0x37e), (0x55d, 0x55d), (0x60c, 0x60d),
    (0x7f8, 0x7f8), (0x1802, 0x1802), (0x1808, 0x1808), (0x2013, 0x2014), (0x3001, 0x3001),
    (0xfe10, 0xfe11), (0xfe13, 0xfe14), (0xfe31, 0xfe32), (0xfe50, 0xfe51), (0xfe54, 0xfe55),
    (0xfe58, 0xfe58), (0xfe63, 0xfe63), (0xff0c, 0xff0d), (0xff1a, 0xff1b), (0xff64, 0xff64)]

/-- Brackets and quotes. -/
def sentenceClosing : CodeSet :=
  ofCategories [.openPunctuation, .closePunctuation, .initialPunctuation, .finalPunctuation] ∪
    .ofRanges [(0x22, 0x22), (0x27, 0x27), (0x275b, 0x2760), (0x2e00, 0x2e01), (0x2e06, 0x2e08),
      (0x2e0b, 0x2e0b), (0x1f676, 0x1f678)]

/-- The classes of characters in sentences. -/
def sentenceClasses : List NamedSet :=
  lineEnds ++
    [⟨["ATerm", "AT"], fullStops⟩,
     ⟨["Close", "CL"], sentenceClosing⟩,
     ⟨["Extend", "EX"], sentenceExtending⟩,
     ⟨["Format", "FO"],
      Category.toSet .format \ .unions [digitSigns, sentenceExtending]⟩,
     ⟨["Lower", "LO"], sentenceLower⟩,
     ⟨["Numeric", "NU"], numerals ∪ .single 0x66c⟩,
     ⟨["OLetter", "LE"], sentenceLetters⟩,
     ⟨["SContinue", "SC"], sentenceContinuing⟩,
     ⟨["STerm", "ST"], .ofRanges sentenceTerminals \ fullStops⟩,
     ⟨["Sep", "SE"], paragraphEnds⟩,
     ⟨["Sp", "SP"], blanks \ (paragraphEnds ∪ .ofRanges [(0x0a, 0x0a), (0x0d, 0x0d)])⟩,
     ⟨["Upper", "UP"], sentenceUpper⟩]

end ManifestMarkers.Text
