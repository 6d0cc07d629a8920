import ManifestMarkers.Text.Age
import ManifestMarkers.Text.Basic
import ManifestMarkers.Text.Break
import ManifestMarkers.Text.Script.Shared

/-!
# Classes of patterns by a property

A class is named by a property that a character has or has not, by a category or a script, or by a
property and one of its values. In names, case, spaces, hyphens and underscores do not matter, and
neither does `is` at the start.
-/

namespace ManifestMarkers.Pattern

open Text (Category CodeSet NamedSet ofCategories)

/-- A name without what does not matter in it. -/
def normalName (name : List Char) : List Char :=
  let bare : List Char := match name with
    | a :: b :: rest => if a.toLower = 'i' ∧ b.toLower = 's' then rest else name
    | _ => name
  let normal := (bare.filter fun c => c.val < 0x80 && c != ' ' && c != '_' && c != '-').map
    Char.toLower
  if normal == ['c'] && bare.length < name.length then ['i', 's', 'c'] else normal

/-- Whether one of some names is the normal name `name`. -/
def isNameIn (names : List String) (name : List Char) : Bool :=
  names.any fun n => normalName n.toList == name

/-- The set with the given normal name. -/
def findSet? (sets : List NamedSet) (name : List Char) : Option CodeSet :=
  (sets.find? fun s => isNameIn s.names name).map (·.members)

/-! ### Categories and scripts -/

/-- The categories and their unions. -/
def categorySets : List NamedSet :=
  [⟨["Any"], .range 0 0x10ffff⟩,
   ⟨["ASCII"], .range 0 0x7f⟩,
   ⟨["Assigned"], Text.assigned⟩,
   ⟨["Unassigned", "Cn"], Text.assigned.compl⟩,
   ⟨["Other", "C"], Text.graphic.compl⟩,
   ⟨["Control", "Cc", "cntrl"], Category.toSet .control⟩,
   ⟨["Format", "Cf"], Category.toSet .format⟩,
   ⟨["Private_Use", "Co"], Category.toSet .privateUse⟩,
   ⟨["Letter", "L"], ofCategories Category.letters⟩,
   ⟨["Cased_Letter", "LC"], ofCategories Category.casedLetters⟩,
   ⟨["Lowercase_Letter", "Ll"], Category.toSet .lowercaseLetter⟩,
   ⟨["Modifier_Letter", "Lm"], Category.toSet .modifierLetter⟩,
   ⟨["Other_Letter", "Lo"], Category.toSet .otherLetter⟩,
   ⟨["Titlecase_Letter", "Lt"], Category.toSet .titlecaseLetter⟩,
   ⟨["Uppercase_Letter", "Lu"], Category.toSet .uppercaseLetter⟩,
   ⟨["Mark", "M", "Combining_Mark"], ofCategories Category.marks⟩,
   ⟨["Spacing_Mark", "Mc"], Category.toSet .spacingMark⟩,
   ⟨["Enclosing_Mark", "Me"], Category.toSet .enclosingMark⟩,
   ⟨["Nonspacing_Mark", "Mn"], Category.toSet .nonspacingMark⟩,
   ⟨["Number", "N"], ofCategories Category.numbers⟩,
   ⟨["Decimal_Number", "Nd", "digit"], Category.toSet .decimalNumber⟩,
   ⟨["Letter_Number", "Nl"], Category.toSet .letterNumber⟩,
   ⟨["Other_Number", "No"], Category.toSet .otherNumber⟩,
   ⟨["Punctuation", "P", "punct"], ofCategories Category.punctuation⟩,
   ⟨["Connector_Punctuation", "Pc"], Category.toSet .connectorPunctuation⟩,
   ⟨["Dash_Punctuation", "Pd"], Category.toSet .dashPunctuation⟩,
   ⟨["Close_Punctuation", "Pe"], Category.toSet .closePunctuation⟩,
   ⟨["Final_Punctuation", "Pf"], Category.toSet .finalPunctuation⟩,
   ⟨["Initial_Punctuation", "Pi"], Category.toSet .initialPunctuation⟩,
   ⟨["Other_Punctuation", "Po"], Category.toSet .otherPunctuation⟩,
   ⟨["Open_Punctuation", "Ps"], Category.toSet .openPunctuation⟩,
   ⟨["Symbol", "S"], ofCategories Category.symbols⟩,
   ⟨["Currency_Symbol", "Sc"], Category.toSet .currencySymbol⟩,
   ⟨["Modifier_Symbol", "Sk"], Category.toSet .modifierSymbol⟩,
   ⟨["Math_Symbol", "Sm"], Category.toSet .mathSymbol⟩,
   ⟨["Other_Symbol", "So"], Category.toSet .otherSymbol⟩,
   ⟨["Separator", "Z"], ofCategories Category.separators⟩,
   ⟨["Line_Separator", "Zl"], Category.toSet .lineSeparator⟩,
   ⟨["Paragraph_Separator", "Zp"], Category.toSet .paragraphSeparator⟩,
   ⟨["Space_Separator", "Zs"], Category.toSet .spaceSeparator⟩]

/-- The script with the given normal name. -/
def findScript? (name : List Char) : Option Text.Script :=
  Text.scripts.find? fun s => isNameIn s.names name

/-- The characters of a script. -/
def scriptSet? (name : List Char) : Option CodeSet :=
  (findScript? name).map fun s => .ofRanges s.ranges

/-- The characters of which a table says what scripts use them. -/
def sharedSet : CodeSet := .joinRanges (Text.sharedCharacters.map (·.1))

/-- The characters that a script uses: its own, unless they are shared and it takes no part, and the
shared ones in which it takes part. -/
def scriptUse (s : Text.Script) : CodeSet :=
  let taken := Text.sharedCharacters.filter fun (_, codes) => codes.any s.names.contains
  (CodeSet.ofRanges s.ranges \ sharedSet) ∪ .joinRanges (taken.map (·.1))

/-- The characters that the script with the given normal name uses. -/
def scriptUseSet? (name : List Char) : Option CodeSet := (findScript? name).map scriptUse

/-! ### Ages -/

/-- The other name of a version: `V1_1` for `1.1`. -/
def versionCode (version : String) : String :=
  String.ofList ('V' :: version.toList.map fun c => if c = '.' then '_' else c)

/-- The code points that were assigned by the version with the given normal name or before. -/
def ageSet? (name : List Char) : Option CodeSet :=
  let isNamed (a : String × List Text.CodeRange) : Bool := isNameIn [a.1, versionCode a.1] name
  match Text.additions.dropWhile (!isNamed ·) with
  | last :: _ =>
    let before := Text.additions.takeWhile (!isNamed ·)
    some (.unions ((before ++ [last]).map fun a => .ofRanges a.2))
  | [] => none

/-! ### Properties -/

/-- The properties that a character has or has not. -/
def propertySets : List NamedSet :=
  [⟨["ASCII_Hex_Digit", "AHex"], .ofRanges [(0x30, 0x39), (0x41, 0x46), (0x61, 0x66)]⟩,
   ⟨["Alphabetic", "Alpha"], Text.alphabetic⟩,
   ⟨["Bidi_Control", "Bidi_C"], .ofRanges Text.directionControls⟩,
   ⟨["Bidi_Mirrored", "Bidi_M"], .ofRanges Text.mirrored⟩,
   ⟨["Case_Ignorable", "CI"], Text.caseIgnorable⟩,
   ⟨["Cased"], Text.cased⟩,
   ⟨["Changes_When_Casefolded", "CWCF"], Text.changesWhenCasefolded⟩,
   ⟨["Changes_When_Casemapped", "CWCM"], Text.changesWhenCasemapped⟩,
   ⟨["Changes_When_Lowercased", "CWL"], Text.changesWhenLowercased⟩,
   ⟨["Changes_When_Titlecased", "CWT"], Text.changesWhenTitlecased⟩,
   ⟨["Changes_When_Uppercased", "CWU"], Text.changesWhenUppercased⟩,
   ⟨["Dash"], .ofRanges Text.dashes⟩,
   ⟨["Default_Ignorable_Code_Point", "DI"], Text.ignorable⟩,
   ⟨["Deprecated", "Dep"], .ofRanges Text.deprecated⟩,
   ⟨["Diacritic", "Dia"], .ofRanges Text.diacritics⟩,
   ⟨["Emoji"], .ofRanges Text.emoji⟩,
   ⟨["Emoji_Component", "EComp"], .ofRanges Text.emojiComponents⟩,
   ⟨["Emoji_Modifier", "EMod"], .ofRanges Text.emojiModifiers⟩,
   ⟨["Emoji_Modifier_Base", "EBase"], .ofRanges Text.emojiModifierBases⟩,
   ⟨["Emoji_Presentation", "EPres"], .ofRanges Text.emojiPresentation⟩,
   ⟨["Extended_Pictographic", "ExtPict"], .ofRanges Text.pictographs⟩,
   ⟨["Extender", "Ext"], .ofRanges Text.extenders⟩,
   ⟨["Grapheme_Base", "Gr_Base"], Text.standing⟩,
   ⟨["Grapheme_Extend", "Gr_Ext"], Text.extending⟩,
   ⟨["Grapheme_Link", "Gr_Link"], .ofRanges Text.linkers⟩,
   ⟨["Hex_Digit", "Hex"], .ofRanges Text.hexDigits⟩,
   ⟨["Hyphen"], .ofRanges Text.hyphens⟩,
   ⟨["IDS_Binary_Operator", "IDSB"], .ofRanges Text.binaryOperators⟩,
   ⟨["IDS_Trinary_Operator", "IDST"], .ofRanges Text.trinaryOperators⟩,
   ⟨["IDS_Unary_Operator", "IDSU"], .ofRanges Text.unaryOperators⟩,
   ⟨["ID_Compat_Math_Continue"], .ofRanges Text.mathIdStart ∪ .ofRanges Text.mathIdContinue⟩,
   ⟨["ID_Compat_Math_Start"], .ofRanges Text.mathIdStart⟩,
   ⟨["ID_Continue", "IDC"], Text.idContinue⟩,
   ⟨["ID_Start", "IDS"], Text.idStart⟩,
   ⟨["Ideographic", "Ideo"], .ofRanges Text.ideographs⟩,
   ⟨["Join_Control", "Join_C"], .ofRanges Text.joinControls⟩,
   ⟨["Logical_Order_Exception", "LOE"], .ofRanges Text.logicalOrderExceptions⟩,
   ⟨["Lowercase", "Lower"], Text.lowercase⟩,
   ⟨["Math"], Text.mathCharacters⟩,
   ⟨["Modifier_Combining_Mark", "MCM"], .ofRanges Text.modifierCombiningMarks⟩,
   ⟨["Noncharacter_Code_Point", "NChar"], .ofRanges Text.noncharacters⟩,
   ⟨["Other_Alphabetic", "OAlpha"], .ofRanges Text.otherAlphabetic⟩,
   ⟨["Other_Default_Ignorable_Code_Point", "ODI"], .ofRanges Text.otherIgnorable⟩,
   ⟨["Other_Grapheme_Extend", "OGr_Ext"], .ofRanges Text.otherExtending⟩,
   ⟨["Other_ID_Continue", "OIDC"], .ofRanges Text.otherIdContinue⟩,
   ⟨["Other_ID_Start", "OIDS"], .ofRanges Text.otherIdStart⟩,
   ⟨["Other_Lowercase", "OLower"], .ofRanges Text.otherLowercase⟩,
   ⟨["Other_Math", "OMath"], .ofRanges Text.otherMath⟩,
   ⟨["Other_Uppercase", "OUpper"], .ofRanges Text.otherUppercase⟩,
   ⟨["Pattern_Syntax", "Pat_Syn"], .ofRanges Text.patternSyntax⟩,
   ⟨["Pattern_White_Space", "Pat_WS"], .ofRanges Text.patternSpace⟩,
   ⟨["Prepended_Concatenation_Mark", "PCM"], .ofRanges Text.prependedMarks⟩,
   ⟨["Quotation_Mark", "QMark"], .ofRanges Text.quotationMarks⟩,
   ⟨["Radical"], .ofRanges Text.radicals⟩,
   ⟨["Regional_Indicator", "RI"], .ofRanges Text.regionalIndicators⟩,
   ⟨["Sentence_Terminal", "STerm"], .ofRanges Text.sentenceTerminals⟩,
   ⟨["Soft_Dotted", "SD"], .ofRanges Text.softDotted⟩,
   ⟨["Terminal_Punctuation", "Term"], .ofRanges Text.terminalPunctuation⟩,
   ⟨["Unified_Ideograph", "UIdeo"], .ofRanges Text.unifiedIdeographs⟩,
   ⟨["Uppercase", "Upper"], Text.allUppercase⟩,
   ⟨["Variation_Selector", "VS"], .ofRanges Text.variationSelectors⟩,
   ⟨["White_Space", "WSpace", "space"], Text.blanks⟩,
   ⟨["XID_Continue", "XIDC"], Text.xidContinue⟩,
   ⟨["XID_Start", "XIDS"], Text.xidStart⟩]

/-- The characters that a name stands for. -/
def namedSet? (name : List Char) : Option CodeSet :=
  let name := normalName name
  findSet? propertySets name <|> findSet? categorySets name <|> scriptSet? name

/-- The properties with more than two values, each with the search for a value. -/
def valuedProperties : List (List String × (List Char → Option CodeSet)) :=
  [(["General_Category", "gc"], findSet? categorySets),
   (["Script", "sc"], scriptSet?),
   (["Script_Extensions", "scx"], scriptUseSet?),
   (["Age"], ageSet?),
   (["Grapheme_Cluster_Break", "GCB"], findSet? Text.clusterClasses),
   (["Word_Break", "WB"], findSet? Text.wordClasses),
   (["Sentence_Break", "SB"], findSet? Text.sentenceClasses)]

/-- The characters with a value of a property. -/
def valueSet? (property value : List Char) : Option CodeSet := do
  let name := normalName property
  let (_, find?) ← valuedProperties.find? fun p => isNameIn p.1 name
  find? (normalName value)

/-- Split a text at the first occurrence of another one. -/
def splitAt? (needle : List Char) : List Char → Option (List Char × List Char)
  | [] => none
  | c :: cs => match Text.after? needle (c :: cs) with
    | some after => some ([], after)
    | none => (splitAt? needle cs).map fun (before, after) => (c :: before, after)

/-- The characters that the text between braces stands for, and whether they are meant or all
others: a name, or a property and a value. -/
def bracedSet? (text : List Char) : Option (CodeSet × Bool) :=
  match splitAt? ['!', '='] text with
  | some (property, value) => (valueSet? property value).map (·, false)
  | none => match splitAt? [':'] text <|> splitAt? ['='] text with
    | some (property, value) => (valueSet? property value).map (·, true)
    | none => (namedSet? text).map (·, true)

end ManifestMarkers.Pattern
