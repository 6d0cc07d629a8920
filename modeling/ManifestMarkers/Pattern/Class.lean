import ManifestMarkers.Text.Property

/-!
# Classes of characters in patterns

The classes that an escape of one letter or a name between `[:` and `:]` stands for. A pattern over
bytes knows ASCII characters only, so its classes have no complement.
-/

namespace ManifestMarkers.Pattern

open Text (CodeSet)

/-- Blank characters below 128. -/
def asciiBlank : CodeSet := .ofRanges [(0x09, 0x0d), (0x20, 0x20)]

/-- Decimal digits below 128. -/
def asciiDigit : CodeSet := .range 0x30 0x39

/-- Word characters below 128. -/
def asciiWord : CodeSet := .ofRanges [(0x30, 0x39), (0x41, 0x5a), (0x5f, 0x5f), (0x61, 0x7a)]

/-- The word characters over all characters or over bytes. -/
def wordSet (overUnicode : Bool) : CodeSet :=
  if overUnicode then Text.wordCharacters else asciiWord

/-- The class that a letter after a backslash stands for, over all characters or over bytes. -/
def classEscape? (overUnicode : Bool) (c : Char) : Option CodeSet :=
  let digit := if overUnicode then Text.Category.toSet .decimalNumber else asciiDigit
  let blank := if overUnicode then Text.blanks else asciiBlank
  let complement (s : CodeSet) : Option CodeSet := if overUnicode then some s.compl else none
  match c with
  | 'd' => some digit
  | 's' => some blank
  | 'w' => some (wordSet overUnicode)
  | 'D' => complement digit
  | 'S' => complement blank
  | 'W' => complement (wordSet overUnicode)
  | _ => none

/-- The classes that are named between `[:` and `:]`. -/
def asciiClass? (name : List Char) : Option CodeSet :=
  match String.ofList name with
  | "alnum" => some (.ofRanges [(0x30, 0x39), (0x41, 0x5a), (0x61, 0x7a)])
  | "alpha" => some (.ofRanges [(0x41, 0x5a), (0x61, 0x7a)])
  | "ascii" => some (.range 0x00 0x7f)
  | "blank" => some (.ofRanges [(0x09, 0x09), (0x20, 0x20)])
  | "cntrl" => some (.ofRanges [(0x00, 0x1f), (0x7f, 0x7f)])
  | "digit" => some asciiDigit
  | "graph" => some (.range 0x21 0x7e)
  | "lower" => some (.range 0x61 0x7a)
  | "print" => some (.range 0x20 0x7e)
  | "punct" => some (.ofRanges [(0x21, 0x2f), (0x3a, 0x40), (0x5b, 0x60), (0x7b, 0x7e)])
  | "space" => some asciiBlank
  | "upper" => some (.range 0x41 0x5a)
  | "word" => some asciiWord
  | "xdigit" => some (.ofRanges [(0x30, 0x39), (0x41, 0x46), (0x61, 0x66)])
  | _ => none

/-- The set with every character that differs from a member in the case of an ASCII letter only. -/
def foldAscii (s : CodeSet) : CodeSet :=
  .unions [s, (s ∩ .range 0x41 0x5a).moved 32, (s ∩ .range 0x61 0x7a).moved (-32)]

end ManifestMarkers.Pattern
