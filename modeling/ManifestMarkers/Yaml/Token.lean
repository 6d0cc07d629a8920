import ManifestMarkers.Text.Basic

/-!
# YAML tokens

The tokens of a YAML stream. Indentation appears as tokens that open and close block collections,
and a key is announced by a token in front of it, also where the text shows it to be a key only
later. The text of a tag is kept in bytes, because escapes can spell any bytes.
-/

namespace ManifestMarkers.Yaml

/-- How a scalar is written. -/
inductive Style
  | plain
  | singleQuoted
  | doubleQuoted
  | literal
  | folded
  deriving DecidableEq, Repr

/-- A token of a YAML stream. The end of the stream is the end of the list of tokens. -/
inductive Token
  | versionDirective (major minor : Nat)
  | tagDirective (handle : List Char) (lead : List UInt8)
  | documentStart
  | documentEnd
  | blockSequenceStart
  | blockMappingStart
  | blockEnd
  | flowSequenceStart
  | flowSequenceEnd
  | flowMappingStart
  | flowMappingEnd
  | blockEntry
  | flowEntry
  | key
  | value
  | alias (name : List Char)
  | anchor (name : List Char)
  | tag (handle : List Char) (suffix : List UInt8)
  | scalar (text : List Char) (style : Style)
  deriving DecidableEq, Repr

/-- The bytes of a text that is written without escapes in a tag. -/
def tagBytes (cs : List Char) : List UInt8 := cs.map fun c => c.val.toUInt8

/-- The tag that is an exclamation mark alone. -/
def loneTag : List UInt8 := tagBytes ['!']

/-! ### Character classes -/

/-- Characters that a YAML stream may hold. -/
def isAllowed (c : Char) : Bool :=
  let n := c.toNat
  n == 0x09 || n == 0x0a || n == 0x0d || (0x20 ≤ n && n ≤ 0x7e) || n == 0x85 ||
    (0xa0 ≤ n && n ≤ 0xd7ff) || (0xe000 ≤ n && n ≤ 0xfffd) || 0x10000 ≤ n

/-- Line breaks: carriage return, line feed, next line, line and paragraph separator. -/
def isBreak (c : Char) : Bool :=
  c == '\r' || c == '\n' || c.toNat == 0x85 || c.toNat == 0x2028 || c.toNat == 0x2029

/-- A space or a tab. -/
def isSpaceOrTab (c : Char) : Bool := c == ' ' || c == '\t'

/-- Characters of anchors, handles and directive names. -/
def isNameChar (c : Char) : Bool := c.isAlphanum || c == '_' || c == '-'

/-! ### Places in the stream -/

/-- A place in a stream: what is left, and where it stands. -/
structure Spot where
  rest : List Char
  /-- The number of bytes before it. -/
  index : Nat := 0
  line : Nat := 0
  column : Nat := 0
  deriving DecidableEq, Repr

namespace Spot

/-- Whether the next character satisfies `p`. -/
def next (s : Spot) (p : Char → Bool) : Bool :=
  match s.rest with
  | c :: _ => p c
  | [] => false

/-- Whether a blank, a line break or the end of the stream stands `n` characters ahead. -/
def blankOrEndAt (s : Spot) (n : Nat) : Bool :=
  match s.rest.drop n with
  | c :: _ => isSpaceOrTab c || isBreak c
  | [] => true

/-- Whether a blank, a line break or the end of the stream is next. -/
def atBlankOrEnd (s : Spot) : Bool := s.blankOrEndAt 0

/-- The place after the next `n` characters. -/
def skipMany (s : Spot) (n : Nat) : Spot :=
  { s with
    rest := s.rest.drop n
    index := s.index + Text.byteSize (s.rest.take n)
    column := s.column + n }

/-- The place after the next character. -/
def skip (s : Spot) : Spot := s.skipMany 1

/-- The place after a line break, with the break as the content of scalars keeps it. -/
def readBreak (s : Spot) : List Char × Spot :=
  match s.rest with
  | '\r' :: '\n' :: cs => (['\n'], ⟨cs, s.index + 2, s.line + 1, 0⟩)
  | c :: cs =>
    if isBreak c then
      (if c.toNat == 0x2028 || c.toNat == 0x2029 then [c] else ['\n'],
        ⟨cs, s.index + c.utf8Size, s.line + 1, 0⟩)
    else ([], s)
  | [] => ([], s)

/-- The place after the characters that satisfy `p`, with them. They hold no line break. -/
def readWhile (s : Spot) (p : Char → Bool) : List Char × Spot :=
  let read := s.rest.takeWhile p
  (read, s.skipMany read.length)

/-- The place after the characters that satisfy `p`. -/
def skipWhile (s : Spot) (p : Char → Bool) : Spot := (s.readWhile p).2

/-- Whether a document indicator stands at the start of a line. -/
def atDocumentIndicator (s : Spot) : Bool :=
  s.column == 0 && s.blankOrEndAt 3 &&
    (s.rest.take 3 == ['-', '-', '-'] || s.rest.take 3 == ['.', '.', '.'])

end Spot

end ManifestMarkers.Yaml
