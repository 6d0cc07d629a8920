import ManifestMarkers.Lexeme
import ManifestMarkers.Lexeme.Quoting

/-!
# Reading lexemes

The lexer is a transition system: a state holds the characters that are left, the place of the first
of them, and what may come next. A step reads a few characters, emits a few lexemes and either goes
on or halts; `lex` runs steps from the start of a text.

* `Reading.step` is one step, `Reading.run` several.
* `Reading.weight` bounds the number of steps that are left.
-/

namespace ManifestMarkers.Lexeme

/-! ### Character classes -/

/-- A blank inside a line of marker text: space, tab or carriage return. -/
def isGap (c : Char) : Bool := c == ' ' || c == '\t' || c == '\r'

/-- A character that may start an identifier. -/
def isIdentStart (c : Char) : Bool := c.isAlpha || c == '_'

/-- A character that may follow in an identifier. -/
def isIdentChar (c : Char) : Bool := c.isAlphanum || c == '_' || c == '-'

/-- A character that opens a quoted string. -/
def isQuote (c : Char) : Bool := c == '"' || c == '\'' || c == '`'

/-- Whether a line ends here: at a line feed, alone or after a carriage return. -/
def atLineEnd : List Char → Bool
  | '\n' :: _ => true
  | '\r' :: '\n' :: _ => true
  | _ => false

/-- The longest unit of text at the start: a word, a number, a line end, a run of blanks, a double
slash, or else one character. -/
def unit : List Char → List Char
  | [] => []
  | '\r' :: '\n' :: _ => ['\r', '\n']
  | '/' :: '/' :: _ => ['/', '/']
  | c :: cs =>
    if isIdentStart c then c :: cs.takeWhile isIdentChar
    else if c.isDigit then c :: cs.takeWhile Char.isDigit
    else if isGap c then c :: cs.takeWhile isGap
    else [c]

/-- The kind of a bare value. -/
def bareKind (cs : List Char) : Kind :=
  if !cs.isEmpty && cs.all Char.isDigit then .integerLiteral
  else if cs == "true".toList || cs == "false".toList then .boolLiteral
  else .stringLiteral

/-- Whether a bare value goes on with `c`. -/
def isBare (inSlice : Bool) (c : Char) : Bool :=
  !(c == ',' || c == '\n' || isGap c || (inSlice && (c == '\x7d' || c == '=')))

/-! ### States -/

/-- What may come next inside a slice. -/
inductive SliceTurn
  /-- After the opening brace: an element or the closing brace. -/
  | first
  /-- After a comma: an element. -/
  | element
  /-- After an element: a comma or the closing brace. -/
  | delimiter
  deriving DecidableEq, Repr

/-- What the lexer is reading. -/
inductive Mode
  /-- Text outside of markers. -/
  | text
  /-- The path of a marker; `hasScope` once a segment has been read. -/
  | header (hasScope : Bool)
  /-- What follows the name of an argument. -/
  | afterArg
  /-- The value after `=`. -/
  | value
  /-- What follows a complete value. -/
  | afterValue
  /-- The inside of a slice. -/
  | slice (turn : SliceTurn)
  deriving DecidableEq, Repr

/-- The state of the lexer between two steps. -/
structure Reading where
  /-- The characters that are left. -/
  rest : List Char
  /-- The place of the first of them. -/
  point : Point
  mode : Mode
  /-- The comment sign seen on the current line. -/
  comment : Option CommentSign
  /-- The value of the last lexeme, for messages. -/
  last : String
  deriving DecidableEq, Repr

/-- The outcome of one step. -/
inductive Outcome
  | go (emitted : List Lexeme) (next : Reading)
  | halt (emitted : List Lexeme)
  deriving DecidableEq, Repr

namespace Reading

/-- The state at the start of a text. -/
def start (cs : List Char) : Reading := ⟨cs, .origin, .text, none, ""⟩

/-- The state after reading `read`, which leaves `rest`. -/
def skip (r : Reading) (read rest : List Char) : Reading :=
  { r with rest, point := r.point.after read }

/-- Emit one lexeme and go on in `mode`. -/
def emit (r : Reading) (lexeme : Lexeme) (mode : Mode) : Outcome :=
  .go [lexeme] { r with mode, last := lexeme.value }

/-- Halt with an error at the current place. -/
def fail (r : Reading) (what detail : String) : Outcome :=
  .halt [⟨.error, what ++ ": " ++ detail ++ " at position: " ++ r.point.text ++ ", following " ++
    Text.quoted r.last, r.point⟩]

/-- The message part for text that cannot stand here. -/
def unexpected (cs : List Char) : String := "unexpected " ++ Text.quoted (String.ofList (unit cs))

/-- Begin a marker at a `+`. -/
def beginMarker (r : Reading) (before : List Lexeme) (rest : List Char) : Outcome :=
  .go (before ++ [⟨.markerStart, "+", r.point⟩])
    { r.skip ['+'] rest with mode := .header false, last := "+" }

/-- Read a comment sign and the blanks after it; a marker may follow directly. -/
def readComment (r : Reading) (sign : CommentSign) (rest : List Char) : Outcome :=
  let read := sign.chars ++ rest.takeWhile isGap
  let after := rest.dropWhile isGap
  let next := { r.skip read after with comment := some sign }
  match after with
  | '+' :: c :: cs =>
    if isIdentStart c then next.beginMarker [⟨.comment, sign.text, r.point⟩] (c :: cs)
    else .go [] next
  | _ => .go [] next

/-- Read text outside of markers. -/
def readText (r : Reading) : Outcome :=
  match r.rest with
  | [] => .halt [⟨.eof, "", r.point⟩]
  | '\n' :: cs => .go [] { r.skip ['\n'] cs with comment := none }
  | '#' :: cs => r.readComment .hash cs
  | '/' :: '/' :: cs => r.readComment .slashes cs
  | '+' :: c :: cs =>
    if isIdentStart c then r.beginMarker [] (c :: cs) else .go [] (r.skip ['+'] (c :: cs))
  | c :: cs => .go [] (r.skip [c] cs)

/-- Read one segment of the path, or the name of the first argument. -/
def readHeader (r : Reading) (hasScope : Bool) : Outcome :=
  match r.rest with
  | [] => r.fail "malformed marker" "expected identifier"
  | c :: cs =>
    if isIdentStart c then
      let ident := c :: cs.takeWhile isIdentChar
      let after := r.skip ident (cs.dropWhile isIdentChar)
      match after.rest with
      | ':' :: rest =>
        .go [⟨.scope, String.ofList ident, r.point⟩, ⟨.separator, ":", after.point⟩]
          { after.skip [':'] rest with mode := .header true, last := ":" }
      | _ =>
        if hasScope then after.emit ⟨.arg, String.ofList ident, r.point⟩ .afterArg
        else
          after.emit ⟨.warning, "marker without scope found at position: " ++ after.point.text ++
            ", following " ++ Text.quoted (String.ofList ('+' :: ident)), after.point⟩ .text
    else r.fail "malformed marker" "expected identifier"

/-- Read what follows the name of an argument. Without `=` the argument is a flag and is true. -/
def readAfterArg (r : Reading) : Outcome :=
  match r.rest with
  | '=' :: cs => .go [] { r.skip ['='] cs with mode := .value }
  | _ => r.emit ⟨.boolLiteral, "true", r.point⟩ .afterValue

/-- Read a bare value. -/
def readBare (r : Reading) (inSlice : Bool) (mode : Mode) : Outcome :=
  let text := r.rest.takeWhile (isBare inSlice)
  (r.skip text (r.rest.dropWhile (isBare inSlice))).emit
    ⟨bareKind text, String.ofList text, r.point⟩ mode

/-- Read a quoted value after its opening quote. -/
def readQuoted (r : Reading) (quote : Char) (cs : List Char) (mode : Mode) : Outcome :=
  let opened := r.skip [quote] cs
  match scanQuoted r.comment quote cs with
  | .ok q =>
    (opened.skip q.source q.rest).emit ⟨.stringLiteral, String.ofList q.value, r.point⟩ mode
  | .error e => opened.fail "malformed string literal" e.text

/-- Read the value after `=`. -/
def readValue (r : Reading) : Outcome :=
  match r.rest with
  | [] => r.fail "malformed marker" "missing value"
  | c :: cs =>
    if isQuote c then r.readQuoted c cs .afterValue
    else if c = '\x7b' then
      (r.skip [c] cs).emit ⟨.sliceBegin, "\x7b", r.point⟩ (.slice .first)
    else if c = ',' || c = '\n' || isGap c then r.fail "malformed marker" "missing value"
    else r.readBare false .afterValue

/-- Read what follows a value: the end of the marker, or a comma and the next argument. -/
def readAfterValue (r : Reading) : Outcome :=
  match r.rest with
  | [] => r.emit ⟨.markerEnd, "\n", r.point⟩ .text
  | c :: cs =>
    if atLineEnd (c :: cs) then
      let line := unit (c :: cs)
      { r.skip line ((c :: cs).drop line.length) with comment := none }.emit
        ⟨.markerEnd, "\n", r.point⟩ .text
    else if isGap c then
      (r.skip (c :: cs.takeWhile isGap) (cs.dropWhile isGap)).emit
        ⟨.markerEnd, "\n", r.point⟩ .text
    else if c = ',' then
      let next := r.skip [c] cs
      match cs with
      | d :: ds =>
        if isIdentStart d then
          let ident := d :: ds.takeWhile isIdentChar
          (next.skip ident (ds.dropWhile isIdentChar)).emit
            ⟨.arg, String.ofList ident, next.point⟩ .afterArg
        else next.fail "malformed marker" "expected argument after ','"
      | [] => next.fail "malformed marker" "expected argument after ','"
    else r.fail "malformed marker" (unexpected (c :: cs))

/-- Read inside a slice, from the first character that is no blank. -/
def readSliceItem (r : Reading) (turn : SliceTurn) : Outcome :=
  match r.rest with
  | [] => r.fail "malformed slice" "unexpected end of input"
  | c :: cs =>
    if c = '\n' then r.fail "malformed slice" "unexpected end of line"
    else if c = '\x7d' ∧ turn ≠ .element then
      (r.skip [c] cs).emit ⟨.sliceEnd, "\x7d", r.point⟩ .afterValue
    else if c = ',' ∧ turn = .delimiter then
      (r.skip [c] cs).emit ⟨.sliceDelimiter, ",", r.point⟩ (.slice .element)
    else if isQuote c ∧ turn ≠ .delimiter then r.readQuoted c cs (.slice .delimiter)
    else if c = ',' ∨ c = '\x7d' ∨ c = '=' then r.fail "malformed slice" (unexpected (c :: cs))
    else if turn ≠ .delimiter then r.readBare true (.slice .delimiter)
    else r.fail "malformed slice" (unexpected (c :: cs))

/-- The blanks at the start of the text; the carriage return of a line end is not one. -/
def gap (cs : List Char) : List Char := if atLineEnd cs then [] else cs.takeWhile isGap

/-- Read inside a slice. -/
def readSlice (r : Reading) (turn : SliceTurn) : Outcome :=
  let blanks := gap r.rest
  let r := r.skip blanks (r.rest.drop blanks.length)
  if atLineEnd r.rest then r.fail "malformed slice" "unexpected end of line"
  else r.readSliceItem turn

/-- One step. -/
def step (r : Reading) : Outcome :=
  match r.mode with
  | .text => r.readText
  | .header hasScope => r.readHeader hasScope
  | .afterArg => r.readAfterArg
  | .value => r.readValue
  | .afterValue => r.readAfterValue
  | .slice turn => r.readSlice turn

/-- At most `fuel` steps. -/
def run : Nat → Reading → List Lexeme
  | 0, _ => []
  | fuel + 1, r => match r.step with
    | .go emitted next => emitted ++ run fuel next
    | .halt emitted => emitted

/-- How many steps a mode may take before it reads a character. -/
def Mode.delay : Mode → Nat
  | .afterArg => 2
  | .afterValue => 1
  | _ => 0

/-- A bound on the number of steps that are left. -/
def weight (r : Reading) : Nat := 3 * r.rest.length + Mode.delay r.mode

end Reading

/-- The lexemes of a list of characters. -/
def lexChars (cs : List Char) : List Lexeme :=
  (Reading.start cs).run ((Reading.start cs).weight + 1)

/-- The lexemes of a text. -/
def lex (text : String) : List Lexeme := lexChars text.toList

end ManifestMarkers.Lexeme
