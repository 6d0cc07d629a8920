import ManifestMarkers.Yaml.Scalar

/-!
# Scanning a YAML stream

The scanner turns a stream into tokens. A scalar, an anchor, a tag or a flow collection may turn out
to be a key when a `:` follows on the same line; the place where its announcement belongs is
remembered, one for each level of flow collections, and the tokens are put there when the `:` is
read.

Scanning fails with nothing: why a stream is malformed does not matter to its readers.
-/

namespace ManifestMarkers.Yaml

/-- A place where a key may have started. -/
structure KeySpot where
  possible : Bool := false
  /-- Whether nothing but a key can stand there. -/
  required : Bool := false
  /-- The number of tokens before it. -/
  token : Nat := 0
  index : Nat := 0
  line : Nat := 0
  column : Nat := 0
  deriving DecidableEq, Repr

/-- The state of the scanner. -/
structure Scan where
  spot : Spot
  tokens : Array Token := #[]
  /-- The indentation of the innermost block collection; `-1` outside of all. -/
  indent : Int := -1
  /-- The indentations of the block collections around it. -/
  outer : List Int := []
  /-- The possible key of the innermost flow level. -/
  key : KeySpot := {}
  /-- The possible keys of the levels around it; their number is the depth of flow collections. -/
  outerKeys : List KeySpot := []
  /-- Whether a key may start here. -/
  keyAllowed : Bool := true
  deriving Repr

namespace Scan

/-- Whether the place is inside a flow collection. -/
def inFlow (s : Scan) : Bool := !s.outerKeys.isEmpty

/-- Add a token. -/
def push (s : Scan) (t : Token) : Scan := { s with tokens := s.tokens.push t }

/-- Add a token in front of the token with the given number. -/
def insert (s : Scan) (n : Nat) (t : Token) : Scan :=
  { s with tokens := (s.tokens.toList.take n ++ t :: s.tokens.toList.drop n).toArray }

/-- Move to another place. -/
def goTo (s : Scan) (spot : Spot) : Scan := { s with spot }

/-! ### Keys and indentation -/

/-- A key is on one line and has at most this many bytes. -/
def maxKeyLength : Nat := 1024

/-- Forget a possible key that lies too far behind. A required one is an error. -/
def freshKey? (spot : Spot) (k : KeySpot) : Option KeySpot :=
  if k.possible && (k.line < spot.line || k.index + maxKeyLength < spot.index) then
    if k.required then none else some { k with possible := false }
  else some k

/-- Forget the possible keys that lie too far behind. -/
def dropStaleKeys (s : Scan) : Option Scan := do
  let key ← freshKey? s.spot s.key
  let outerKeys ← s.outerKeys.mapM (freshKey? s.spot)
  return { s with key, outerKeys }

/-- Give up the possible key of this level. A required one is an error. -/
def removeKey (s : Scan) : Option Scan :=
  if s.key.possible && s.key.required then none
  else some { s with key := { s.key with possible := false } }

/-- Remember that a key may start here. -/
def saveKey (s : Scan) : Option Scan :=
  if s.keyAllowed then
    let required := !s.inFlow && s.indent == s.spot.column
    s.removeKey.map fun s =>
      { s with key := ⟨true, required, s.tokens.size, s.spot.index, s.spot.line, s.spot.column⟩ }
  else some s

/-- Open a block collection if the column is deeper than the indentation. -/
def roll (s : Scan) (column : Nat) (number : Option Nat) (t : Token) : Scan :=
  if s.inFlow || s.indent ≥ column then s
  else
    let s := { s with indent := column, outer := s.indent :: s.outer }
    match number with
    | some n => s.insert n t
    | none => s.push t

/-- Close the block collections that are deeper than `column`. -/
def unrollFrom (column : Int) (indent : Int) (tokens : Array Token) :
    List Int → Int × List Int × Array Token
  | [] => (indent, [], tokens)
  | i :: outer =>
    if indent > column then unrollFrom column i (tokens.push .blockEnd) outer
    else (indent, i :: outer, tokens)

/-- Close the block collections that are deeper than `column`, outside of flow collections. -/
def unroll (s : Scan) (column : Int) : Scan :=
  if s.inFlow then s
  else
    let (indent, outer, tokens) := unrollFrom column s.indent s.tokens s.outer
    { s with indent, outer, tokens }

/-! ### Blanks and comments -/

/-- Skip to the next token. A line break allows a key in block context. -/
def skipBlanks : Nat → Scan → Scan
  | 0, s => s
  | fuel + 1, s =>
    let spot :=
      if s.spot.column == 0 && s.spot.next (·.toNat == 0xfeff) then s.spot.skip else s.spot
    let tabs := s.inFlow || !s.keyAllowed
    let spot := spot.skipWhile fun c => c == ' ' || (tabs && c == '\t')
    let spot := if spot.next (· == '#') then spot.skipWhile (!isBreak ·) else spot
    if spot.next isBreak then
      skipBlanks fuel
        { s with spot := spot.readBreak.2, keyAllowed := if s.inFlow then s.keyAllowed else true }
    else s.goTo spot

/-! ### Directives, tags and anchors -/

/-- Read a number of at most nine digits. -/
def readNumber (spot : Spot) : Option (Nat × Spot) :=
  let (digits, spot) := spot.readWhile Char.isDigit
  if digits.isEmpty || digits.length > 9 then none
  else some (digits.foldl (fun n c => 10 * n + (c.toNat - '0'.toNat)) 0, spot)

/-- Read one escaped byte of a tag: `%` and two digits. -/
def readTagByte (spot : Spot) : Option (UInt8 × Spot) :=
  match spot.rest with
  | '%' :: a :: b :: _ => do
    let hi ← Text.hexDigit? a
    let lo ← Text.hexDigit? b
    return (UInt8.ofNat (16 * hi + lo), spot.skipMany 3)
  | _ => none

/-- Read `n` escaped bytes that continue a character. -/
def readTagTail : Nat → Spot → Option (List UInt8 × Spot)
  | 0, spot => some ([], spot)
  | n + 1, spot => do
    let (byte, spot) ← readTagByte spot
    if byte &&& 0xc0 != 0x80 then none
    else
      let (bytes, spot) ← readTagTail n spot
      return (byte :: bytes, spot)

/-- The number of bytes that a first byte asks for after it. -/
def tailLength? (byte : UInt8) : Option Nat :=
  if byte &&& 0x80 == 0 then some 0
  else if byte &&& 0xe0 == 0xc0 then some 1
  else if byte &&& 0xf0 == 0xe0 then some 2
  else if byte &&& 0xf8 == 0xf0 then some 3
  else none

/-- Read an escaped character of a tag, byte by byte. Only the form of the bytes is checked: they
need not spell a character. -/
def readTagEscape (spot : Spot) : Option (List UInt8 × Spot) := do
  let (byte, spot) ← readTagByte spot
  let n ← tailLength? byte
  let (bytes, spot) ← readTagTail n spot
  return (byte :: bytes, spot)

/-- Characters of tags. Flow indicators are allowed only where the tag is delimited. -/
def isTagChar (delimited : Bool) (c : Char) : Bool :=
  isNameChar c || ";/?:@&=+$.!~*'()%".toList.contains c ||
    (delimited && (c == ',' || c == '[' || c == ']'))

/-- Read the characters of a tag. -/
def readTagChars (delimited : Bool) : Nat → Spot → Option (List UInt8 × Spot)
  | 0, spot => some ([], spot)
  | fuel + 1, spot =>
    match spot.rest with
    | [] => some ([], spot)
    | c :: _ =>
      if !isTagChar delimited c then some ([], spot)
      else do
        let (first, spot) ←
          if c == '%' then readTagEscape spot else some (tagBytes [c], spot.skip)
        let (more, spot) ← readTagChars delimited fuel spot
        return (first ++ more, spot)

/-- The bytes of a tag up to the first zero, which ends its text. -/
def beforeZero (bytes : List UInt8) : List UInt8 := bytes.takeWhile (· != 0)

/-- Read a tag handle: an exclamation mark, name characters, and a second mark if there is one. -/
def readHandle (spot : Spot) : Option (List Char × Spot) :=
  match spot.rest with
  | '!' :: _ =>
    let (name, spot) := spot.skip.readWhile isNameChar
    if spot.next (· == '!') then some ('!' :: (name ++ ['!']), spot.skip)
    else some ('!' :: name, spot)
  | _ => none

/-- Read a tag at its exclamation mark. -/
def readTag (inFlow : Bool) (spot : Spot) : Option (Token × Spot) := do
  let (tag, spot) ← match spot.rest with
    | '!' :: '<' :: _ => do
      let spot := spot.skipMany 2
      let (suffix, spot) ← readTagChars true spot.rest.length spot
      if suffix.isEmpty || !spot.next (· == '>') then none
      else some (Token.tag [] (beforeZero suffix), spot.skip)
    | _ => do
      let (handle, spot) ← readHandle spot
      let (suffix, spot) ← readTagChars false spot.rest.length spot
      if handle.length > 1 && handle.getLast? == some '!' then
        if suffix.isEmpty then none else some (Token.tag handle (beforeZero suffix), spot)
      else
        let suffix := beforeZero (tagBytes (handle.drop 1) ++ suffix)
        some (if suffix.isEmpty then Token.tag [] loneTag else Token.tag ['!'] suffix, spot)
  if spot.atBlankOrEnd || (inFlow && spot.next (· == ',')) then some (tag, spot) else none

/-- Read the value of a version directive. -/
def readVersion (spot : Spot) : Option (Token × Spot) := do
  let (major, spot) ← readNumber (spot.skipWhile isSpaceOrTab)
  if !spot.next (· == '.') then none
  else
    let (minor, spot) ← readNumber spot.skip
    return (.versionDirective major minor, spot)

/-- Read the value of a tag directive. -/
def readTagDirective (spot : Spot) : Option (Token × Spot) := do
  let (handle, spot) ← readHandle (spot.skipWhile isSpaceOrTab)
  if handle.length > 1 && handle.getLast? != some '!' then none
  else if !spot.next isSpaceOrTab then none
  else
    let spot := spot.skipWhile isSpaceOrTab
    let (lead, spot) ← readTagChars true spot.rest.length spot
    if lead.isEmpty || !spot.atBlankOrEnd then none
    else some (.tagDirective handle (beforeZero lead), spot)

/-- Read a directive at its percent sign. -/
def readDirective (spot : Spot) : Option (Token × Spot) := do
  let (name, spot) := spot.skip.readWhile isNameChar
  if !spot.atBlankOrEnd then none
  else
    let (token, spot) ←
      if name == "YAML".toList then readVersion spot
      else if name == "TAG".toList then readTagDirective spot
      else none
    let spot ← skipToLineEnd spot
    return (token, spot)

/-- Read the name of an anchor or alias after its sign. -/
def readAnchorName (spot : Spot) : Option (List Char × Spot) :=
  let (name, spot) := spot.readWhile isNameChar
  if name.isEmpty then none
  else if spot.atBlankOrEnd || spot.next ("?:,]\x7d%@`".toList.contains ·) then some (name, spot)
  else none

/-! ### Tokens -/

/-- Close all block collections, as at the start of a document. -/
def resetBlocks (s : Scan) : Option Scan :=
  ((s.unroll (-1)).removeKey).map ({ · with keyAllowed := false })

/-- A directive. -/
def fetchDirective (s : Scan) : Option Scan := do
  let s ← s.resetBlocks
  let (token, spot) ← readDirective s.spot
  return (s.goTo spot).push token

/-- The start or end of a document. -/
def fetchIndicator (s : Scan) (t : Token) : Option Scan :=
  s.resetBlocks.map fun s => (s.goTo (s.spot.skipMany 3)).push t

/-- The start of a flow collection. -/
def fetchFlowStart (s : Scan) (t : Token) : Option Scan :=
  s.saveKey.map fun s =>
    { s with
      outerKeys := s.key :: s.outerKeys
      key := {}
      keyAllowed := true
      spot := s.spot.skip }.push t

/-- The end of a flow collection. -/
def fetchFlowEnd (s : Scan) (t : Token) : Option Scan :=
  s.removeKey.map fun s =>
    let (key, outerKeys) := match s.outerKeys with
      | key :: outer => (key, outer)
      | [] => (s.key, [])
    { s with key, outerKeys, keyAllowed := false, spot := s.spot.skip }.push t

/-- The comma of a flow collection. -/
def fetchFlowEntry (s : Scan) : Option Scan :=
  s.removeKey.map fun s => { s with keyAllowed := true, spot := s.spot.skip }.push .flowEntry

/-- The dash of a block sequence. -/
def fetchBlockEntry (s : Scan) : Option Scan :=
  if !s.inFlow && !s.keyAllowed then none
  else
    let s := s.roll s.spot.column none .blockSequenceStart
    s.removeKey.map fun s => { s with keyAllowed := true, spot := s.spot.skip }.push .blockEntry

/-- The question mark of a key. -/
def fetchKey (s : Scan) : Option Scan :=
  if !s.inFlow && !s.keyAllowed then none
  else
    let s := s.roll s.spot.column none .blockMappingStart
    s.removeKey.map fun s => { s with keyAllowed := !s.inFlow, spot := s.spot.skip }.push .key

/-- The colon of a value. What stands before it on the line turns out to be a key. -/
def fetchValue (s : Scan) : Option Scan :=
  if s.key.possible then
    let k := s.key
    let s := (s.insert k.token .key).roll k.column (some k.token) .blockMappingStart
    some ({ s with
      key := { k with possible := false }
      keyAllowed := false
      spot := s.spot.skip }.push .value)
  else if !s.inFlow && !s.keyAllowed then none
  else
    let s := s.roll s.spot.column none .blockMappingStart
    some ({ s with keyAllowed := !s.inFlow, spot := s.spot.skip }.push .value)

/-- An anchor or alias. -/
def fetchAnchor (s : Scan) (token : List Char → Token) : Option Scan := do
  let s ← s.saveKey
  let (name, spot) ← readAnchorName s.spot.skip
  return { s with keyAllowed := false, spot }.push (token name)

/-- A tag. -/
def fetchTag (s : Scan) : Option Scan := do
  let s ← s.saveKey
  let (token, spot) ← readTag s.inFlow s.spot
  return { s with keyAllowed := false, spot }.push token

/-- A block scalar. -/
def fetchBlockScalar (s : Scan) (literal : Bool) : Option Scan := do
  let s ← s.removeKey
  let (text, spot) ← readBlock literal s.indent s.spot.skip
  let token := Token.scalar text (if literal then .literal else .folded)
  return { s with keyAllowed := true, spot }.push token

/-- A quoted scalar. -/
def fetchQuoted (s : Scan) (single : Bool) : Option Scan := do
  let s ← s.saveKey
  let spot := s.spot.skip
  let (text, spot) ← readQuoted single (spot.rest.length + 1) [] spot
  let token := Token.scalar text (if single then .singleQuoted else .doubleQuoted)
  return { s with keyAllowed := false, spot }.push token

/-- A plain scalar. -/
def fetchPlain (s : Scan) : Option Scan := do
  let s ← s.saveKey
  let (text, spot, broken) ←
    readPlain s.inFlow (s.indent + 1).toNat (s.spot.rest.length + 1) [] {} s.spot
  return { s with keyAllowed := broken, spot }.push (.scalar text .plain)

/-- Whether a plain scalar may start with `c`. -/
def startsPlain (s : Scan) (c : Char) : Bool :=
  !(s.spot.atBlankOrEnd || "-?:,[]\x7b\x7d#&*!|>'\"%@`".toList.contains c) ||
    (c == '-' && !s.spot.skip.next isSpaceOrTab) ||
    (!s.inFlow && (c == '?' || c == ':') && !s.spot.blankOrEndAt 1)

/-- The next token, which starts with `c`. -/
def fetchToken (s : Scan) (c : Char) : Option Scan :=
  let blankNext := s.spot.blankOrEndAt 1
  if s.spot.column == 0 && c == '%' then s.fetchDirective
  else if s.spot.atDocumentIndicator then
    s.fetchIndicator (if c == '-' then .documentStart else .documentEnd)
  else if c == '[' then s.fetchFlowStart .flowSequenceStart
  else if c == '\x7b' then s.fetchFlowStart .flowMappingStart
  else if c == ']' then s.fetchFlowEnd .flowSequenceEnd
  else if c == '\x7d' then s.fetchFlowEnd .flowMappingEnd
  else if c == ',' then s.fetchFlowEntry
  else if c == '-' && blankNext then s.fetchBlockEntry
  else if c == '?' && (s.inFlow || blankNext) then s.fetchKey
  else if c == ':' && (s.inFlow || blankNext) then s.fetchValue
  else if c == '*' then s.fetchAnchor .alias
  else if c == '&' then s.fetchAnchor .anchor
  else if c == '!' then s.fetchTag
  else if c == '|' && !s.inFlow then s.fetchBlockScalar true
  else if c == '>' && !s.inFlow then s.fetchBlockScalar false
  else if c == '\'' then s.fetchQuoted true
  else if c == '"' then s.fetchQuoted false
  else if s.startsPlain c then s.fetchPlain
  else none

/-- Scan the rest of the stream. Every round reads at least one character. -/
def run : Nat → Scan → Option (Array Token)
  | 0, _ => none
  | fuel + 1, s => do
    let s ← (s.skipBlanks (s.spot.rest.length + 1)).dropStaleKeys
    let s := s.unroll s.spot.column
    match s.spot.rest with
    | [] => (← s.resetBlocks).tokens
    | c :: _ => run fuel (← s.fetchToken c)

end Scan

/-- The tokens of a stream. -/
def scan? (cs : List Char) : Option (List Token) :=
  if cs.all isAllowed then
    (Scan.run (cs.length + 1) { spot := { rest := cs } }).map Array.toList
  else none

end ManifestMarkers.Yaml
