import ManifestMarkers.Lexeme.Quoting
import ManifestMarkers.Yaml.Token

/-!
# Scalars in a YAML stream

The text of plain, quoted and block scalars. Single line breaks between lines of text are folded
to a space, and further breaks are kept; block scalars keep or fold them by their own rules.

A scanner gives back the text and the place after the scalar, or nothing if the text is malformed.
Its fuel is the number of characters that are left, of which every round reads at least one.
-/

namespace ManifestMarkers.Yaml

/-- The breaks and blanks between two pieces of text, collected until the next piece shows what they
stand for. -/
structure Gap where
  /-- Blanks on the line of the piece before. -/
  blanks : List Char := []
  /-- The first line break. -/
  first : List Char := []
  /-- The line breaks after it. -/
  more : List Char := []
  /-- Whether a line break was read. -/
  broken : Bool := false
  deriving DecidableEq, Repr

/-- The text a gap stands for: blanks as they are, or the folded line breaks. -/
def Gap.folded (g : Gap) : List Char :=
  if g.broken then
    if g.first == ['\n'] then if g.more.isEmpty then [' '] else g.more else g.first ++ g.more
  else g.blanks

/-- Read blanks and line breaks. A tab inside the indentation, which ends at column `indent`, is
refused. -/
def readGap (indent : Option Nat) : Nat → Gap → Spot → Option (Gap × Spot)
  | 0, _, _ => none
  | fuel + 1, g, s =>
    if s.next isSpaceOrTab then
      if g.broken && s.next (· == '\t') && indent.any (s.column < ·) then none
      else if g.broken then readGap indent fuel g s.skip
      else readGap indent fuel { g with blanks := g.blanks ++ s.rest.take 1 } s.skip
    else if s.next isBreak then
      let (b, s) := s.readBreak
      if g.broken then readGap indent fuel { g with more := g.more ++ b } s
      else readGap indent fuel { g with blanks := [], first := b, broken := true } s
    else some (g, s)

/-! ### Plain scalars -/

/-- The characters that end a plain scalar inside a flow collection. -/
def isFlowIndicator (c : Char) : Bool :=
  c == ',' || c == '[' || c == ']' || c == '\x7b' || c == '\x7d'

/-- Read a piece of a plain scalar up to a blank or an indicator. -/
def readPlainPiece (inFlow : Bool) : Nat → Spot → Option (List Char × Spot)
  | 0, _ => none
  | fuel + 1, s =>
    match s.rest with
    | [] => some ([], s)
    | c :: cs =>
      if s.atBlankOrEnd then some ([], s)
      else if inFlow && c == ':' && (match cs with
          | d :: _ => isFlowIndicator d || d == '?'
          | [] => false) then none
      else if c == ':' && s.blankOrEndAt 1 then some ([], s)
      else if inFlow && isFlowIndicator c then some ([], s)
      else (readPlainPiece inFlow fuel s.skip).map fun (piece, s) => (c :: piece, s)

/-- Read the pieces of a plain scalar. Gives the text, the place, and whether line breaks were read
after the last piece. -/
def readPlain (inFlow : Bool) (indent : Nat) : Nat → List Char → Gap → Spot →
    Option (List Char × Spot × Bool)
  | 0, _, _, _ => none
  | fuel + 1, text, gap, s =>
    if s.atDocumentIndicator || s.next (· == '#') then some (text, s, gap.broken)
    else
      match readPlainPiece inFlow (s.rest.length + 1) s with
      | none => none
      | some (piece, s) =>
        let (text, gap) :=
          if piece.isEmpty then (text, gap) else (text ++ gap.folded ++ piece, {})
        if !(s.next isSpaceOrTab || s.next isBreak) then some (text, s, gap.broken)
        else match readGap (some indent) (s.rest.length + 1) gap s with
          | none => none
          | some (gap, s) =>
            if !inFlow && s.column < indent then some (text, s, gap.broken)
            else readPlain inFlow indent fuel text gap s

/-! ### Quoted scalars -/

/-- The text of a one-letter escape in double quotes. -/
def quotedEscape? : Char → Option Char
  | '0' => some '\x00'
  | 'a' => some '\x07'
  | 'b' => some '\x08'
  | 't' | '\t' => some '\t'
  | 'n' => some '\n'
  | 'v' => some '\x0b'
  | 'f' => some '\x0c'
  | 'r' => some '\r'
  | 'e' => some '\x1b'
  | ' ' => some ' '
  | '"' => some '"'
  | '/' => some '/'
  | '\\' => some '\\'
  | 'N' => some (Char.ofNat 0x85)
  | '_' => some (Char.ofNat 0xa0)
  | 'L' => some (Char.ofNat 0x2028)
  | 'P' => some (Char.ofNat 0x2029)
  | _ => none

/-- The number of digits of an escape that gives a code point. -/
def codeDigits? : Char → Option Nat
  | 'x' => some 2
  | 'u' => some 4
  | 'U' => some 8
  | _ => none

/-- Read an escape after its backslash. -/
def readQuotedEscape (s : Spot) : Option (Char × Spot) :=
  match s.rest with
  | [] => none
  | c :: cs => match codeDigits? c with
    | some n =>
      let digits := cs.take n
      if digits.length == n then do
        let value ← Lexeme.hexValueFrom? 0 digits
        let e ← Lexeme.charOfCode? value
        return (e, s.skipMany (n + 1))
      else none
    | none => (quotedEscape? c).map (·, s.skip)

/-- Read a piece of a quoted scalar up to a blank or the closing quote. The flag says that an
escaped line break ended the piece. -/
def readQuotedPiece (single : Bool) : Nat → Spot → Option (List Char × Spot × Bool)
  | 0, _ => none
  | fuel + 1, s =>
    let more (c : Char) (s : Spot) : Option (List Char × Spot × Bool) :=
      (readQuotedPiece single fuel s).map fun (piece, s, escaped) => (c :: piece, s, escaped)
    if s.atBlankOrEnd then some ([], s, false)
    else match s.rest with
      | [] => some ([], s, false)
      | c :: cs =>
        if single then
          if c == '\'' then
            if cs.head? == some '\'' then more '\'' (s.skipMany 2) else some ([], s, false)
          else more c s.skip
        else if c == '"' then some ([], s, false)
        else if c == '\\' then
          if s.skip.next isBreak then some ([], s.skip.readBreak.2, true)
          else match readQuotedEscape s.skip with
            | some (e, s) => more e s
            | none => none
        else more c s.skip

/-- Read the pieces of a quoted scalar after its opening quote. -/
def readQuoted (single : Bool) : Nat → List Char → Spot → Option (List Char × Spot)
  | 0, _, _ => none
  | fuel + 1, text, s =>
    if s.atDocumentIndicator || s.rest.isEmpty then none
    else match readQuotedPiece single (s.rest.length + 1) s with
      | none => none
      | some (piece, s, escaped) =>
        let text := text ++ piece
        if s.next (· == if single then '\'' else '"') then some (text, s.skip)
        else match readGap none (s.rest.length + 1) { broken := escaped } s with
          | none => none
          | some (gap, s) => readQuoted single fuel (text ++ gap.folded) s

/-! ### Block scalars -/

/-- What becomes of the line breaks at the end of a block scalar. -/
inductive Chomping
  | strip
  | clip
  | keep
  deriving DecidableEq, Repr

/-- The header of a block scalar. -/
structure BlockHeader where
  chomping : Chomping := .clip
  /-- The indentation relative to the parent, if given. -/
  increment : Option Nat := none
  deriving DecidableEq, Repr

/-- Read a chomping indicator, if there is one. -/
def readChomping (s : Spot) : Option Chomping × Spot :=
  match s.rest with
  | '+' :: _ => (some .keep, s.skip)
  | '-' :: _ => (some .strip, s.skip)
  | _ => (none, s)

/-- Read an indentation indicator, if there is one. Zero is refused. -/
def readIncrement (s : Spot) : Option (Option Nat × Spot) :=
  match s.rest with
  | c :: _ =>
    if c == '0' then none
    else if c.isDigit then some (some (c.toNat - '0'.toNat), s.skip)
    else some (none, s)
  | [] => some (none, s)

/-- Read the indicators of a block scalar, in either order. -/
def readIndicators (s : Spot) : Option (BlockHeader × Spot) :=
  match readChomping s with
  | (some chomping, s) => (readIncrement s).map fun (increment, s) => (⟨chomping, increment⟩, s)
  | (none, s) => match readIncrement s with
    | some (some n, s) =>
      let (chomping, s) := readChomping s
      some (⟨chomping.getD .clip, some n⟩, s)
    | some (none, s) => some ({}, s)
    | none => none

/-- Skip blanks and a comment up to the end of the line, which must follow, and the line break. -/
def skipToLineEnd (s : Spot) : Option Spot :=
  let s := s.skipWhile isSpaceOrTab
  let s := if s.next (· == '#') then s.skipWhile (!isBreak ·) else s
  if s.rest.isEmpty then some s else if s.next isBreak then some s.readBreak.2 else none

/-- Read indentation and empty lines. `indent` is the indentation of the scalar, or zero while it is
unknown; `widest` is the deepest indentation so far. -/
def readBlockBreaks (indent : Nat) : Nat → Nat → List Char → Spot →
    Option (Nat × List Char × Spot)
  | 0, _, _, _ => none
  | fuel + 1, widest, breaks, s =>
    let within (s : Spot) : Bool := indent == 0 || s.column < indent
    let spaces := s.rest.takeWhile (· == ' ')
    let room := if indent == 0 then spaces.length else min spaces.length (indent - s.column)
    let s := s.skipMany room
    let widest := max widest s.column
    if within s && s.next (· == '\t') then none
    else if s.next isBreak then
      let (b, s) := s.readBreak
      readBlockBreaks indent fuel widest (breaks ++ b) s
    else some (widest, breaks, s)

/-- The indentation of a scalar: given, or that of its deepest line so far, and more than that of
its parent. -/
def blockIndent (indent widest : Nat) (parent : Int) : Nat :=
  if indent != 0 then indent else max widest (max (parent + 1).toNat 1)

/-- Read the lines of a block scalar. `first` is the break after the last line and `more` are the
empty lines after it; `wasBlank` says that the last line started with a blank. -/
def readBlockLines (literal : Bool) (indent : Nat) : Nat → List Char → List Char → List Char →
    Bool → Spot → Option (List Char × List Char × List Char × Spot)
  | 0, _, _, _, _, _ => none
  | fuel + 1, text, first, more, wasBlank, s =>
    if s.column == indent && !s.rest.isEmpty then
      let isBlank := s.next isSpaceOrTab
      let joined :=
        if !literal && first == ['\n'] && !wasBlank && !isBlank then
          if more.isEmpty then [' '] else []
        else first
      let (line, s) := s.readWhile (!isBreak ·)
      let (b, s) := s.readBreak
      match readBlockBreaks indent (s.rest.length + 1) 0 [] s with
      | none => none
      | some (_, breaks, s) =>
        readBlockLines literal indent fuel (text ++ joined ++ more ++ line) b breaks isBlank s
    else some (text, first, more, s)

/-- Read a block scalar after its indicator; `parent` is the indentation of the collection that
holds it. -/
def readBlock (literal : Bool) (parent : Int) (s : Spot) : Option (List Char × Spot) := do
  let (header, s) ← readIndicators s
  let s ← skipToLineEnd s
  let given := match header.increment with
    | some n => (max parent 0).toNat + n
    | none => 0
  let (widest, breaks, s) ← readBlockBreaks given (s.rest.length + 1) 0 [] s
  let indent := blockIndent given widest parent
  let (text, first, more, s) ←
    readBlockLines literal indent (s.rest.length + 1) [] [] breaks false s
  let text := if header.chomping == .strip then text else text ++ first
  return (if header.chomping == .keep then text ++ more else text, s)

end ManifestMarkers.Yaml
