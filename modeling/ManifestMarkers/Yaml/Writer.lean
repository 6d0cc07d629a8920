import ManifestMarkers.Yaml.Value

/-!
# Writing strings in YAML

A string is written plainly if it reads back as the same string, else in single quotes, and in
double quotes if characters have to be escaped. A string with line feeds becomes a literal block
where it can.
-/

namespace ManifestMarkers.Yaml

/-- Characters that are written as themselves. -/
def isWritable (c : Char) : Bool :=
  let n := c.toNat
  n == 0x0a || (0x20 ≤ n && n ≤ 0x7e) || (0xa0 ≤ n && n ≤ 0xfffd && n != 0xfeff) || 0x10000 ≤ n

/-- What the characters of a string rule out. -/
structure Traits where
  /-- A character at this place would be read as an indicator. -/
  indicator : Bool := false
  hasBreak : Bool := false
  /-- A character has to be escaped. -/
  special : Bool := false
  /-- A blank or line break stands at one of the ends. -/
  edge : Bool := false
  trailingSpace : Bool := false
  /-- A space follows a line break. -/
  breakSpace : Bool := false
  /-- A line break follows a space. -/
  spaceBreak : Bool := false
  deriving DecidableEq, Repr

/-- Whether a blank, a line break or the end stands here. -/
def isBlankOrEnd : Option Char → Bool
  | some c => isSpaceOrTab c || isBreak c || c == '\x00'
  | none => true

/-- Whether `c` would be read as an indicator between its neighbours. -/
def isIndicator (before : Option Char) (c : Char) (after : Option Char) : Bool :=
  match before with
  | none =>
    "#,[]\x7b\x7d&*!|>'\"%@`".toList.contains c ||
      ((c == '?' || c == ':' || c == '-') && isBlankOrEnd after)
  | some _ => (c == ':' && isBlankOrEnd after) || (c == '#' && isBlankOrEnd before)

/-- The traits of the remaining characters. -/
def traitsFrom (before : Option Char) : List Char → Traits → Traits
  | [], t => t
  | c :: cs, t =>
    let isEdge := before.isNone || cs.isEmpty
    traitsFrom (some c) cs
      { indicator := t.indicator || isIndicator before c cs.head?
        hasBreak := t.hasBreak || isBreak c
        special := t.special || !isWritable c
        edge := t.edge || (isEdge && (c == ' ' || isBreak c))
        trailingSpace := t.trailingSpace || (cs.isEmpty && c == ' ')
        breakSpace := t.breakSpace || (c == ' ' && before.any isBreak)
        spaceBreak := t.spaceBreak || (isBreak c && before == some ' ') }

/-- The traits of a string. -/
def traits (cs : List Char) : Traits :=
  let marker := cs.take 3 == ['-', '-', '-'] || cs.take 3 == ['.', '.', '.']
  traitsFrom none cs { indicator := marker }

/-- Whether a plain scalar would be read as something other than a string. -/
def isAmbiguous (cs : List Char) : Bool :=
  hasLeadingZero cs || match plainValue? cs with
    | some (.string _) => false
    | _ => true

/-- The style in which a string is written. -/
def styleOf (cs : List Char) : Style :=
  let t := traits cs
  let plainAllowed :=
    !(t.edge || t.breakSpace || t.spaceBreak || t.special || t.hasBreak || t.indicator)
  let singleAllowed := !(t.breakSpace || t.spaceBreak || t.special)
  let blockAllowed := !(t.trailingSpace || t.spaceBreak || t.special)
  if cs.contains '\n' then if blockAllowed then .literal else .doubleQuoted
  else if plainAllowed && !isAmbiguous cs then .plain
  else if singleAllowed then .singleQuoted
  else .doubleQuoted

/-- A number with at least `width` upper-case hexadecimal digits. -/
def upperHex (width n : Nat) : List Char :=
  let digits := (Nat.toDigits 16 n).map Char.toUpper
  List.replicate (width - digits.length) '0' ++ digits

/-- One character in double quotes. -/
def escapeQuoted (c : Char) : List Char :=
  if isWritable c && !isBreak c && c != '"' && c != '\\' then [c]
  else
    let n := c.toNat
    '\\' :: match n with
      | 0x00 => ['0']
      | 0x07 => ['a']
      | 0x08 => ['b']
      | 0x09 => ['t']
      | 0x0a => ['n']
      | 0x0b => ['v']
      | 0x0c => ['f']
      | 0x0d => ['r']
      | 0x1b => ['e']
      | 0x22 => ['"']
      | 0x5c => ['\\']
      | 0x85 => ['N']
      | 0xa0 => ['_']
      | 0x2028 => ['L']
      | 0x2029 => ['P']
      | n =>
        if n ≤ 0xff then 'x' :: upperHex 2 n
        else if n ≤ 0xffff then 'u' :: upperHex 4 n
        else 'U' :: upperHex 8 n

/-- The indentation of continued lines. -/
def writerIndent : List Char := [' ', ' ']

/-- The inside of single quotes. Text after a line break is indented. -/
def singleQuotedFrom (broken : Bool) : List Char → List Char
  | [] => if broken then writerIndent else []
  | c :: cs =>
    if isBreak c then c :: singleQuotedFrom true cs
    else if c == ' ' then c :: singleQuotedFrom broken cs
    else
      (if broken then writerIndent else []) ++ (if c == '\'' then ['\'', '\''] else [c]) ++
        singleQuotedFrom false cs

/-- The lines of a literal block. Text after a line break is indented. -/
def literalFrom (broken : Bool) : List Char → List Char
  | [] => []
  | c :: cs =>
    if isBreak c then c :: literalFrom true cs
    else (if broken then writerIndent else []) ++ c :: literalFrom false cs

/-- The header of a literal block: an indentation indicator if the text starts with a blank or a
line break, and how the line breaks at its end are kept. -/
def literalHeader (cs : List Char) : List Char :=
  let hint := match cs with
    | c :: _ => if c == ' ' || isBreak c then ['2'] else []
    | [] => []
  let chomp := match cs.reverse with
    | c :: d :: _ => if !isBreak c then ['-'] else if isBreak d then ['+'] else []
    | [c] => if isBreak c then ['+'] else ['-']
    | [] => ['-']
  '|' :: (hint ++ chomp)

/-- A string as a document of its own, without the blanks at its end. -/
def writeString (cs : List Char) : List Char :=
  Text.trimEnd <| match styleOf cs with
    | .singleQuoted => '\'' :: (singleQuotedFrom false cs ++ ['\''])
    | .doubleQuoted => '"' :: (cs.flatMap escapeQuoted ++ ['"'])
    | .literal => literalHeader cs ++ '\n' :: literalFrom true cs
    | _ => cs

end ManifestMarkers.Yaml
