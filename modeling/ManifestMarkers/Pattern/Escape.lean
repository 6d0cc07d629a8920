import ManifestMarkers.Lexeme.Quoting
import ManifestMarkers.Pattern.Cursor
import ManifestMarkers.Pattern.Expr
import ManifestMarkers.Pattern.Property

/-!
# Escapes in patterns

What a backslash starts: a character taken literally or by its code, a class, a class by property,
or a condition on the surroundings. The same escapes stand inside and outside of bracketed classes;
`Atom` is what both of them read.
-/

namespace ManifestMarkers.Pattern

open Text (CodeSet)

/-- What a single unit of a pattern stands for. -/
inductive Atom
  /-- A character; `asByte` when it was written as a byte in hexadecimal. -/
  | literal (c : Char) (asByte : Bool)
  | set (s : CodeSet)
  | condition (l : Look)

/-- Characters with a meaning of their own, which a backslash takes away. -/
def isMeta (c : Char) : Bool := "\\.+*?()|[]\x7b\x7d^$#&-~".toList.contains c

/-- Characters that a backslash leaves as they are. -/
def isEscapable (c : Char) : Bool :=
  isMeta c || (c.val < 0x80 && !c.isAlphanum && c != '<' && c != '>')

/-! ### Codes -/

/-- Read exactly `n` hexadecimal digits. -/
def readHexDigits (k : Cursor) : Nat → Nat → Option (Nat × Cursor)
  | 0, value => some (value, k)
  | n + 1, value => match k.rest with
    | c :: cs => match Text.hexDigit? c with
      | some d => readHexDigits (k.goToSpace cs) n (16 * value + d)
      | none => none
    | [] => none

/-- Read hexadecimal digits up to a closing brace; `fuel` bounds their number. -/
def readHexBraces (k : Cursor) : Nat → Option Nat → Option (Nat × Cursor)
  | 0, _ => none
  | fuel + 1, value => match k.rest with
    | '\x7d' :: cs => value.map (·, k.goToSpace cs)
    | c :: cs => match Text.hexDigit? c with
      | some d => readHexBraces (k.goToSpace cs) fuel (some (16 * value.getD 0 + d))
      | none => none
    | [] => none

/-- Read the code point after `\x`, `\u` or `\U`. -/
def readHex (letter : Char) (k : Cursor) : Option (Atom × Cursor) :=
  let digits := if letter = 'x' then 2 else if letter = 'u' then 4 else 8
  match k.rest with
  | '\x7b' :: cs => do
    let k := k.goToSpace cs
    let (value, k) ← readHexBraces k (k.rest.length + 1) none
    let c ← Lexeme.charOfCode? value
    return (.literal c false, k)
  | _ => do
    let (value, k) ← readHexDigits k digits 0
    let c ← Lexeme.charOfCode? value
    return (.literal c (letter = 'x'), k)

/-! ### Word boundaries -/

/-- Letters and hyphens of a word-boundary name, blanks skipped in verbose patterns. -/
def readBoundaryName (k : Cursor) : Nat → List Char × Cursor
  | 0 => ([], k)
  | fuel + 1 => match k.rest with
    | c :: cs =>
      if c.isAlpha || c = '-' then
        let (name, k) := readBoundaryName (k.goToSpace cs) fuel
        (c :: name, k)
      else ([], k)
    | [] => ([], k)

/-- Read what follows `\b`: a named word boundary in braces, if there is one. -/
def readBoundary (k : Cursor) : Option (Atom × Cursor) :=
  let u := k.flags.overUnicode
  match k.rest with
  | '\x7b' :: cs =>
    let inner := k.goToSpace cs
    match inner.rest with
    | [] => none
    | c :: _ =>
      if c.isAlpha || c = '-' then
        let (name, after) := readBoundaryName inner inner.rest.length
        match after.rest with
        | '\x7d' :: cs => match String.ofList name with
          | "start" => some (.condition (.wordStart u), after.goTo cs)
          | "end" => some (.condition (.wordEnd u), after.goTo cs)
          | "start-half" => some (.condition (.wordStartHalf u), after.goTo cs)
          | "end-half" => some (.condition (.wordEndHalf u), after.goTo cs)
          | _ => none
        | _ => none
      else some (.condition (.wordBoundary u), k)
  | _ => some (.condition (.wordBoundary u), k)

/-! ### Properties -/

/-- The text up to a closing brace, blanks skipped in verbose patterns. -/
def readBraces (k : Cursor) : Nat → Option (List Char × Cursor)
  | 0 => none
  | fuel + 1 => match k.rest with
    | '\x7d' :: cs => some ([], k.goTo cs)
    | c :: cs => (readBraces (k.goToSpace cs) fuel).map fun (text, k) => (c :: text, k)
    | [] => none

/-- Read the property after `\p` or `\P`: one letter, or a text in braces. -/
def readProperty (isNegated : Bool) (k : Cursor) : Option (Atom × Cursor) :=
  if k.flags.overUnicode then
    match k.rest with
    | '\x7b' :: cs => do
      let inner := k.goToSpace cs
      let (text, after) ← readBraces inner (inner.rest.length + 1)
      let (set, isMeant) ← bracedSet? text
      let set ← k.flags.closeSet? (isNegated == isMeant) set
      return (.set set, after)
    | c :: cs => do
      let set ← namedSet? [c]
      let set ← k.flags.closeSet? isNegated set
      return (.set set, k.goTo cs)
    | [] => none
  else none

/-! ### All escapes -/

/-- The character that a letter after a backslash stands for. -/
def letterEscape? (c : Char) : Option Char :=
  match c with
  | 'a' => some '\x07'
  | 'f' => some '\x0c'
  | 't' => some '\t'
  | 'n' => some '\n'
  | 'r' => some '\r'
  | 'v' => some '\x0b'
  | _ => if isEscapable c then some c else none

/-- Read an escape after its backslash. -/
def readEscape (k : Cursor) : Option (Atom × Cursor) :=
  match k.rest with
  | [] => none
  | c :: cs =>
    let u := k.flags.overUnicode
    let after := k.goTo cs
    if c = 'x' || c = 'u' || c = 'U' then readHex c (k.goToSpace cs)
    else if c = 'p' || c = 'P' then readProperty (c = 'P') (k.goToSpace cs)
    else if let some set := classEscape? u c then some (.set set, after)
    else if let some d := letterEscape? c then some (.literal d false, after)
    else match c with
      | 'A' => some (.condition .textStart, after)
      | 'z' => some (.condition .textEnd, after)
      | 'b' => readBoundary after
      | 'B' => some (.condition (.notWordBoundary u), after)
      | '<' => some (.condition (.wordStart u), after)
      | '>' => some (.condition (.wordEnd u), after)
      | _ => none

end ManifestMarkers.Pattern
