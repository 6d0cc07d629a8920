import ManifestMarkers.Text.Basic
import ManifestMarkers.Text.Numeral

/-!
# Texts in a TOML document

Blanks, comments and line ends, and the four kinds of strings. Every reader gives back what it read
and the rest.
-/

namespace ManifestMarkers.Toml

/-- A reader. -/
abbrev Step (α : Type) := List Char → Option (α × List Char)

/-- Whether a character may stand in a comment or string as it is. -/
def isPlain (c : Char) : Bool := c == '\t' || (c.val ≥ 0x20 && c.val != 0x7f)

/-- Remove spaces and tabs. -/
def skipBlanks (cs : List Char) : List Char := cs.dropWhile Text.isInlineBlank

/-- Remove a line end. -/
def lineEnd? : List Char → Option (List Char)
  | '\n' :: cs => some cs
  | '\r' :: '\n' :: cs => some cs
  | _ => none

/-- Remove a comment, up to the line end. -/
def skipComment? (cs : List Char) : Option (List Char) :=
  match cs with
  | '#' :: _ =>
    let rest := cs.dropWhile isPlain
    if rest.isEmpty || (lineEnd? rest).isSome then some rest else none
  | _ => some cs

/-- Remove blanks and a comment, and the line end after them or the end of the text. -/
def endLine? (cs : List Char) : Option (List Char) :=
  match skipComment? (skipBlanks cs) with
  | none => none
  | some [] => some []
  | some rest => lineEnd? rest

/-- Remove blanks, comments and line ends. The fuel bounds the number of lines. -/
def skipLines? : Nat → List Char → Option (List Char)
  | 0, cs => some cs
  | fuel + 1, cs => match skipComment? (skipBlanks cs) with
    | none => none
    | some rest => match lineEnd? rest with
      | some rest => skipLines? fuel rest
      | none => some rest

/-- Remove blanks, comments and line ends. -/
def skipSpace? (cs : List Char) : Option (List Char) := skipLines? cs.length cs

/-! ### Escapes -/

/-- The character with a code point of so many hexadecimal digits. -/
def codePoint? (count : Nat) : Step Char := fun cs =>
  let digits := cs.take count
  if digits.length = count then
    match Text.natIn? 16 digits with
    | some n => if n.isValidChar then some (Char.ofNat n, cs.drop count) else none
    | none => none
  else none

/-- The character of an escape, after the backslash. -/
def escape? : Step Char
  | 'b' :: cs => some ('\x08', cs)
  | 't' :: cs => some ('\t', cs)
  | 'n' :: cs => some ('\n', cs)
  | 'f' :: cs => some ('\x0c', cs)
  | 'r' :: cs => some ('\r', cs)
  | 'e' :: cs => some ('\x1b', cs)
  | '"' :: cs => some ('"', cs)
  | '\\' :: cs => some ('\\', cs)
  | 'x' :: cs => codePoint? 2 cs
  | 'u' :: cs => codePoint? 4 cs
  | 'U' :: cs => codePoint? 8 cs
  | _ => none

/-! ### Strings -/

/-- The rest of a basic string, after the opening quote. -/
def basicRest : Nat → Step (List Char)
  | 0, _ => none
  | fuel + 1, cs => match cs with
    | '"' :: rest => some ([], rest)
    | '\\' :: rest => match escape? rest with
      | some (c, rest) => (basicRest fuel rest).map fun (s, rest) => (c :: s, rest)
      | none => none
    | c :: rest =>
      if isPlain c then (basicRest fuel rest).map fun (s, rest) => (c :: s, rest) else none
    | [] => none

/-- The rest of a literal string, after the opening quote. -/
def literalRest : Step (List Char) := fun cs =>
  let body := cs.takeWhile fun c => isPlain c && c != '\''
  match cs.drop body.length with
  | '\'' :: rest => some (body, rest)
  | _ => none

/-- The end of a string over lines, at three quotes: up to two more quotes belong to the string. -/
def closeLines? (quote : Char) : Step (List Char) := fun cs =>
  let count := (cs.takeWhile (· == quote)).length
  if count < 3 then none
  else
    let extra := min (count - 3) 2
    some (List.replicate extra quote, cs.drop (3 + extra))

/-- Remove a line end after the opening quotes. -/
def afterOpening (cs : List Char) : List Char := (lineEnd? cs).getD cs

/-- Remove blanks and line ends. -/
def skipLineEnds : Nat → List Char → List Char
  | 0, cs => cs
  | fuel + 1, cs => match lineEnd? (skipBlanks cs) with
    | some rest => skipLineEnds fuel rest
    | none => skipBlanks cs

/-- A line end as it is written. -/
def writtenLineEnd? : Step (List Char)
  | '\n' :: cs => some (['\n'], cs)
  | '\r' :: '\n' :: cs => some (['\r', '\n'], cs)
  | _ => none

/-- The rest of a basic string over lines, after the opening quotes. A backslash at the end of a
line removes the blanks and line ends after it. -/
def basicLines : Nat → Step (List Char)
  | 0, _ => none
  | fuel + 1, cs =>
    let more (lead : List Char) (rest : List Char) : Option (List Char × List Char) :=
      (basicLines fuel rest).map fun (s, rest) => (lead ++ s, rest)
    match closeLines? '"' cs, writtenLineEnd? cs with
    | some closed, _ => some closed
    | none, some (written, rest) => more written rest
    | none, none => match cs with
      | '\\' :: rest => match lineEnd? (skipBlanks rest), escape? rest with
        | some rest, _ => more [] (skipLineEnds rest.length rest)
        | none, some (c, rest) => more [c] rest
        | none, none => none
      | c :: rest => if isPlain c then more [c] rest else none
      | [] => none

/-- The rest of a literal string over lines, after the opening quotes. -/
def literalLines : Nat → Step (List Char)
  | 0, _ => none
  | fuel + 1, cs =>
    let more (lead : List Char) (rest : List Char) : Option (List Char × List Char) :=
      (literalLines fuel rest).map fun (s, rest) => (lead ++ s, rest)
    match closeLines? '\'' cs, writtenLineEnd? cs with
    | some closed, _ => some closed
    | none, some (written, rest) => more written rest
    | none, none => match cs with
      | c :: rest => if isPlain c then more [c] rest else none
      | [] => none

/-- A string on one line. -/
def lineString? : Step String := fun cs =>
  let chars := match cs with
    | '"' :: rest => basicRest cs.length rest
    | '\'' :: rest => literalRest rest
    | _ => none
  chars.map fun (s, rest) => (String.ofList s, rest)

/-- A string of any kind. -/
def string? : Step String := fun cs =>
  let chars := match cs with
    | '"' :: '"' :: '"' :: rest => basicLines cs.length (afterOpening rest)
    | '\'' :: '\'' :: '\'' :: rest => literalLines cs.length (afterOpening rest)
    | _ => none
  match chars with
  | some (s, rest) => some (String.ofList s, rest)
  | none => match cs with
    | '"' :: '"' :: '"' :: _ | '\'' :: '\'' :: '\'' :: _ => none
    | _ => lineString? cs

/-! ### Keys -/

/-- Whether a character may stand in a key without quotes. -/
def isBare (c : Char) : Bool := c.isAlphanum || c == '_' || c == '-'

/-- One part of a key. -/
def simpleKey? : Step String := fun cs =>
  match cs with
  | '"' :: _ | '\'' :: _ => lineString? cs
  | _ =>
    let key := cs.takeWhile isBare
    if key.isEmpty then none else some (String.ofList key, cs.drop key.length)

/-- The parts of a dotted key, at least one. The fuel bounds their number. -/
def dottedKey? : Nat → Step (List String)
  | 0, _ => none
  | fuel + 1, cs => match simpleKey? (skipBlanks cs) with
    | none => none
    | some (key, rest) => match skipBlanks rest with
      | '.' :: rest => (dottedKey? fuel rest).map fun (keys, rest) => (key :: keys, rest)
      | rest => some ([key], rest)

/-- A key: the tables on the way, and the last part. -/
def key? : Step (List String × String) := fun cs =>
  match dottedKey? cs.length cs with
  | some (keys, rest) => (keys.getLast?).map fun last => ((keys.dropLast, last), rest)
  | none => none

end ManifestMarkers.Toml
