import ManifestMarkers.Point
import ManifestMarkers.Text.Basic

/-!
# Lines of a manifest

A manifest is read line by line. This module classifies lines and splits them: a key from what
follows it, and a value into its anchor, tag, text and trailing comment.
-/

namespace ManifestMarkers.Manifest

/-- What a line holds. -/
inductive LineKind
  | blank
  | comment
  | documentStart
  | documentEnd
  | content
  deriving DecidableEq, Repr

/-- A line of a manifest. -/
structure Line where
  /-- The number of the line, from one. -/
  number : Nat
  /-- The width of the indentation. -/
  indent : Nat
  /-- The line without indentation and trailing blanks. -/
  text : List Char
  /-- The line as it stands, without its line end. -/
  raw : List Char
  kind : LineKind
  deriving DecidableEq, Repr

/-- What a line with this indentation and text holds. -/
def lineKind (indent : Nat) (text : List Char) : LineKind :=
  match text with
  | [] => .blank
  | '#' :: _ => .comment
  | _ =>
    if indent = 0 ∧ (text = ['-', '-', '-'] ∨ ['-', '-', '-', ' '].isPrefixOf text) then
      .documentStart
    else if indent = 0 ∧ text = ['.', '.', '.'] then .documentEnd
    else .content

/-- Remove one trailing carriage return. -/
def dropCarriageReturn (cs : List Char) : List Char :=
  match cs.reverse with
  | '\r' :: rest => rest.reverse
  | _ => cs

/-- The line with the given number. -/
def Line.of (number : Nat) (cs : List Char) : Line :=
  let raw := dropCarriageReturn cs
  let indented := raw.dropWhile (· == ' ')
  let indent := raw.length - indented.length
  let text := Text.trimEnd indented
  { number, indent, text, raw, kind := lineKind indent text }

/-! ### Quoted scalars -/

/-- Split after the double quote that is not escaped. -/
def splitDouble (escaped : Bool) : List Char → Option (List Char × List Char)
  | [] => none
  | c :: cs =>
    if c = '"' ∧ !escaped then some ([c], cs)
    else (splitDouble (c = '\\' && !escaped) cs).map fun (q, rest) => (c :: q, rest)

/-- Split after the single quote that is not doubled. -/
def splitSingle : List Char → Option (List Char × List Char)
  | [] => none
  | ['\''] => some (['\''], [])
  | '\'' :: '\'' :: cs => (splitSingle cs).map fun (q, rest) => ('\'' :: '\'' :: q, rest)
  | c :: cs =>
    if c = '\'' then some ([c], cs) else (splitSingle cs).map fun (q, rest) => (c :: q, rest)

/-- Split a text after the quoted scalar it starts with. -/
def splitQuoted? (cs : List Char) : Option (List Char × List Char) :=
  match cs with
  | '"' :: cs => (splitDouble false cs).map fun (q, rest) => ('"' :: q, rest)
  | '\'' :: cs => (splitSingle cs).map fun (q, rest) => ('\'' :: q, rest)
  | _ => none

/-- Whether a text starts with a quote. -/
def startsQuoted : List Char → Bool
  | '"' :: _ | '\'' :: _ => true
  | _ => false

/-! ### Keys and items -/

/-- Whether a line is an item of a sequence. -/
def isItem : List Char → Bool
  | ['-'] => true
  | '-' :: c :: _ => c == ' ' || c == '\t'
  | _ => false

/-- Characters that no key starts with. -/
def isKeyBarrier (c : Char) : Bool := "[\x7b|>#!&*?%@`".toList.contains c

/-- Split at the first colon before a blank or the end. Gives what stands before and after it. -/
def splitColon : List Char → Option (List Char × List Char)
  | [] => none
  | c :: cs =>
    let ends := match cs with
      | [] => true
      | d :: _ => d == ' ' || d == '\t'
    if c == ':' && ends then some ([], cs)
    else (splitColon cs).map fun (before, after) => (c :: before, after)

/-- Split a line into its key and what follows the colon. -/
def splitKey? (text : List Char) : Option (List Char × List Char) :=
  if isItem text || text.head?.any isKeyBarrier then none
  else
    let start := if startsQuoted text then splitQuoted? text else some ([], text)
    match start with
    | none => none
    | some (quoted, rest) => match splitColon rest with
      | none => none
      | some (before, after) =>
        let key := Text.trimEnd (quoted ++ before)
        if key.isEmpty || (quoted.isEmpty && Text.occursIn [' ', '#'] key) then none
        else some (key, after)

/-! ### Values -/

/-- Split at the first `#` at the start or after a blank; `before` is the character before. -/
def splitHash (before : Option Char) : List Char → List Char × List Char
  | [] => ([], [])
  | c :: cs =>
    let free := match before with
      | none => true
      | some b => b == ' ' || b == '\t'
    if c == '#' && free then ([], c :: cs)
    else
      let (value, comment) := splitHash (some c) cs
      (c :: value, comment)

/-- Split a text after the tag it starts with, and the blanks after the tag. -/
def splitTag (text : List Char) : List Char × List Char :=
  let tag := match text with
    | '!' :: _ =>
      let tag := text.takeWhile fun c => !Text.isInlineBlank c
      tag ++ (text.drop tag.length).take 1
    | _ => []
  let rest := text.drop tag.length
  (tag ++ rest.takeWhile Text.isBlank, rest.dropWhile Text.isBlank)

/-- Split a value from its trailing comment. -/
def splitComment (text : List Char) : List Char × List Char :=
  let text := Text.trim text
  let (lead, body) := splitTag text
  let (quoted, rest) := (splitQuoted? body).getD ([], body)
  let before := lead ++ quoted
  let (value, comment) := splitHash before.getLast? rest
  if comment.isEmpty then (text, []) else (Text.trimEnd (before ++ value), Text.trimEnd comment)

/-- The parts of a value on a line. -/
structure InlineValue where
  anchor : Option (List Char) := none
  tag : Option (List Char) := none
  text : List Char := []
  comment : List Char := []
  deriving DecidableEq, Repr

/-- Take the properties off a text: at most one anchor and one tag. The fuel is the number of
properties that are left to take. -/
def takeProperties : Nat → InlineValue → List Char → InlineValue × List Char
  | 0, value, rest => (value, rest)
  | fuel + 1, value, rest =>
    let property := rest.takeWhile fun c => !Text.isInlineBlank c
    let after := Text.trimStart (rest.drop property.length)
    match rest with
    | '&' :: _ =>
      if value.anchor.isSome then (value, rest)
      else takeProperties fuel { value with anchor := some property } after
    | '!' :: _ =>
      if value.tag.isSome then (value, rest)
      else takeProperties fuel { value with tag := some property } after
    | _ => (value, rest)

/-- Split a value into its properties, text and comment. A quoted scalar that is not closed keeps
the rest of the line. -/
def splitValue (text : List Char) : InlineValue :=
  let (value, rest) := takeProperties 2 {} (Text.trim text)
  if startsQuoted rest && (splitQuoted? rest).isNone then { value with text := rest }
  else
    let (text, comment) := splitComment rest
    { value with text, comment }

/-! ### Flow collections and folding -/

/-- How many brackets a line of a flow collection opens more than it closes, outside of quotes. -/
def flowDepthFrom (quote : Option Char) (depth : Int) : List Char → Int
  | [] => depth
  | c :: cs => match quote with
    | some q => flowDepthFrom (if c = q then none else some q) depth cs
    | none =>
      if c = '"' ∨ c = '\'' then flowDepthFrom (some c) depth cs
      else if c = '[' ∨ c = '\x7b' then flowDepthFrom none (depth + 1) cs
      else if c = ']' ∨ c = '\x7d' then flowDepthFrom none (depth - 1) cs
      else flowDepthFrom none depth cs

/-- How many brackets a line of a flow collection opens more than it closes. -/
def flowDepth (cs : List Char) : Int := flowDepthFrom none 0 cs

/-- Join lines by spaces; an empty line is a line feed. `fresh` says that no space is due. -/
def foldLinesFrom (fresh : Bool) : List (List Char) → List Char
  | [] => []
  | [] :: lines => '\n' :: foldLinesFrom true lines
  | line :: lines => (if fresh then [] else [' ']) ++ line ++ foldLinesFrom false lines

/-- Join the lines of a folded scalar. -/
def foldLines (lines : List (List Char)) : List Char := foldLinesFrom true lines

/-! ### Comments -/

/-- The number of characters before the last occurrence of `needle`. -/
def lastIndexOf? (needle : List Char) : List Char → Option Nat
  | [] => if needle.isEmpty then some 0 else none
  | c :: cs => match lastIndexOf? needle cs with
    | some n => some (n + 1)
    | none => if needle.isPrefixOf (c :: cs) then some 0 else none

/-- Where the trailing comment of a line starts. -/
def Line.commentPoint? (line : Line) (comment : List Char) : Option Point :=
  if comment.isEmpty then none
  else (lastIndexOf? comment line.raw).map fun n => ⟨line.number, n + 1, 0⟩

end ManifestMarkers.Manifest
