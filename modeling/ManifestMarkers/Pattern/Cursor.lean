import ManifestMarkers.Pattern.Class
import ManifestMarkers.Text.Basic
import ManifestMarkers.Text.Folding

/-!
# Places in a pattern

A reader of patterns takes a cursor, which holds what is left of the pattern and what was set before
it, and gives back what it read with the cursor after it. In verbose patterns blanks and comments
are skipped almost everywhere, so moving on has two forms, `goTo` and `goToSpace`.
-/

namespace ManifestMarkers.Pattern

open Text (CodeSet)

/-- The switches a pattern can set with `(?flags)`. -/
structure Flags where
  /-- `i`: ignore case. -/
  ignoreCase : Bool := false
  /-- `m`: anchors match at line ends. -/
  multiLine : Bool := false
  /-- `s`: a dot matches line feeds. -/
  dotAll : Bool := false
  /-- `U`: repetition is lazy unless marked. -/
  swapGreed : Bool := false
  /-- `u`: classes range over all characters and not over bytes. -/
  overUnicode : Bool := true
  /-- `R`: a carriage return also ends a line. -/
  crlf : Bool := false
  /-- `x`: blanks and comments are skipped. -/
  verbose : Bool := false
  deriving DecidableEq, Repr

namespace Flags

/-- Switch the flag with letter `c`. -/
def set? (f : Flags) (c : Char) (on : Bool) : Option Flags :=
  match c with
  | 'i' => some { f with ignoreCase := on }
  | 'm' => some { f with multiLine := on }
  | 's' => some { f with dotAll := on }
  | 'U' => some { f with swapGreed := on }
  | 'u' => some { f with overUnicode := on }
  | 'R' => some { f with crlf := on }
  | 'x' => some { f with verbose := on }
  | _ => none

/-- The set with the case of its members ignored, if the flags say so. -/
def foldSet (f : Flags) (s : CodeSet) : CodeSet :=
  if f.ignoreCase then if f.overUnicode then s.foldCase else foldAscii s else s

/-- A finished class: case is ignored first, then the complement is taken. Over bytes there is no
complement, because it would hold parts of characters. -/
def closeSet? (f : Flags) (negated : Bool) (s : CodeSet) : Option CodeSet :=
  let s := f.foldSet s
  if !negated then some s
  else if f.overUnicode then some s.compl
  else none

end Flags

/-- The part of the pattern that is left, with the flags in force and the groups so far. -/
structure Cursor where
  rest : List Char
  flags : Flags := {}
  /-- The number of numbered groups. -/
  groups : Nat := 0
  /-- The names of groups. -/
  names : List (List Char) := []
  deriving DecidableEq, Repr

namespace Cursor

/-- Skip blanks and comments; `inComment` until the next line feed. -/
def skipVerbose (inComment : Bool) : List Char → List Char
  | [] => []
  | c :: cs =>
    if inComment then skipVerbose (c != '\n') cs
    else if Text.isBlank c then skipVerbose false cs
    else if c = '#' then skipVerbose true cs
    else c :: cs

/-- Skip blanks and comments if the pattern is verbose. -/
def space (k : Cursor) : Cursor :=
  if k.flags.verbose then { k with rest := skipVerbose false k.rest } else k

/-- Move to `rest`. -/
def goTo (k : Cursor) (rest : List Char) : Cursor := { k with rest }

/-- Move to `rest`, then skip blanks and comments if the pattern is verbose. -/
def goToSpace (k : Cursor) (rest : List Char) : Cursor := (k.goTo rest).space

/-- The next character. In verbose patterns blanks are skipped, and so is the sign that starts a
comment with the blanks after it, but not the comment. -/
def ahead? (k : Cursor) : Option Char :=
  if k.flags.verbose then
    match k.rest.dropWhile Text.isBlank with
    | '#' :: cs => (cs.dropWhile Text.isBlank).head?
    | cs => cs.head?
  else k.rest.head?

end Cursor

/-- What was read, with the depth to which its parts are nested. -/
structure Nested (α : Type) where
  value : α
  depth : Nat
  deriving Repr

end ManifestMarkers.Pattern
