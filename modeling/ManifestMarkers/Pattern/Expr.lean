import ManifestMarkers.Pattern.Class

/-!
# Pattern expressions

A pattern is built from text, sets of characters, conditions on the surroundings of a place,
sequence, ordered choice and repetition. Of two choices the first is preferred; a greedy repetition
prefers one more round, a lazy one prefers to stop.

Expressions are built by `ofSet`, `sequence`, `choice` and `repeated`, which bring them into a short
form: texts that stand side by side are joined, a choice between characters is a set, and what all
branches of a choice start with stands before it.
-/

namespace ManifestMarkers.Pattern

open Text (CodeSet)

/-- A condition on the characters before and after a place. -/
inductive Look
  | textStart
  | textEnd
  | lineStart
  | lineEnd
  /-- Like `lineStart`, where a carriage return, a line feed or both end a line. -/
  | lineStartCrlf
  /-- Like `lineEnd`, where a carriage return, a line feed or both end a line. -/
  | lineEndCrlf
  | wordBoundary (overUnicode : Bool)
  | notWordBoundary (overUnicode : Bool)
  | wordStart (overUnicode : Bool)
  | wordEnd (overUnicode : Bool)
  | wordStartHalf (overUnicode : Bool)
  | wordEndHalf (overUnicode : Bool)
  deriving DecidableEq, Repr

/-- Whether a neighbour is a word character; a missing neighbour is none. -/
def isWordAt (overUnicode : Bool) : Option Char → Bool
  | none => false
  | some c => (wordSet overUnicode).contains c.toNat

/-- Whether the condition holds between `before` and `after`. -/
def Look.holds (before after : Option Char) : Look → Bool
  | textStart => before.isNone
  | textEnd => after.isNone
  | lineStart => before.isNone || before == some '\n'
  | lineEnd => after.isNone || after == some '\n'
  | lineStartCrlf =>
    before.isNone || before == some '\n' || (before == some '\r' && after != some '\n')
  | lineEndCrlf =>
    after.isNone || after == some '\r' || (after == some '\n' && before != some '\r')
  | wordBoundary u => isWordAt u before != isWordAt u after
  | notWordBoundary u => isWordAt u before == isWordAt u after
  | wordStart u => !isWordAt u before && isWordAt u after
  | wordEnd u => isWordAt u before && !isWordAt u after
  | wordStartHalf u => !isWordAt u before
  | wordEndHalf u => !isWordAt u after

/-- A pattern expression. -/
inductive Expr
  | empty
  /-- A text, which is not empty. -/
  | text (chars : List Char)
  /-- A character of a set. -/
  | char (set : CodeSet)
  | look (condition : Look)
  /-- A numbered group, which matches like its content. -/
  | group (number : Nat) (e : Expr)
  /-- One after the other. -/
  | seq (parts : List Expr)
  /-- The first branch that matches. -/
  | alt (branches : List Expr)
  /-- At least `min` and at most `max` rounds of `e`. -/
  | rep (min : Nat) (max : Option Nat) (greedy : Bool) (e : Expr)

namespace Expr

/-! ### Lengths -/

mutual

/-- The least number of characters of a match; nothing if there may be no match at all. -/
def minLength : Expr → Option Nat
  | empty | look _ => some 0
  | text chars => some chars.length
  | char set => if set.edges.isEmpty then none else some 1
  | group _ e => e.minLength
  | seq parts => minLengthSeq parts
  | alt branches => minLengthAlt branches
  | rep min _ _ e => e.minLength.map (min * ·)

/-- The least number of characters of a sequence. -/
def minLengthSeq : List Expr → Option Nat
  | [] => some 0
  | e :: es => match e.minLength, minLengthSeq es with
    | some m, some n => some (m + n)
    | _, _ => none

/-- The least number of characters of a choice. -/
def minLengthAlt : List Expr → Option Nat
  | [] => none
  | [e] => e.minLength
  | e :: es => match e.minLength, minLengthAlt es with
    | some m, some n => some (min m n)
    | _, _ => none

end

mutual

/-- The greatest number of characters of a match; nothing if there is no bound or no match. -/
def maxLength : Expr → Option Nat
  | empty | look _ => some 0
  | text chars => some chars.length
  | char set => if set.edges.isEmpty then none else some 1
  | group _ e => e.maxLength
  | seq parts => maxLengthSeq parts
  | alt branches => maxLengthAlt branches
  | rep _ max _ e => match max, e.maxLength with
    | some m, some n => some (m * n)
    | _, _ => none

/-- The greatest number of characters of a sequence. -/
def maxLengthSeq : List Expr → Option Nat
  | [] => some 0
  | e :: es => match e.maxLength, maxLengthSeq es with
    | some m, some n => some (m + n)
    | _, _ => none

/-- The greatest number of characters of a choice. -/
def maxLengthAlt : List Expr → Option Nat
  | [] => none
  | [e] => e.maxLength
  | e :: es => match e.maxLength, maxLengthAlt es with
    | some m, some n => some (max m n)
    | _, _ => none

end

/-- Whether every match has a character at least. -/
def needsText (e : Expr) : Bool :=
  match e.minLength with
  | some n => n != 0
  | none => false

/-- Whether every match is empty. -/
def isBlank (e : Expr) : Bool := e.maxLength == some 0

/-! ### Anchors -/

mutual

/-- Whether every match starts where the condition was checked. -/
def startsWith (l : Look) : Expr → Bool
  | look condition => condition == l
  | group _ e => e.startsWith l
  | seq parts => startsWithSeq l parts
  | alt branches => startsWithAlt l branches
  | rep min _ _ e => min != 0 && e.startsWith l
  | _ => false

/-- Whether a part before the first character checks the condition. -/
def startsWithSeq (l : Look) : List Expr → Bool
  | [] => false
  | e :: es => e.startsWith l || (e.isBlank && startsWithSeq l es)

/-- Whether every branch starts where the condition was checked. -/
def startsWithAlt (l : Look) : List Expr → Bool
  | [] => true
  | e :: es => e.startsWith l && startsWithAlt l es

end

mutual

/-- Whether every match ends where the condition was checked. -/
def endsWith (l : Look) : Expr → Bool
  | look condition => condition == l
  | group _ e => e.endsWith l
  | seq parts => (endsWithSeq l parts).1
  | alt branches => endsWithAlt l branches
  | rep min _ _ e => min != 0 && e.endsWith l
  | _ => false

/-- Whether a part after the last character checks the condition, and whether all are blank. -/
def endsWithSeq (l : Look) : List Expr → Bool × Bool
  | [] => (false, true)
  | e :: es =>
    let (found, blank) := endsWithSeq l es
    (found || (blank && e.endsWith l), blank && e.isBlank)

/-- Whether every branch ends where the condition was checked. -/
def endsWithAlt (l : Look) : List Expr → Bool
  | [] => true
  | e :: es => e.endsWith l && endsWithAlt l es

end

/-! ### Equality -/

mutual

/-- Equality of expressions. -/
def same : Expr → Expr → Bool
  | empty, empty => true
  | text a, text b => a == b
  | char a, char b => a == b
  | look a, look b => a == b
  | group m a, group n b => m == n && same a b
  | seq as, seq bs => sameAll as bs
  | alt as, alt bs => sameAll as bs
  | rep min max greedy a, rep min' max' greedy' b =>
    min == min' && max == max' && greedy == greedy' && same a b
  | _, _ => false

/-- Equality of expressions, one by one. -/
def sameAll : List Expr → List Expr → Bool
  | [], [] => true
  | a :: as, b :: bs => same a b && sameAll as bs
  | _, _ => false

end

/-! ### Building expressions -/

/-- A character of a set. -/
def ofSet (set : CodeSet) : Expr :=
  match set.single? with
  | some n => text [Char.ofNat n]
  | none => char set

/-- The parts of an expression as a sequence. -/
def parts : Expr → List Expr
  | empty => []
  | seq parts => parts
  | e => [e]

/-- Join texts that stand side by side. -/
def joinTexts : List Expr → List Expr
  | [] => []
  | text a :: es => match joinTexts es with
    | text b :: es => text (a ++ b) :: es
    | es => text a :: es
  | e :: es => e :: joinTexts es

/-- One expression after the other. -/
def sequence (es : List Expr) : Expr :=
  match joinTexts (es.flatMap parts) with
  | [] => empty
  | [e] => e
  | es => seq es

/-- The branches of an expression as a choice. -/
def branches : Expr → List Expr
  | alt branches => branches
  | e => [e]

/-- The character of a text of one character. -/
def letter? : Expr → Option Nat
  | text [c] => some c.toNat
  | _ => none

/-- The set of a single character. -/
def set? : Expr → Option CodeSet
  | char set => some set
  | _ => none

/-- A choice; a choice between characters, or between sets, is a set. -/
def plainChoice (es : List Expr) : Expr :=
  match es.flatMap branches with
  | [] => char .empty
  | [e] => e
  | es => match es.mapM letter? with
    | some letters => ofSet (.unions (letters.map .single))
    | none => match es.mapM set? with
      | some sets => ofSet (.unions sets)
      | none => alt es

/-- The common start of two lists. -/
def commonStart : List Expr → List Expr → List Expr
  | a :: as, b :: bs => if same a b then a :: commonStart as bs else []
  | _, _ => []

/-- The parts of an expression that is a sequence of several. -/
def seq? : Expr → Option (List Expr)
  | seq parts => some parts
  | _ => none

/-- A choice. What all branches start with stands before it. -/
def choice (es : List Expr) : Expr :=
  match plainChoice es with
  | alt branches => match branches.mapM seq? with
    | some (first :: others) =>
      match others.foldl commonStart first with
      | [] => alt branches
      | start =>
        let rests := (first :: others).map fun parts => sequence (parts.drop start.length)
        sequence (start ++ [plainChoice rests])
    | _ => alt branches
  | e => e

/-- Rounds of an expression. Rounds that match nothing but the empty text are done at most once. -/
def repeated (min : Nat) (max : Option Nat) (greedy : Bool) (e : Expr) : Expr :=
  let (min, max) := if e.isBlank then (Min.min min 1, some (Min.min (max.getD 1) 1)) else (min, max)
  match min, max with
  | 0, some 0 => empty
  | 1, some 1 => e
  | _, _ => rep min max greedy e

end Expr

end ManifestMarkers.Pattern
