import ManifestMarkers.Pattern.Bracket
import ManifestMarkers.Pattern.Size
import ManifestMarkers.Text.Alphanumeric

/-!
# Reading patterns

The written form of patterns: literals, `.`, classes by property or in brackets with set operations,
groups with flags or names, alternation, greedy and lazy repetition, anchors and word boundaries.
Reading fails on everything else; backreferences and lookaround are not part of the language.
Patterns that are nested too deeply or need too much room are refused as well.

Readers take a cursor and give back what they read with the cursor after it. Every call reads at
least one character, so the length of the pattern bounds the depth of the recursion.
-/

namespace ManifestMarkers.Pattern

/-! ### Groups -/

/-- Read the flags of a group up to `:` or `)`. `seen` are the letters so far, with `-` for the
switch to negation. -/
def readFlags (flags : Flags) (seen : List Char) : List Char → Option (Flags × Bool × List Char)
  | [] => none
  | c :: cs =>
    if c = ':' || c = ')' then
      if seen.head? = some '-' then none
      else if c = ')' && seen.isEmpty then none
      else some (flags, c = ':', cs)
    else if seen.contains c then none
    else if c = '-' then readFlags flags (c :: seen) cs
    else match flags.set? c (!seen.contains '-') with
      | some flags => readFlags flags (c :: seen) cs
      | none => none

/-- Whether `c` may stand in a group name. -/
def isNameChar (first : Bool) (c : Char) : Bool :=
  c = '_' || (if first then Text.isAlphabetic c
    else c = '.' || c = '[' || c = ']' || Text.isAlphanumeric c)

/-- Read a group name up to `>`. A name is not empty and is used once. -/
def readGroupName (k : Cursor) : Option Cursor :=
  let name := k.rest.takeWhile (· != '>')
  match k.rest.dropWhile (· != '>'), name with
  | _ :: cs, c :: more =>
    if isNameChar true c && more.all (isNameChar false) && !k.names.contains name then
      some { k with rest := cs, names := name :: k.names }
    else none
  | _, _ => none

/-- What an opening parenthesis starts. -/
inductive GroupHead
  /-- Flags for the rest of the enclosing group. -/
  | switch (k : Cursor)
  /-- A group with its number, if it has one. The body is read from the cursor on. -/
  | body (number : Option Nat) (k : Cursor)

/-- The head of a group with the next number. -/
def GroupHead.numbered (k : Cursor) : GroupHead :=
  .body (some (k.groups + 1)) { k with groups := k.groups + 1 }

/-- Read what follows an opening parenthesis. -/
def readGroupHead (k : Cursor) : Option GroupHead :=
  let k := k.space
  match k.rest with
  | '?' :: '=' :: _ | '?' :: '!' :: _ | '?' :: '<' :: '=' :: _ | '?' :: '<' :: '!' :: _ => none
  | '?' :: 'P' :: '<' :: cs | '?' :: '<' :: cs => (readGroupName (k.goTo cs)).map .numbered
  | '?' :: cs => match readFlags k.flags [] cs with
    | some (flags, true, cs) => some (.body none { k with rest := cs, flags })
    | some (flags, false, cs) => some (.switch { k with rest := cs, flags })
    | none => none
  | _ => some (.numbered k)

/-! ### Repetition -/

/-- Read decimal digits, blanks and comments skipped in verbose patterns. -/
def readDigits (k : Cursor) : Nat → List Char × Cursor
  | 0 => ([], k)
  | fuel + 1 => match k.rest with
    | c :: cs =>
      if c.isDigit then
        let (digits, k) := readDigits (k.goToSpace cs) fuel
        (c :: digits, k)
      else ([], k)
    | [] => ([], k)

/-- Read a decimal count with blanks around it. Counts are below `2 ^ 32`. -/
def readCount (k : Cursor) : Option Nat × Cursor :=
  let start := k.goTo (k.rest.dropWhile Text.isBlank)
  let (digits, after) := readDigits start start.rest.length
  let value := digits.foldl (fun n c => 10 * n + (c.toNat - '0'.toNat)) 0
  (if digits.isEmpty || value ≥ 0x100000000 then none else some value,
    after.goTo (after.rest.dropWhile Text.isBlank))

/-- Read the bounds of a repetition after its opening brace. -/
def readBounds (k : Cursor) : Option (Nat × Option Nat × Cursor) :=
  let (min?, k) := readCount k.space
  match min?, k.rest with
  | some min, '\x7d' :: cs => some (min, some min, k.goToSpace cs)
  | some min, ',' :: cs =>
    let k := k.goToSpace cs
    match k.rest with
    | '\x7d' :: cs => some (min, none, k.goToSpace cs)
    | _ => match readCount k with
      | (some max, k) => match k.rest with
        | '\x7d' :: cs => if min ≤ max then some (min, some max, k.goToSpace cs) else none
        | _ => none
      | (none, _) => none
  | _, _ => none

/-- Read the mark that makes a repetition lazy. -/
def readGreed (k : Cursor) : Bool × Cursor :=
  match k.rest with
  | '?' :: cs => (k.flags.swapGreed, k.goTo cs)
  | _ => (!k.flags.swapGreed, k)

/-! ### Units -/

/-- The expression of a literal character. A byte that is no character matches nothing. -/
def Flags.literal? (f : Flags) (c : Char) (asByte : Bool) : Option Expr :=
  if f.overUnicode || c.val < 0x80 then some (.ofSet (f.foldSet (.single c.toNat)))
  else if asByte then none
  else some (.text [c])

/-- The expression of a dot. Over bytes a dot would match parts of characters. -/
def Flags.dot? (f : Flags) : Option Expr :=
  if !f.overUnicode then none
  else if f.dotAll then some (.char (.range 0 0x10ffff))
  else if f.crlf then some (.char (Text.CodeSet.ofRanges [(0x0a, 0x0a), (0x0d, 0x0d)]).compl)
  else some (.char (Text.CodeSet.single 0x0a).compl)

/-- The condition of `^`. -/
def Flags.startLook (f : Flags) : Look :=
  if f.multiLine then if f.crlf then .lineStartCrlf else .lineStart else .textStart

/-- The condition of `$`. -/
def Flags.endLook (f : Flags) : Look :=
  if f.multiLine then if f.crlf then .lineEndCrlf else .lineEnd else .textEnd

/-- Read one unit outside of classes. -/
def readAtom (k : Cursor) : Option (Expr × Cursor) :=
  match k.rest with
  | [] => none
  | '\\' :: cs => do
    let (atom, k) ← readEscape (k.goTo cs)
    match atom with
    | .literal c asByte => (k.flags.literal? c asByte).map (·, k)
    | .set s => some (.ofSet s, k)
    | .condition l => some (.look l, k)
  | '.' :: cs => k.flags.dot?.map (·, k.goTo cs)
  | '^' :: cs => some (.look k.flags.startLook, k.goTo cs)
  | '$' :: cs => some (.look k.flags.endLook, k.goTo cs)
  | c :: cs => (k.flags.literal? c false).map (·, k.goTo cs)

/-! ### Sequences and choices -/

/-- A part of a sequence: an expression, or a switch of flags, which cannot be repeated. -/
inductive Part
  | expr (e : Nested Expr)
  | switch

/-- The expression of a part. -/
def Part.toExpr : Part → Nested Expr
  | expr e => e
  | switch => ⟨.empty, 0⟩

/-- The depth of the deepest of some expressions. -/
def maxDepth (es : List (Nested Expr)) : Nat := es.foldl (fun d e => max d e.depth) 0

/-- The sequence of some parts, given last to first. -/
def joinParts (parts : List Part) : Nested Expr :=
  match parts.map Part.toExpr with
  | [e] => e
  | es => ⟨.sequence (es.reverse.map (·.value)), if es.isEmpty then 0 else maxDepth es + 1⟩

/-- The choice between some branches, given last to first. -/
def joinBranches (branches : List (Nested Expr)) : Nested Expr :=
  match branches with
  | [e] => e
  | es => ⟨.choice (es.reverse.map (·.value)), maxDepth es + 1⟩

/-- A group around an expression. -/
def closeGroup (number : Option Nat) (e : Nested Expr) : Nested Expr :=
  ⟨match number with
    | some n => .group n e.value
    | none => e.value, e.depth + 1⟩

/-- Read a group body up to its closing parenthesis or the end of the pattern. `branches` are the
alternatives before and `parts` those of the current one, both from last to first. -/
def readBody : Nat → List (Nested Expr) → List Part → Cursor → Option (Nested Expr × Cursor)
  | 0, _, _, _ => none
  | fuel + 1, branches, parts, k =>
    let k := k.space
    let repeated (min : Nat) (max : Option Nat) (k : Cursor) : Option (Nested Expr × Cursor) :=
      match parts with
      | .expr e :: parts =>
        let (greedy, k) := readGreed k
        readBody fuel branches
          (.expr ⟨.repeated min max greedy e.value, e.depth + 1⟩ :: parts) k
      | _ => none
    match k.rest with
    | [] | ')' :: _ => some (joinBranches (joinParts parts :: branches), k)
    | '|' :: cs => readBody fuel (joinParts parts :: branches) [] (k.goTo cs)
    | '?' :: cs => repeated 0 (some 1) (k.goTo cs)
    | '*' :: cs => repeated 0 none (k.goTo cs)
    | '+' :: cs => repeated 1 none (k.goTo cs)
    | '\x7b' :: cs => match readBounds (k.goTo cs) with
      | some (min, max, k) => repeated min max k
      | none => none
    | '[' :: cs => match readClass (k.goTo cs) with
      | some (set, k) =>
        readBody fuel branches (.expr ⟨.ofSet set.value, set.depth⟩ :: parts) k
      | none => none
    | '(' :: cs => match readGroupHead (k.goTo cs) with
      | some (.switch k) => readBody fuel branches (.switch :: parts) k
      | some (.body number inner) => match readBody fuel [] [] inner with
        | some (e, after) => match after.rest with
          | ')' :: cs =>
            readBody fuel branches (.expr (closeGroup number e) :: parts)
              { after with rest := cs, flags := k.flags }
          | _ => none
        | none => none
      | none => none
    | _ => match readAtom k with
      | some (e, k) => readBody fuel branches (.expr ⟨e, 0⟩ :: parts) k
      | none => none

/-- How deep the parts of a pattern may be nested. -/
def nestingLimit : Nat := 250

/-- The expression that a text describes, if it is a pattern. -/
def readExpr? (cs : List Char) : Option Expr :=
  match readBody (cs.length + 1) [] [] { rest := cs } with
  | some (e, k) =>
    if k.rest.isEmpty && e.depth ≤ nestingLimit && e.value.fits then some e.value else none
  | none => none

end ManifestMarkers.Pattern
