import ManifestMarkers.Pattern.Escape

/-!
# Bracketed classes

A class in brackets is a union of characters, ranges, escapes, named classes and further brackets.
Intersection `&&`, difference `--` and symmetric difference `~~` stand between unions and associate
to the left. Where case is ignored, it is ignored in both operands before an operation and in the
union before its complement.
-/

namespace ManifestMarkers.Pattern

open Text (CodeSet)

/-- The operations between the unions of a class. -/
inductive SetOp
  | inter
  | diff
  | symmDiff
  deriving DecidableEq, Repr

/-- Apply an operation to two operands, ignoring case in both if the flags say so. -/
def Flags.applyOp (f : Flags) (op : SetOp) (a b : CodeSet) : CodeSet :=
  match op with
  | .inter => f.foldSet a ∩ f.foldSet b
  | .diff => f.foldSet a \ f.foldSet b
  | .symmDiff => (f.foldSet a).symmDiff (f.foldSet b)

/-- A union of items, as far as it is read. -/
structure ItemUnion where
  set : CodeSet := .empty
  /-- The number of items. -/
  count : Nat := 0
  /-- The depth of the items. -/
  depth : Nat := 0

namespace ItemUnion

/-- One item more. -/
def add (u : ItemUnion) (item : Nested CodeSet) : ItemUnion :=
  ⟨u.set ∪ item.value, u.count + 1, max u.depth item.depth⟩

/-- One item more that is a set without parts. -/
def addSet (u : ItemUnion) (s : CodeSet) : ItemUnion := u.add ⟨s, 0⟩

/-- The whole union, which nests its items if there are several. -/
def close (u : ItemUnion) : Nested CodeSet :=
  ⟨u.set, if u.count ≥ 2 then u.depth + 1 else u.depth⟩

end ItemUnion

/-- The class up to here: the union since the last operation, joined with what stands before it. -/
def Flags.joinOperand (f : Flags) (before : Option (SetOp × Nested CodeSet)) (u : ItemUnion) :
    Nested CodeSet :=
  match before with
  | some (op, a) => ⟨f.applyOp op a.value u.close.value, max a.depth u.close.depth + 1⟩
  | none => u.close

/-! ### Items -/

/-- The code of a literal inside a class, which over bytes has to be ASCII. -/
def Flags.classCode? (f : Flags) (c : Char) : Option Nat :=
  if f.overUnicode || c.val < 0x80 then some c.toNat else none

/-- Read one unit of a class. -/
def readClassAtom (k : Cursor) : Option (Atom × Cursor) :=
  match k.rest with
  | '\\' :: cs => readEscape (k.goTo cs)
  | c :: cs => some (.literal c false, k.goTo cs)
  | [] => none

/-- The set of one unit. -/
def Flags.atomSet? (f : Flags) : Atom → Option CodeSet
  | .literal c _ => (f.classCode? c).map .single
  | .set s => some s
  | .condition _ => none

/-- The set of a range between two units. -/
def Flags.rangeSet? (f : Flags) : Atom → Atom → Option CodeSet
  | .literal a _, .literal b _ => do
    let first ← f.classCode? a
    let last ← f.classCode? b
    if first ≤ last then some (.range first last) else none
  | _, _ => none

/-- Read a unit or a range of a class. A hyphen before a closing bracket or another hyphen makes no
range. -/
def readClassItem (k : Cursor) : Option (CodeSet × Cursor) := do
  let (first, k) ← readClassAtom k
  let k := k.space
  let single := (k.flags.atomSet? first).map (·, k)
  match k.rest with
  | [] => none
  | '-' :: cs =>
    let next := (k.goTo cs).ahead?
    if next == some ']' || next == some '-' then single
    else do
      let (last, k) ← readClassAtom (k.goToSpace cs)
      return (← k.flags.rangeSet? first last, k)
  | _ => single

/-- Read a named class such as `[:alpha:]` after its opening bracket: its set and whether the
complement is meant. -/
def readNamedClass? (k : Cursor) : Option (CodeSet × Bool × Cursor) :=
  match k.rest with
  | ':' :: cs =>
    let (negated, cs) := match cs with
      | '^' :: cs => (true, cs)
      | cs => (false, cs)
    let name := cs.takeWhile (· != ':')
    match cs.dropWhile (· != ':') with
    | ':' :: ']' :: after => (asciiClass? name).map (·, negated, k.goTo after)
    | _ => none
  | _ => none

/-! ### Classes -/

/-- Read the leading hyphens of a class, which stand for themselves. -/
def readLeadingHyphens (u : ItemUnion) (k : Cursor) : Nat → ItemUnion × Cursor
  | 0 => (u, k)
  | fuel + 1 => match k.rest with
    | '-' :: cs => readLeadingHyphens (u.addSet (.single '-'.toNat)) (k.goToSpace cs) fuel
    | _ => (u, k)

/-- Read the opening of a class after its bracket: the complement sign, hyphens, and a closing
bracket that stands for itself. Gives the items so far. -/
def readClassOpen (k : Cursor) : Bool × ItemUnion × Cursor :=
  let k := k.space
  let (negated, k) := match k.rest with
    | '^' :: cs => (true, k.goToSpace cs)
    | _ => (false, k)
  let (items, k) := readLeadingHyphens {} k k.rest.length
  match items.count, k.rest with
  | 0, ']' :: cs => (negated, items.addSet (.single ']'.toNat), k.goToSpace cs)
  | _, _ => (negated, items, k)

/-- The operation that a text starts with, and the text after it. -/
def setOp? : List Char → Option (SetOp × List Char)
  | '&' :: '&' :: cs => some (.inter, cs)
  | '-' :: '-' :: cs => some (.diff, cs)
  | '~' :: '~' :: cs => some (.symmDiff, cs)
  | _ => none

/-- Read the items of a class up to its closing bracket. `before` is what stands before the last
operation, `items` the union since then. Every call reads a character, so the length of the pattern
bounds them. -/
def readItems : Nat → Option (SetOp × Nested CodeSet) → ItemUnion → Cursor →
    Option (Nested CodeSet × Cursor)
  | 0, _, _, _ => none
  | fuel + 1, before, items, k =>
    let k := k.space
    match k.rest with
    | [] => none
    | ']' :: cs => some (k.flags.joinOperand before items, k.goTo cs)
    | '[' :: cs =>
      match readNamedClass? (k.goTo cs) with
      | some (named, negated, after) => match k.flags.closeSet? negated named with
        | some named => readItems fuel before (items.addSet named) after
        | none => none
      | none =>
        let (negated, first, inner) := readClassOpen (k.goTo cs)
        match readItems fuel none first inner with
        | some (nested, after) => match k.flags.closeSet? negated nested.value with
          | some set => readItems fuel before (items.add ⟨set, nested.depth + 1⟩) after
          | none => none
        | none => none
    | rest => match setOp? rest with
      | some (op, cs) =>
        readItems fuel (some (op, k.flags.joinOperand before items)) {} (k.goTo cs)
      | none => match readClassItem k with
        | some (item, k) => readItems fuel before (items.addSet item) k
        | none => none

/-- Read a class after its opening bracket. -/
def readClass (k : Cursor) : Option (Nested CodeSet × Cursor) := do
  let (negated, first, inner) := readClassOpen k
  let (nested, k) ← readItems (inner.rest.length + 1) none first inner
  let set ← k.flags.closeSet? negated nested.value
  return (⟨set, nested.depth + 1⟩, k)

end ManifestMarkers.Pattern
