import ManifestMarkers.Pattern.Expr
import ManifestMarkers.Pattern.Utf8
import ManifestMarkers.Text.Basic

/-!
# The size of a pattern

A pattern may need so much memory that it is refused. What counts is the memory of two automata over
bytes, one that reads forward and one that reads backward: a fixed amount for every state, and some
for every arrow of a state with several.

The automata are not built here. `Growth` counts their states and the memory of the arrows; every
function takes the growth before its part to the growth after it, or to nothing once the memory is
used up. The states of a set of characters are shared by looking up earlier states in a table with a
fixed number of slots, so they are counted by doing that.
-/

namespace ManifestMarkers.Pattern

open Text (CodeRange CodeSet)

/-- The direction in which an automaton reads. -/
inductive Direction
  | forward
  | backward
  deriving DecidableEq, Repr

/-- How far an automaton has grown. -/
structure Growth where
  states : Nat := 0
  /-- The bytes that the arrows take beyond the states. -/
  arrowBytes : Nat := 0
  deriving DecidableEq, Repr

namespace Growth

/-- The bytes of a state. -/
def stateSize : Nat := 32

/-- The bytes of an arrow with a range of bytes. -/
def rangeSize : Nat := 8

/-- The bytes of an arrow of a fork. -/
def forkSize : Nat := 4

/-- How many bytes an automaton may take. -/
def maxMemory : Nat := 10485760

/-- The growth by some states and bytes, unless that is too much. -/
def grow (g : Growth) (states arrowBytes : Nat) : Option Growth :=
  let g := ⟨g.states + states, g.arrowBytes + arrowBytes⟩
  if stateSize * g.states + g.arrowBytes ≤ maxMemory then some g else none

/-- The growth by some states. -/
def addStates (g : Growth) (n : Nat) : Option Growth := g.grow n 0

/-- The growth by some arrows of forks. -/
def addForks (g : Growth) (n : Nat) : Option Growth := g.grow 0 (forkSize * n)

/-- Connect an end to what follows: if the end is a fork, it gets one more arrow. -/
def connect (g : Growth) (isFork : Bool) : Option Growth :=
  if isFork then g.addForks 1 else some g

end Growth

/-- The count of a part of an automaton: the growth after it, and whether its end is a fork. -/
abbrev Count := Growth → Option (Growth × Bool)

/-! ### Sets of characters -/

/-- An arrow: a range of bytes and the number of the state it leads to. -/
structure Arrow where
  first : Nat
  last : Nat
  next : Nat
  deriving DecidableEq, Repr

/-- The start of a hash. -/
def hashStart : UInt64 := 14695981039346656037

/-- The hash with one more number. -/
def hashWith (h : UInt64) (n : Nat) : UInt64 := (h ^^^ n.toUInt64) * 1099511628211

/-- The number of slots for states that read forward. -/
def forwardSlots : Nat := 10000

/-- The number of slots for states that read backward. -/
def backwardSlots : Nat := 1000

/-- A state whose arrows are not all known: the arrows so far from last to first, and the bytes of
one more arrow, of which it is not known where it leads. -/
structure OpenState where
  arrows : List Arrow := []
  pending : Option CodeRange := none

/-- The arrows of an open state from first to last, where the pending one leads to `next`. -/
def OpenState.arrowsTo (s : OpenState) (next : Nat) : List Arrow :=
  match s.pending with
  | some r => s.arrows.reverse ++ [⟨r.1, r.2, next⟩]
  | none => s.arrows.reverse

/-- An open state whose pending arrow leads to `next`. -/
def OpenState.settle (s : OpenState) (next : Nat) : OpenState :=
  match s.pending with
  | some r => ⟨⟨r.1, r.2, next⟩ :: s.arrows, none⟩
  | none => s

/-- The states of a set: the growth so far, and the slots with states that may be shared. -/
structure Forward where
  growth : Growth
  slots : Array (Option (List Arrow × Nat))

/-- The number of the state with the given arrows, which is added unless its slot has it. -/
def Forward.state (f : Forward) (arrows : List Arrow) : Option (Nat × Forward) :=
  let hash := arrows.foldl (fun h a => hashWith (hashWith (hashWith h a.first) a.last) a.next)
    hashStart
  let slot := (hash % forwardSlots.toUInt64).toNat
  let known := match f.slots.getD slot none with
    | some (key, number) => if key = arrows then some number else none
    | none => none
  match known with
  | some number => some (number, f)
  | none => do
    let number := f.growth.states
    let growth ← f.growth.grow 1 (Growth.rangeSize * arrows.length)
    return (number, { growth, slots := f.slots.setIfInBounds slot (some (arrows, number)) })

/-- Finish the open states, the innermost first, until `keep` of them and one more are left; the
pending arrow of the last one leads to what was finished. -/
def Forward.close (keep next : Nat) : List OpenState → Forward → Option (List OpenState × Forward)
  | [], f => some ([], f)
  | s :: outer, f =>
    if keep < outer.length then
      match f.state (s.arrowsTo next) with
      | some (number, f) => Forward.close keep number outer f
      | none => none
    else some (s.settle next :: outer, f)

/-- The number of byte ranges that a box shares with the pending arrows, from the outermost on. -/
def sharedStart : List CodeRange → List OpenState → Nat
  | r :: rs, s :: ss => if s.pending == some r then sharedStart rs ss + 1 else 0
  | _, _ => 0

/-- Add a box to the open states, which are given innermost first. Boxes come in ascending order, so
a box shares its start with the one before or with none. -/
def Forward.addBox (target : Nat) (opened : List OpenState) (f : Forward) (box : List CodeRange) :
    Option (List OpenState × Forward) := do
  let keep := sharedStart box opened.reverse
  let (opened, f) ← Forward.close keep target opened f
  match box.drop keep, opened with
  | r :: rs, s :: outer =>
    return (rs.foldl (fun ss r => { pending := some r } :: ss)
      ({ s with pending := some r } :: outer), f)
  | _, opened => return (opened, f)

/-- Add boxes to the open states. -/
def Forward.addBoxes (target : Nat) : List (List CodeRange) → List OpenState → Forward →
    Option (List OpenState × Forward)
  | [], opened, f => some (opened, f)
  | box :: boxes, opened, f => match f.addBox target opened box with
    | some (opened, f) => Forward.addBoxes target boxes opened f
    | none => none

/-- Count the states that read a character of a set forward. -/
def countForward (boxes : List (List CodeRange)) (g : Growth) : Option Growth := do
  let target := g.states
  let g ← g.addStates 1
  let f : Forward := ⟨g, Array.replicate forwardSlots none⟩
  let (opened, f) ← Forward.addBoxes target boxes [{}] f
  let (opened, f) ← Forward.close 0 target opened f
  match opened with
  | root :: _ => return (← f.state root.arrows.reverse).2.growth
  | [] => return f.growth

/-- The states of a set that read backward: the growth so far, and the slots with states that may be
shared, each with the state and the bytes it comes from. -/
structure Backward where
  growth : Growth
  slots : Array (Option (Arrow × Nat))

/-- The number of the state that reads a byte of a range and goes on at `next`, which is added
unless its slot has it. -/
def Backward.state (b : Backward) (next : Nat) (r : CodeRange) : Option (Nat × Backward) :=
  let key : Arrow := ⟨r.1, r.2, next⟩
  let hash := hashWith (hashWith (hashWith hashStart next) r.1) r.2
  let slot := (hash % backwardSlots.toUInt64).toNat
  let known := match b.slots.getD slot none with
    | some (other, number) => if other = key then some number else none
    | none => none
  match known with
  | some number => some (number, b)
  | none => do
    let number := b.growth.states
    let growth ← b.growth.addStates 1
    return (number, { growth, slots := b.slots.setIfInBounds slot (some (key, number)) })

/-- Add the states of a box: the first byte is read last. -/
def Backward.addBox (next : Nat) : List CodeRange → Backward → Option Backward
  | [], b => (b.growth.addForks 1).map ({ b with growth := · })
  | r :: rs, b => match b.state next r with
    | some (number, b) => Backward.addBox number rs b
    | none => none

/-- Add the states of boxes. -/
def Backward.addBoxes (target : Nat) : List (List CodeRange) → Backward → Option Backward
  | [], b => some b
  | box :: boxes, b => match Backward.addBox target box b with
    | some b => Backward.addBoxes target boxes b
    | none => none

/-- Count the states that read a character of a set backward. -/
def countBackward (boxes : List (List CodeRange)) (g : Growth) : Option Growth := do
  let g ← g.addStates 2
  let b : Backward := ⟨g, Array.replicate backwardSlots none⟩
  return (← Backward.addBoxes (g.states - 1) boxes b).growth

/-- Count the states that read a character of a set. ASCII characters need one state with an arrow
for each range. -/
def countSet (direction : Direction) (set : CodeSet) : Count :=
  if set.isAscii then
    let ranges := set.ranges.length
    fun g => (g.grow 2 (Growth.rangeSize * ranges)).map (·, false)
  else
    let boxes := Utf8.boxes set
    match direction with
    | .forward => fun g => (countForward boxes g).map (·, false)
    | .backward => fun g => (countBackward boxes g).map (·, false)

/-! ### Choices between texts -/

/-- The texts up to the next empty one, and those after it. -/
def untilEmpty : List (List UInt8) → List (List UInt8) × Option (List (List UInt8))
  | [] => ([], none)
  | [] :: texts => ([], some texts)
  | text :: texts =>
    let (before, after) := untilEmpty texts
    (text :: before, after)

/-- The rests of the texts that start with the byte `b`. -/
def restsAfter (b : UInt8) (texts : List (List UInt8)) : List (List UInt8) :=
  texts.filterMap fun
    | c :: cs => if c = b then some cs else none
    | [] => none

/-- Count the states of a tree of texts: states, bytes of arrows. Texts with the same start share
it, but not with texts after one that ends there, which is preferred to them. -/
def countTree : Nat → List (List UInt8) → Nat × Nat
  | 0, _ => (0, 0)
  | fuel + 1, texts => countChunks fuel (texts.length + 1) false texts (1, 0)
where
  /-- Count the chunks between texts that end here; `started` says that some text goes on. -/
  countChunks (fuel : Nat) : Nat → Bool → List (List UInt8) → Nat × Nat → Nat × Nat
    | 0, _, _, total => total
    | room + 1, started, texts, (states, bytes) =>
      let (chunk, after) := untilEmpty texts
      let firsts := (chunk.filterMap List.head?).eraseDups
      let below := firsts.map fun b =>
        let rests := restsAfter b chunk
        if rests.all List.isEmpty then (0, 0) else countTree fuel rests
      let states := below.foldl (fun n c => n + c.1) states
      let bytes := below.foldl (fun n c => n + c.2) bytes
      let (states, bytes) :=
        if firsts.isEmpty then (states, bytes)
        else (states + 1, bytes + Growth.forkSize +
          if firsts.length == 1 then 0 else Growth.rangeSize * firsts.length)
      let started := started || !firsts.isEmpty
      match after with
      | none => (states, bytes)
      | some texts =>
        let texts := if started then texts else texts.dropWhile List.isEmpty
        countChunks fuel room started texts (states, bytes + Growth.forkSize)

/-- The bytes of a text. -/
def text? : Expr → Option (List UInt8)
  | .text chars => some (chars.flatMap String.utf8EncodeChar)
  | _ => none

/-- Count a choice between texts. -/
def countTexts (direction : Direction) (texts : List (List UInt8)) : Count := fun g =>
  let texts := if direction = .forward then texts else texts.map List.reverse
  let longest := texts.foldl (fun n t => max n t.length) 0
  let (states, bytes) := countTree (longest + 1) texts
  (g.grow (states + 1) bytes).map (·, false)

/-! ### Expressions -/

/-- One more round after an end that is a fork or not, `n` times. -/
def countRounds (body : Count) : Nat → Growth × Bool → Option (Growth × Bool)
  | 0, last => some last
  | n + 1, (g, isFork) => match body g with
    | some (g, next) => match g.connect isFork with
      | some g => countRounds body n (g, next)
      | none => none
    | none => none

/-- Exactly `n` rounds. -/
def countTimes (body : Count) : Nat → Count
  | 0, g => (g.addStates 1).map (·, false)
  | n + 1, g => (body g).bind (countRounds body n)

/-- Up to `n` more rounds, each after a fork that may skip the rest. -/
def countOptional (body : Count) : Nat → Growth × Bool → Option (Growth × Bool)
  | 0, last => some last
  | n + 1, (g, isFork) =>
    let step : Option (Growth × Bool) := do
      let g ← g.addStates 1
      let (g, next) ← body g
      let g ← g.connect isFork
      let g ← g.addForks 2
      return (g, next)
    match step with
    | some last => countOptional body n last
    | none => none

/-- Rounds of a body. -/
def countRep (min : Nat) (max : Option Nat) (needsText : Bool) (body : Count) : Count := fun g =>
  match min, max with
  | 0, some 1 => do
    let g ← g.addStates 1
    let (g, isFork) ← body g
    let g ← (← g.addStates 1).addForks 2
    return (← g.connect isFork, false)
  | 0, none => do
    if needsText then
      let g ← g.addStates 1
      let (g, isFork) ← body g
      let g ← g.addForks 1
      return (← g.connect isFork, true)
    else
      let (g, isFork) ← body g
      let g ← (← g.addStates 3).addForks 4
      return (← g.connect isFork, false)
  | min + 1, none => do
    let (g, isFork) ← if min = 0 then some (g, false) else countTimes body min g
    let (g, last) ← body g
    let g ← (← g.addStates 1).addForks 1
    let g ← g.connect isFork
    return (← g.connect last, true)
  | min, some max =>
    if min = max then countTimes body min g
    else do
      let (g, isFork) ← countTimes body min g
      let g ← g.addStates 1
      let (g, isFork) ← countOptional body (max - min) (g, isFork)
      return (← g.connect isFork, false)

/-- Count a sequence. -/
def countSeq : List Count → Count
  | [] => fun g => (g.addStates 1).map (·, false)
  | first :: others => fun g => do
    others.foldlM (fun (last : Growth × Bool) body => do
      let (g, next) ← body last.1
      return (← g.connect last.2, next)) (← first g)

/-- Count a choice: the fork stands behind its second branch. -/
def countAlt : List Count → Count
  | first :: second :: others => fun g => do
    let (g, a) ← first g
    let (g, b) ← second g
    let g ← (← g.addStates 2).addForks 2
    let g ← (← g.connect a).connect b
    let g ← others.foldlM (fun (g : Growth) body => do
      let (g, isFork) ← body g
      (← g.addForks 1).connect isFork) g
    return (g, false)
  | [only] => only
  | [] => fun g => (g.addStates 1).map (·, false)

mutual

/-- Count the states of an expression. -/
def count (direction : Direction) : Expr → Count
  | .empty | .look _ => fun g => (g.addStates 1).map (·, false)
  | .text chars => fun g => (g.addStates (Text.byteSize chars)).map (·, false)
  | .char set => countSet direction set
  | .group _ e =>
    let body := count direction e
    match direction with
    | .backward => body
    | .forward => fun g => do
      let (g, isFork) ← body (← g.addStates 1)
      return (← (← g.addStates 1).connect isFork, false)
  | .seq parts =>
    let counts := countAll direction parts
    countSeq (if direction = .forward then counts else counts.reverse)
  | .alt branches =>
    match branches.mapM text? with
    | some texts => countTexts direction texts
    | none => countAlt (countAll direction branches)
  | .rep min max _ e => countRep min max e.needsText (count direction e)

/-- The counts of several expressions. -/
def countAll (direction : Direction) : List Expr → List Count
  | [] => []
  | e :: es => count direction e :: countAll direction es

end

/-- Whether an automaton for the expression fits into the memory. It starts with a loop over all
bytes, unless a match can start at the edge of the text only; forward it marks the match as a group
of its own. -/
def fitsIn (direction : Direction) (e : Expr) : Bool :=
  let anchored := match direction with
    | .forward => e.startsWith .textStart
    | .backward => e.endsWith .textEnd
  let whole : Option Growth := do
    let g ← if anchored then Growth.addStates {} 1
      else (← Growth.grow {} 3 Growth.rangeSize).addForks 1
    let (g, isFork) ← count direction (match direction with
      | .forward => .group 0 e
      | .backward => e) g
    let g ← (← g.addStates 1).connect isFork
    g.connect (!anchored)
  whole.isSome

/-- Whether the automata of an expression fit into the memory. -/
def Expr.fits (e : Expr) : Bool := fitsIn .forward e && fitsIn .backward e

end ManifestMarkers.Pattern
