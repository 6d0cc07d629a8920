import ManifestMarkers.Pattern.Expr

/-!
# Matching

An expression becomes a program for a machine with many threads. The threads are kept in order of
preference and all read the same character at once, so the first thread that accepts gives the
preferred match, and the time is bounded by the product of the sizes of program and text.
-/

namespace ManifestMarkers.Pattern

open Text (CodeSet)

/-- One instruction. Numbers are addresses of instructions. -/
inductive Inst
  /-- Read a character of the set, then go on at `next`. -/
  | read (set : CodeSet) (next : Nat)
  /-- Go on at `next` if the condition holds. -/
  | check (condition : Look) (next : Nat)
  /-- Go on at `first`, and with lower preference at `second`. -/
  | fork (first second : Nat)
  /-- The text read so far matches. -/
  | accept
  /-- A dead end. -/
  | fail

/-- A program with the address of its first instruction. -/
structure Program where
  code : Array Inst
  start : Nat

namespace Program

/-- A fork that prefers `body` when greedy and `exit` otherwise. -/
def loopFork (greedy : Bool) (body exit : Nat) : Inst :=
  if greedy then .fork body exit else .fork exit body

/-- A code generator: given the code so far and the address to go on at, it adds code and gives the
address of its first instruction. -/
abbrev Emit := Array Inst → Nat → Array Inst × Nat

/-- Add one instruction. -/
def emitInst (inst : Nat → Inst) : Emit := fun code next =>
  let address := code.size
  (code.push (inst next), address)

/-- `n` rounds, one after the other. -/
def emitTimes (body : Emit) : Nat → Emit
  | 0, code, next => (code, next)
  | n + 1, code, next =>
    let (code, last) := body code next
    emitTimes body n code last

/-- Up to `n` more rounds, each of which may be the last. -/
def emitUpTo (greedy : Bool) (body : Emit) (exit : Nat) : Nat → Emit
  | 0, code, next => (code, next)
  | n + 1, code, next =>
    let (code, first) := body code next
    let (code, fork) := emitInst (loopFork greedy first) code exit
    emitUpTo greedy body exit n code fork

/-- One or more rounds. Gives the address of the body. -/
def emitPlus (greedy : Bool) (body : Emit) : Emit := fun code next =>
  let slot := code.size
  let (code, first) := body (code.push .fail) slot
  (code.setIfInBounds slot (loopFork greedy first next), first)

/-- Any number of rounds of a body that cannot match the empty text. -/
def emitStar (greedy : Bool) (body : Emit) : Emit := fun code next =>
  let slot := code.size
  let (code, first) := body (code.push .fail) slot
  (code.setIfInBounds slot (loopFork greedy first next), slot)

/-- Any number of rounds of a body that may match the empty text: one or more, or none. -/
def emitOptionalPlus (greedy : Bool) (body : Emit) : Emit := fun code next =>
  let (code, first) := emitPlus greedy body code next
  emitInst (loopFork greedy first) code next

/-- Rounds of a body. -/
def emitRep (min : Nat) (max : Option Nat) (greedy needsText : Bool) (body : Emit) : Emit :=
  match min, max with
  | min, some max => fun code next =>
    let (code, tail) := emitUpTo greedy body next (max - min) code next
    emitTimes body min code tail
  | 0, none => if needsText then emitStar greedy body else emitOptionalPlus greedy body
  | min + 1, none => fun code next =>
    let (code, last) := emitPlus greedy body code next
    emitTimes body min code last

/-- The characters of a text, one after the other. -/
def emitText : List Char → Emit
  | [] => fun code next => (code, next)
  | c :: cs => fun code next =>
    let (code, second) := emitText cs code next
    emitInst (.read (.single c.toNat)) code second

mutual

/-- The code of an expression. -/
def emit : Expr → Emit
  | .empty => fun code next => (code, next)
  | .text chars => emitText chars
  | .char set => emitInst (.read set)
  | .look condition => emitInst (.check condition)
  | .group _ e => emit e
  | .seq parts => emitSeq parts
  | .alt branches => emitAlt branches
  | .rep min max greedy e => emitRep min max greedy e.needsText (emit e)

/-- The code of a sequence. -/
def emitSeq : List Expr → Emit
  | [] => fun code next => (code, next)
  | e :: es => fun code next =>
    let (code, second) := emitSeq es code next
    emit e code second

/-- The code of a choice. -/
def emitAlt : List Expr → Emit
  | [] => emitInst fun _ => .fail
  | e :: es => fun code next =>
    let (code, second) := emitAlt es code next
    let (code, first) := emit e code next
    emitInst (.fork first) code second

end

/-- The program of an expression. -/
def ofExpr (e : Expr) : Program :=
  let (code, start) := emit e #[.accept] 0
  ⟨code, start⟩

/-! ### Running -/

/-- The threads of one place: addresses seen, and those that read or accept, least preferred first.
-/
structure Threads where
  seen : Array Bool
  waiting : List Nat

/-- No threads. -/
def noThreads (p : Program) : Threads := ⟨Array.replicate p.code.size false, []⟩

/-- Add the threads at some addresses, the first before the others, and all they lead to without
reading. Every instruction is entered once and leads to two others at most, so twice the size of the
program bounds the steps. -/
def enter (p : Program) (before after : Option Char) : Nat → List Nat → Threads → Threads
  | 0, _, threads => threads
  | _, [], threads => threads
  | fuel + 1, address :: others, threads =>
    if threads.seen.getD address true then p.enter before after fuel others threads
    else
      let threads := { threads with seen := threads.seen.setIfInBounds address true }
      match p.code[address]? with
      | some (.fork first second) => p.enter before after fuel (first :: second :: others) threads
      | some (.check condition next) =>
        if condition.holds before after then p.enter before after fuel (next :: others) threads
        else p.enter before after fuel others threads
      | some (.read _ _) | some .accept =>
        p.enter before after fuel others { threads with waiting := address :: threads.waiting }
      | _ => p.enter before after fuel others threads

/-- The thread at `address` and all it leads to without reading. -/
def entered (p : Program) (before after : Option Char) (address : Nat) (threads : Threads) :
    Threads :=
  p.enter before after (2 * p.code.size + 1) [address] threads

/-- Whether the thread at `address` accepts. -/
def accepts (p : Program) (address : Nat) : Bool :=
  match p.code[address]? with
  | some .accept => true
  | _ => false

/-- Let every thread read `c`, in order of preference. -/
def readChar (p : Program) (c : Char) (after : Option Char) (waiting : List Nat) : List Nat :=
  let readAt (threads : Threads) (address : Nat) : Threads :=
    match p.code[address]? with
    | some (.read set next) =>
      if set.contains c.toNat then p.entered (some c) after next threads else threads
    | _ => threads
  (waiting.foldl readAt p.noThreads).waiting.reverse

/-- The length of the preferred match among the threads, where `length` characters are read. -/
def longest (p : Program) (waiting : List Nat) (length : Nat) (best : Option Nat) :
    List Char → Option Nat
  | [] => if waiting.any p.accepts then some length else best
  | c :: cs =>
    let best := if waiting.any p.accepts then some length else best
    match waiting.takeWhile (!p.accepts ·) with
    | [] => best
    | waiting => p.longest (p.readChar c cs.head? waiting) (length + 1) best cs

/-- The length of the preferred match that starts here. -/
def matchHere? (p : Program) (before : Option Char) (cs : List Char) : Option Nat :=
  p.longest (p.entered before cs.head? p.start p.noThreads).waiting.reverse 0 none cs

/-- Replace the matches from here on. `skip` characters belong to the last match; `closed` says that
the last match ends here, where an empty match is not allowed again. -/
def replaceFrom (p : Program) (new : List Char) (skip : Nat) (closed : Bool)
    (before : Option Char) : List Char → List Char
  | [] =>
    match p.matchHere? before [] with
    | some _ => if closed || skip != 0 then [] else new
    | none => []
  | c :: cs =>
    match skip with
    | skip + 1 => p.replaceFrom new skip (skip == 0) (some c) cs
    | 0 => match p.matchHere? before (c :: cs) with
      | some (n + 1) => new ++ p.replaceFrom new n (n == 0) (some c) cs
      | some 0 =>
        (if closed then [] else new) ++ c :: p.replaceFrom new 0 false (some c) cs
      | none => c :: p.replaceFrom new 0 false (some c) cs

end Program

end ManifestMarkers.Pattern
