import Mathlib.Tactic.ByContra
import ManifestMarkers.Proofs.ManifestTree

/-!
# Runs of the builder

The readers of the builder call each other, and each of them changes the build on the way. This
module says once what they can do, so that later modules can follow a run without opening them.

* `Task` is what the builder is asked to read, and `Reads` has one rule for each way to do it.
* A `Tally` has the comments that are read on the way, and those among them that are lost: a scalar
  below a dash gets the comments at the dash in place of its own. `tallyNode` and its companions
  compute it.
* `traces` says that every run of the readers follows the rules; `ReadsDocument` and
  `readsDocument_of_readDocument` say the same of whole documents.
-/

namespace ManifestMarkers.Manifest

/-! ### Comments on the way -/

/-- The comments that are read, and those among them that are lost. -/
structure Tally where
  read : List (List Char) := []
  lost : List (List Char) := []
  deriving DecidableEq, Repr

namespace Tally

/-- One tally after another. -/
def append (s t : Tally) : Tally := ⟨s.read ++ t.read, s.lost ++ t.lost⟩

instance : Append Tally := ⟨append⟩

@[simp] theorem read_append (s t : Tally) : (s ++ t).read = s.read ++ t.read := rfl

@[simp] theorem lost_append (s t : Tally) : (s ++ t).lost = s.lost ++ t.lost := rfl

@[simp] theorem append_empty (t : Tally) : t ++ {} = t := by
  show append t {} = t
  simp [append]

end Tally

/-- A comment on a line, if there is one. -/
def presentComment (comment : List Char) : List (List Char) :=
  if comment.isEmpty then [] else [comment]

/-- The comment lines before the next content line. -/
def commentsAhead : List Line → List (List Char)
  | [] => []
  | line :: lines => match line.kind with
    | .comment => line.text :: commentsAhead lines
    | .content => []
    | _ => commentsAhead lines

/-- The comment lines of a text. -/
def commentParts (text : String) : List (List Char) :=
  if text.isEmpty then [] else Text.lines text.toList

namespace Node

/-- The comments above a node and behind it. -/
def ownComments (n : Node) : List (List Char) :=
  commentParts n.headComment ++ presentComment n.lineComment.toList

/-- All comments of a node, one for each line. -/
def comments (n : Node) : List (List Char) := n.ownComments ++ commentParts n.footComment

end Node

/-- The comment behind the closing quote of a scalar that goes on over lines. -/
def closingComment (number : Nat) (text : List Char) (lines : List Line) : List (List Char) :=
  if startsQuoted text then
    match quotedScalar number text lines with
    | .ok (_, some (_, comment), _) => [comment]
    | _ => []
  else []

/-- The comments that are read with a scalar. -/
def scalarTally (v : InlineValue) (number : Nat) (lines : List Line) : Tally where
  read := presentComment v.comment ++ closingComment number v.text lines

/-! ### Changes of the build -/

/-- A collection that has no content yet. -/
def emptyCollection (kind : NodeKind) (line : Line) (indent : Nat) : Node :=
  { kind, line := line.number, column := indent + 1 }

/-- The key of a pair, without comments. -/
def plainKey (line : Line) (indent : Nat) (text value : List Char) : Node :=
  { kind := .scalar
    line := line.number
    column := indent + 1
    value := String.ofList value
    style := styleOf text
    raw := some (String.ofList text) }

namespace Build

/-- Use up the current line and add its key, with the comments that wait above it. -/
def addKey (b : Build) (line : Line) (indent : Nat) (text value : List Char) : Build :=
  (b.dropLine.clearPending.push (b.withHead (plainKey line indent text value))).2

/-- Add a scalar that leaves `lines`. -/
def addScalar (b : Build) (n : Node) (lines : List Line) : Build := ({ b with lines }.push n).2

/-- Add a scalar that takes a whole line, with the comments that wait above it. -/
def addScalarLine (b : Build) (n : Node) (lines : List Line) : Build :=
  ({ b with lines }.clearPending.push (b.withHead n)).2

/-- Set the comment behind a node. -/
def setTrail (b : Build) (id : Nat) (line : Line) (v : InlineValue) : Build :=
  b.modify id fun n =>
    { n with lineComment := String.ofList v.comment, linePosition := line.commentPoint? v.comment }

/-- Set the properties and comments of an item that was read from below its dash; `before` is the
build at the dash. -/
def setItem (b before : Build) (id : Nat) (line : Line) (v : InlineValue) : Build :=
  (b.setProperties id v).modify id fun n =>
    { before.withHead n with
      lineComment := String.ofList v.comment
      linePosition := line.commentPoint? v.comment }

/-- Add nodes to the content of a collection. -/
def addContent (b : Build) (id : Nat) (ids : List Nat) : Build :=
  b.modify id fun n => { n with content := n.content ++ ids }

/-- Go on behind the dash of an item as if it were a line of its own. -/
def behindDash (b : Build) (line : Line) (lines : List Line) (indent : Nat) : Build :=
  { b with lines := { line with indent, text := Text.trimStart (line.text.drop 1) } :: lines }

/-- The comments that are lost of those that were read below a dash: all of them if a scalar stands
there, since it gets the comments at the dash in their place. -/
def lostBelow (b : Build) (indent : Nat) (read : List (List Char)) : List (List Char) :=
  match b.toContent.lines with
  | [] => []
  | line :: _ =>
    if indent < line.indent ∧ isItem line.text = false ∧ splitKey? line.text = none then read
    else []

end Build

/-- The column behind a key and its colon. -/
def columnBehindKey (line : Line) (keyText : List Char) : Nat :=
  line.indent + Text.byteSize keyText + 2

/-- The column of the value on the line of its key. -/
def valueColumn (line : Line) (rest : List Char) : Nat :=
  line.indent + Text.byteSize line.text - Text.byteSize (Text.trimStart rest) + 1

/-- The indentation of what stands behind the dash of an item. -/
def dashIndent (line : Line) (indent : Nat) : Nat :=
  indent + 1 + Text.byteSize (line.text.drop 1) -
    Text.byteSize (Text.trimStart (line.text.drop 1))

/-- The value behind the dash of an item. -/
def dashValue (line : Line) : InlineValue := splitValue (Text.trimStart (line.text.drop 1))

/-! ### Tallies of the readers -/

mutual

/-- The tally of `readNode`. -/
def tallyNode : Nat → Nat → Build → Tally
  | 0, _, _ => {}
  | fuel + 1, indent, b => match b.lines with
    | [] => {}
    | line :: lines =>
      if isItem line.text then
        tallyItems fuel b.nodes.size indent none (b.push (emptyCollection .sequence line indent)).2
      else if (splitKey? line.text).isSome then
        tallyPairs fuel b.nodes.size indent none (b.push (emptyCollection .mapping line indent)).2
      else scalarTally (splitValue line.text) line.number lines

/-- The tally of `readPairs`. -/
def tallyPairs : Nat → Nat → Nat → Option Nat → Build → Tally
  | 0, _, _, _, _ => {}
  | fuel + 1, mapping, indent, _, b =>
    { read := commentsAhead b.lines } ++ match b.toContent.lines with
    | [] => {}
    | line :: _ =>
      if line.indent ≠ indent then {}
      else match splitKey? line.text with
        | none => {}
        | some (keyText, rest) => match decodeScalar keyText line.number with
          | .error _ => {}
          | .ok keyValue =>
            let c := b.toContent.addKey line indent keyText keyValue
            tallyValue fuel indent line b.nodes.size keyText rest c ++
              match readValue fuel indent line b.nodes.size keyText rest c with
              | .error _ => {}
              | .ok (value, c) =>
                tallyPairs fuel mapping indent (some b.nodes.size)
                  (c.addContent mapping [b.nodes.size, value])

/-- The tally of `readValue`. -/
def tallyValue : Nat → Nat → Line → Nat → List Char → List Char → Build → Tally
  | 0, _, _, _, _, _, _ => {}
  | fuel + 1, indent, line, key, keyText, rest, b =>
    let v := splitValue rest
    if v.text.isEmpty then
      { read := presentComment v.comment } ++
        tallyNested fuel indent true line.number (columnBehindKey line keyText)
          (b.setTrail key line v)
    else scalarTally v line.number b.lines

/-- The tally of `readItems`. A scalar below its dash loses the comments it has got there. -/
def tallyItems : Nat → Nat → Nat → Option Nat → Build → Tally
  | 0, _, _, _, _ => {}
  | fuel + 1, sequence, indent, _, b =>
    { read := commentsAhead b.lines } ++ match b.toContent.lines with
    | [] => {}
    | line :: lines =>
      if line.indent ≠ indent ∨ isItem line.text = false then {}
      else if (dashValue line).text.isEmpty then
        let c := b.toContent.dropLine.clearPending
        let column := dashIndent line indent + 1
        let t := tallyNested fuel indent false line.number column c
        { read := presentComment (dashValue line).comment } ++ t ++
          { lost := c.lostBelow indent t.read } ++
          match readNested fuel indent false line.number column c with
          | .error _ => {}
          | .ok (id, c) =>
            tallyItems fuel sequence indent (some id)
              ((c.setItem b.toContent id line (dashValue line)).addContent sequence [id])
      else
        let c := b.toContent.behindDash line lines (dashIndent line indent)
        tallyNode fuel (dashIndent line indent) c ++
          match readNode fuel (dashIndent line indent) c with
          | .error _ => {}
          | .ok (id, c) =>
            tallyItems fuel sequence indent (some id) (c.addContent sequence [id])

/-- The tally of `readNested`. -/
def tallyNested : Nat → Nat → Bool → Nat → Nat → Build → Tally
  | 0, _, _, _, _, _ => {}
  | fuel + 1, indent, allowSequence, _, _, b =>
    { read := commentsAhead b.lines } ++ match b.toContent.lines with
    | line :: _ =>
      if indent < line.indent || (allowSequence && line.indent == indent && isItem line.text) then
        tallyNode fuel line.indent b.toContent
      else {}
    | [] => {}

end

section

variable {fuel indent number column : Nat} {last : Option Nat} {line : Line} {lines : List Line}
  {b c : Build}

theorem tallyNested_deeper {allowSequence : Bool} (hlines : b.toContent.lines = line :: lines)
    (hindent : (decide (indent < line.indent) ||
      (allowSequence && line.indent == indent && isItem line.text)) = true) :
    tallyNested (fuel + 1) indent allowSequence number column b =
      { read := commentsAhead b.lines } ++ tallyNode fuel line.indent b.toContent := by
  rw [tallyNested, hlines]
  dsimp only
  rw [if_pos hindent]

theorem tallyNested_missing {allowSequence : Bool}
    (hnone : ∀ line ∈ b.toContent.lines.head?, ¬ (decide (indent < line.indent) ||
      (allowSequence && line.indent == indent && isItem line.text)) = true) :
    tallyNested (fuel + 1) indent allowSequence number column b =
      { read := commentsAhead b.lines } := by
  rw [tallyNested]
  cases hlines : b.toContent.lines with
  | nil => exact Tally.append_empty _
  | cons line lines =>
    dsimp only
    rw [if_neg (hnone line (by rw [hlines]; rfl)), Tally.append_empty]

theorem tallyPairs_end {mapping : Nat} (hend : ∀ line ∈ b.toContent.lines.head?,
      line.indent < indent ∨ splitKey? line.text = none) :
    tallyPairs (fuel + 1) mapping indent last b = { read := commentsAhead b.lines } := by
  rw [tallyPairs]
  cases hlines : b.toContent.lines with
  | nil => exact Tally.append_empty _
  | cons line lines =>
    dsimp only
    rcases hend line (by rw [hlines]; rfl) with hlt | hkey
    · rw [if_pos (by omega), Tally.append_empty]
    · rw [hkey]
      dsimp only
      rw [ite_self, Tally.append_empty]

theorem tallyPairs_pair {mapping value : Nat} {keyText keyValue rest : List Char}
    (hlines : b.toContent.lines = line :: lines) (hindent : line.indent = indent)
    (hkey : splitKey? line.text = some (keyText, rest))
    (hdecode : decodeScalar keyText line.number = .ok keyValue)
    (hvalue : readValue fuel indent line b.nodes.size keyText rest
      (b.toContent.addKey line indent keyText keyValue) = .ok (value, c)) :
    tallyPairs (fuel + 1) mapping indent last b = { read := commentsAhead b.lines } ++
      (tallyValue fuel indent line b.nodes.size keyText rest
        (b.toContent.addKey line indent keyText keyValue) ++
        tallyPairs fuel mapping indent (some b.nodes.size)
          (c.addContent mapping [b.nodes.size, value])) := by
  rw [tallyPairs, hlines]
  dsimp only
  rw [if_neg (by omega), hkey]
  dsimp only
  rw [hdecode]
  dsimp only
  rw [hvalue]

theorem tallyItems_end {sequence : Nat} (hend : ∀ line ∈ b.toContent.lines.head?,
      line.indent < indent ∨ isItem line.text = false) :
    tallyItems (fuel + 1) sequence indent last b = { read := commentsAhead b.lines } := by
  rw [tallyItems]
  cases hlines : b.toContent.lines with
  | nil => exact Tally.append_empty _
  | cons line lines =>
    dsimp only
    have hstop : line.indent ≠ indent ∨ isItem line.text = false :=
      (hend line (by rw [hlines]; rfl)).imp_left Nat.ne_of_lt
    rw [if_pos hstop, Tally.append_empty]

theorem tallyItems_nested {sequence id : Nat} (hlines : b.toContent.lines = line :: lines)
    (hindent : line.indent = indent) (hitem : isItem line.text = true)
    (hempty : (dashValue line).text.isEmpty = true)
    (hvalue : readNested fuel indent false line.number (dashIndent line indent + 1)
      b.toContent.dropLine.clearPending = .ok (id, c)) :
    tallyItems (fuel + 1) sequence indent last b = { read := commentsAhead b.lines } ++
      ({ read := presentComment (dashValue line).comment } ++
        tallyNested fuel indent false line.number (dashIndent line indent + 1)
          b.toContent.dropLine.clearPending ++
        { lost := b.toContent.dropLine.clearPending.lostBelow indent
            (tallyNested fuel indent false line.number (dashIndent line indent + 1)
              b.toContent.dropLine.clearPending).read } ++
        tallyItems fuel sequence indent (some id)
          ((c.setItem b.toContent id line (dashValue line)).addContent sequence [id])) := by
  rw [tallyItems, hlines]
  dsimp only
  rw [if_neg (by simp [hindent, hitem]), if_pos hempty, hvalue]

theorem tallyItems_compact {sequence id : Nat} (hlines : b.toContent.lines = line :: lines)
    (hindent : line.indent = indent) (hitem : isItem line.text = true)
    (hempty : ¬ (dashValue line).text.isEmpty = true)
    (hvalue : readNode fuel (dashIndent line indent)
      (b.toContent.behindDash line lines (dashIndent line indent)) = .ok (id, c)) :
    tallyItems (fuel + 1) sequence indent last b = { read := commentsAhead b.lines } ++
      (tallyNode fuel (dashIndent line indent)
        (b.toContent.behindDash line lines (dashIndent line indent)) ++
        tallyItems fuel sequence indent (some id) (c.addContent sequence [id])) := by
  rw [tallyItems, hlines]
  dsimp only
  rw [if_neg (by simp [hindent, hitem]), if_neg hempty, hvalue]

end

/-! ### The rules -/

/-- What the builder is asked to read. -/
inductive Task
  /-- The node at the current line. -/
  | node (indent : Nat)
  /-- The further pairs of a mapping; `last` is its last key so far. -/
  | pairs (mapping indent : Nat) (last : Option Nat)
  /-- The further items of a sequence; `last` is its last item so far. -/
  | items (sequence indent : Nat) (last : Option Nat)
  /-- What stands below a key or a dash on the line `number`. -/
  | nested (indent : Nat) (allowSequence : Bool) (number column : Nat)

/-- The builder does a task: it goes from one build to another, gives the number of a node and reads
and loses comments. -/
inductive Reads : Task → Build → Tally → Nat → Build → Prop
  | sequence {indent : Nat} {line : Line} {lines : List Line} {b b' : Build} {t : Tally}
      (hlines : b.lines = line :: lines) (hitem : isItem line.text = true)
      (h : Reads (.items b.nodes.size indent none)
        (b.push (emptyCollection .sequence line indent)).2 t b.nodes.size b') :
      Reads (.node indent) b t b.nodes.size b'
  | mapping {indent : Nat} {line : Line} {lines : List Line} {b b' : Build} {t : Tally}
      (hlines : b.lines = line :: lines) (hkey : (splitKey? line.text).isSome = true)
      (h : Reads (.pairs b.nodes.size indent none)
        (b.push (emptyCollection .mapping line indent)).2 t b.nodes.size b') :
      Reads (.node indent) b t b.nodes.size b'
  | scalarLine {indent : Nat} {line : Line} {lines rest : List Line} {n : Node} {b : Build}
      (hlines : b.lines = line :: lines) (hitem : isItem line.text = false)
      (hkey : splitKey? line.text = none)
      (hn : scalarNode (splitValue line.text) line (indent - 1) (line.indent + 1) lines =
        .ok (n, rest)) :
      Reads (.node indent) b (scalarTally (splitValue line.text) line.number lines) b.nodes.size
        (b.addScalarLine n rest)
  | pairsEnd {mapping indent : Nat} {last : Option Nat} {b : Build}
      (hend : ∀ line ∈ b.toContent.lines.head?,
        line.indent < indent ∨ splitKey? line.text = none) :
      Reads (.pairs mapping indent last) b { read := commentsAhead b.lines } mapping
        (b.toContent.withFoot last indent)
  | inlinePair {mapping indent : Nat} {last : Option Nat} {line : Line} {lines lines' : List Line}
      {keyText keyValue rest : List Char} {n : Node} {b b' : Build} {t : Tally}
      (hlines : b.toContent.lines = line :: lines) (hindent : line.indent = indent)
      (hkey : splitKey? line.text = some (keyText, rest))
      (hn : scalarNode (splitValue rest) line indent (valueColumn line rest) lines =
        .ok (n, lines'))
      (h : Reads (.pairs mapping indent (some b.nodes.size))
        (((b.toContent.addKey line indent keyText keyValue).addScalar n lines').addContent mapping
          [b.nodes.size, b.nodes.size + 1]) t mapping b') :
      Reads (.pairs mapping indent last) b
        ({ read := commentsAhead b.lines } ++
          (scalarTally (splitValue rest) line.number lines ++ t))
        mapping b'
  | nestedPair {mapping indent value : Nat} {last : Option Nat} {line : Line} {lines : List Line}
      {keyText keyValue rest : List Char} {b c b' : Build} {s t : Tally}
      (hlines : b.toContent.lines = line :: lines) (hindent : line.indent = indent)
      (hkey : splitKey? line.text = some (keyText, rest)) (hempty : (splitValue rest).text = [])
      (hvalue : Reads (.nested indent true line.number (columnBehindKey line keyText))
        ((b.toContent.addKey line indent keyText keyValue).setTrail b.nodes.size line
          (splitValue rest)) s value c)
      (h : Reads (.pairs mapping indent (some b.nodes.size))
        ((c.setProperties value (splitValue rest)).addContent mapping [b.nodes.size, value]) t
        mapping b') :
      Reads (.pairs mapping indent last) b
        ({ read := commentsAhead b.lines } ++
          ({ read := presentComment (splitValue rest).comment } ++ s ++ t)) mapping b'
  | itemsEnd {sequence indent : Nat} {last : Option Nat} {b : Build}
      (hend : ∀ line ∈ b.toContent.lines.head?,
        line.indent < indent ∨ isItem line.text = false) :
      Reads (.items sequence indent last) b { read := commentsAhead b.lines } sequence
        (b.toContent.withFoot last indent)
  | nestedItem {sequence indent id : Nat} {last : Option Nat} {line : Line} {lines : List Line}
      {b c b' : Build} {s t : Tally} (hlines : b.toContent.lines = line :: lines)
      (hindent : line.indent = indent) (hitem : isItem line.text = true)
      (hempty : (dashValue line).text = [])
      (hvalue : Reads (.nested indent false line.number (dashIndent line indent + 1))
        b.toContent.dropLine.clearPending s id c)
      (h : Reads (.items sequence indent (some id))
        ((c.setItem b.toContent id line (dashValue line)).addContent sequence [id]) t sequence b') :
      Reads (.items sequence indent last) b
        ({ read := commentsAhead b.lines } ++
          ({ read := presentComment (dashValue line).comment } ++ s ++
            { lost := b.toContent.dropLine.clearPending.lostBelow indent s.read } ++ t)) sequence b'
  | compactItem {sequence indent id : Nat} {last : Option Nat} {line : Line} {lines : List Line}
      {b c b' : Build} {s t : Tally} (hlines : b.toContent.lines = line :: lines)
      (hindent : line.indent = indent) (hitem : isItem line.text = true)
      (hvalue : Reads (.node (dashIndent line indent))
        (b.toContent.behindDash line lines (dashIndent line indent)) s id c)
      (h : Reads (.items sequence indent (some id)) (c.addContent sequence [id]) t sequence b') :
      Reads (.items sequence indent last) b ({ read := commentsAhead b.lines } ++ (s ++ t))
        sequence b'
  | deeper {indent number column id : Nat} {allowSequence : Bool} {line : Line} {lines : List Line}
      {b b' : Build} {t : Tally} (hlines : b.toContent.lines = line :: lines)
      (hindent : indent < line.indent ∨
        allowSequence = true ∧ line.indent = indent ∧ isItem line.text = true)
      (h : Reads (.node line.indent) b.toContent t id b') :
      Reads (.nested indent allowSequence number column) b
        ({ read := commentsAhead b.lines } ++ t) id b'
  | missing {indent number column : Nat} {allowSequence : Bool} {b : Build}
      (hnone : ∀ line ∈ b.toContent.lines.head?, line.indent ≤ indent) :
      Reads (.nested indent allowSequence number column) b { read := commentsAhead b.lines }
        b.nodes.size (b.toContent.push (missingNode number column)).2

/-! ### Every run follows the rules -/

/-- The value of a key: a scalar on its line, or what stands below. -/
inductive ReadsValue (indent : Nat) (line : Line) (key : Nat) (keyText rest : List Char)
    (b : Build) : Tally → Nat → Build → Prop
  | inline {n : Node} {lines : List Line}
      (hn : scalarNode (splitValue rest) line indent (valueColumn line rest) b.lines =
        .ok (n, lines)) :
      ReadsValue indent line key keyText rest b (scalarTally (splitValue rest) line.number b.lines)
        b.nodes.size (b.addScalar n lines)
  | nested {value : Nat} {c : Build} {t : Tally} (hempty : (splitValue rest).text = [])
      (h : Reads (.nested indent true line.number (columnBehindKey line keyText))
        (b.setTrail key line (splitValue rest)) t value c) :
      ReadsValue indent line key keyText rest b
        ({ read := presentComment (splitValue rest).comment } ++ t) value
        (c.setProperties value (splitValue rest))

/-- The five readers follow the rules, with some amount of fuel. -/
structure Traces (fuel : Nat) : Prop where
  node : ∀ {indent id : Nat} {b b' : Build}, readNode fuel indent b = .ok (id, b') →
    Reads (.node indent) b (tallyNode fuel indent b) id b'
  pairs : ∀ {mapping indent id : Nat} {last : Option Nat} {b b' : Build},
    readPairs fuel mapping indent last b = .ok (id, b') →
    id = mapping ∧
      Reads (.pairs mapping indent last) b (tallyPairs fuel mapping indent last b) mapping b'
  value : ∀ {indent key id : Nat} {line : Line} {keyText rest : List Char} {b b' : Build},
    readValue fuel indent line key keyText rest b = .ok (id, b') →
    ReadsValue indent line key keyText rest b (tallyValue fuel indent line key keyText rest b) id b'
  items : ∀ {sequence indent id : Nat} {last : Option Nat} {b b' : Build},
    readItems fuel sequence indent last b = .ok (id, b') →
    id = sequence ∧
      Reads (.items sequence indent last) b (tallyItems fuel sequence indent last b) sequence b'
  nested : ∀ {indent number column id : Nat} {allowSequence : Bool} {b b' : Build},
    readNested fuel indent allowSequence number column b = .ok (id, b') →
    Reads (.nested indent allowSequence number column) b
      (tallyNested fuel indent allowSequence number column b) id b'

section

variable {fuel : Nat}

theorem traces_zero : Traces 0 := by
  constructor <;> intros <;> simp_all [readNode, readPairs, readValue, readItems, readNested]

theorem reads_of_readNode (ih : Traces fuel) {indent id : Nat} {b b' : Build}
    (h : readNode (fuel + 1) indent b = .ok (id, b')) :
    Reads (.node indent) b (tallyNode (fuel + 1) indent b) id b' := by
  unfold readNode at h
  split at h
  · cases h
  · next line lines hlines =>
    unfold tallyNode
    simp only [hlines]
    split at h
    · next hitem =>
      obtain ⟨hid, hread⟩ := ih.items h
      rw [if_pos hitem, hid]
      exact .sequence hlines hitem hread
    · next hitem =>
      rw [if_neg hitem]
      split at h
      · next hkey =>
        obtain ⟨hid, hread⟩ := ih.pairs h
        rw [if_pos hkey, hid]
        exact .mapping hlines hkey hread
      · next hkey =>
        rw [if_neg hkey]
        unfold readScalarLine at h
        dsimp only at h
        split at h
        · cases h
        · next n rest hn =>
          cases h
          rw [hlines] at hn
          exact .scalarLine hlines (by simpa using hitem) (by simpa using hkey) hn

theorem reads_of_readNested (ih : Traces fuel) {indent number column id : Nat}
    {allowSequence : Bool} {b b' : Build}
    (h : readNested (fuel + 1) indent allowSequence number column b = .ok (id, b')) :
    Reads (.nested indent allowSequence number column) b
      (tallyNested (fuel + 1) indent allowSequence number column b) id b' := by
  unfold readNested at h
  dsimp only at h
  split at h
  · next line lines hlines =>
    split at h
    · next hindent =>
      rw [tallyNested_deeper hlines hindent]
      exact .deeper hlines (by simpa [and_assoc] using hindent) (ih.node h)
    · next hindent =>
      rw [tallyNested_missing (by simpa [hlines] using hindent)]
      cases h
      refine .missing fun l hl => ?_
      obtain rfl : line = l := by simpa [hlines] using hl
      simp only [Bool.or_eq_true, decide_eq_true_eq, not_or] at hindent
      omega
  · next hlines =>
    rw [tallyNested_missing (by simp [hlines])]
    cases h
    exact .missing (by simp [hlines])

theorem readsValue_of_readValue (ih : Traces fuel) {indent key id : Nat} {line : Line}
    {keyText rest : List Char} {b b' : Build}
    (h : readValue (fuel + 1) indent line key keyText rest b = .ok (id, b')) :
    ReadsValue indent line key keyText rest b
      (tallyValue (fuel + 1) indent line key keyText rest b) id b' := by
  unfold readValue at h
  unfold tallyValue
  dsimp only at h ⊢
  split at h
  · next hempty =>
    rw [if_pos hempty]
    split at h
    · cases h
    · next value c hc =>
      cases h
      exact .nested (by simpa using hempty) (ih.nested hc)
  · next hempty =>
    rw [if_neg hempty]
    split at h
    · cases h
    · next n lines hn =>
      cases h
      exact .inline hn

/-- A pair and what follows it. -/
theorem reads_pair {mapping indent value : Nat} {last : Option Nat} {line : Line}
    {lines : List Line} {keyText keyValue rest : List Char} {b c b' : Build} {s t : Tally}
    (hlines : b.toContent.lines = line :: lines) (hindent : line.indent = indent)
    (hkey : splitKey? line.text = some (keyText, rest))
    (hvalue : ReadsValue indent line b.nodes.size keyText rest
      (b.toContent.addKey line indent keyText keyValue) s value c)
    (h : Reads (.pairs mapping indent (some b.nodes.size))
      (c.addContent mapping [b.nodes.size, value]) t mapping b') :
    Reads (.pairs mapping indent last) b ({ read := commentsAhead b.lines } ++ (s ++ t)) mapping
      b' := by
  have hlines' : (b.toContent.addKey line indent keyText keyValue).lines = lines := by
    simp [Build.addKey, Build.push, Build.clearPending, Build.dropLine, hlines]
  have hsize : (b.toContent.addKey line indent keyText keyValue).nodes.size = b.nodes.size + 1 :=
    Array.size_push _
  cases hvalue with
  | inline hn =>
    rw [hlines'] at hn ⊢
    rw [hsize] at h
    exact .inlinePair hlines hindent hkey hn h
  | nested hempty hvalue => exact .nestedPair hlines hindent hkey hempty hvalue h

theorem reads_of_readPairs (ih : Traces fuel) {mapping indent id : Nat} {last : Option Nat}
    {b b' : Build} (h : readPairs (fuel + 1) mapping indent last b = .ok (id, b')) :
    id = mapping ∧ Reads (.pairs mapping indent last) b
      (tallyPairs (fuel + 1) mapping indent last b) mapping b' := by
  have hclose (hend : ∀ line ∈ b.toContent.lines.head?,
        line.indent < indent ∨ splitKey? line.text = none)
      (hc : Except.ok (mapping, b.toContent.withFoot last indent) =
        (.ok (id, b') : Except Fault (Nat × Build))) :
      id = mapping ∧ Reads (.pairs mapping indent last) b
        (tallyPairs (fuel + 1) mapping indent last b) mapping b' := by
    rw [tallyPairs_end hend]
    cases hc
    exact ⟨rfl, .pairsEnd hend⟩
  unfold readPairs at h
  dsimp only at h
  split at h
  · next hlines => exact hclose (by simp [hlines]) h
  · next line lines hlines =>
    split at h
    · next hlt => exact hclose (by simp [hlines, hlt]) h
    · split at h
      · cases h
      · split at h
        · next hkey =>
          split at h
          · exact hclose (by simp [hlines, hkey]) h
          · cases h
        · next keyText rest hkey =>
          split at h
          · cases h
          · next keyValue hdecode =>
            split at h
            · cases h
            · next value c hvalue =>
              replace hvalue : readValue fuel indent line b.nodes.size keyText rest
                (b.toContent.addKey line indent keyText keyValue) = .ok (value, c) := hvalue
              have hindent : line.indent = indent := by omega
              obtain ⟨hid, hmore⟩ := ih.pairs h
              rw [tallyPairs_pair hlines hindent hkey hdecode hvalue]
              exact ⟨hid, reads_pair hlines hindent hkey (ih.value hvalue) hmore⟩

theorem reads_of_readItems (ih : Traces fuel) {sequence indent id : Nat} {last : Option Nat}
    {b b' : Build} (h : readItems (fuel + 1) sequence indent last b = .ok (id, b')) :
    id = sequence ∧ Reads (.items sequence indent last) b
      (tallyItems (fuel + 1) sequence indent last b) sequence b' := by
  have hclose (hend : ∀ line ∈ b.toContent.lines.head?,
        line.indent < indent ∨ isItem line.text = false)
      (hc : Except.ok (sequence, b.toContent.withFoot last indent) =
        (.ok (id, b') : Except Fault (Nat × Build))) :
      id = sequence ∧ Reads (.items sequence indent last) b
        (tallyItems (fuel + 1) sequence indent last b) sequence b' := by
    rw [tallyItems_end hend]
    cases hc
    exact ⟨rfl, .itemsEnd hend⟩
  unfold readItems at h
  dsimp only at h
  split at h
  · next hlines => exact hclose (by simp [hlines]) h
  · next line lines hlines =>
    split at h
    · next hend =>
      have hend : line.indent < indent ∨ line.indent = indent ∧ isItem line.text = false := by
        simpa using hend
      exact hclose (by simpa [hlines] using hend.imp_right And.right) h
    · next hend =>
      split at h
      · cases h
      · have hindent : line.indent = indent := by
          simp only [Bool.or_eq_true, decide_eq_true_eq, not_or] at hend
          omega
        have hitem : isItem line.text = true := by
          by_contra hno
          simp [hindent, hno] at hend
        split at h
        · cases h
        · next item c hread =>
          obtain ⟨hid, hmore⟩ := ih.items h
          refine ⟨hid, ?_⟩
          split at hread
          · next hempty =>
            replace hempty : (dashValue line).text.isEmpty = true := hempty
            split at hread
            · cases hread
            · next id' d hd =>
              cases hread
              replace hd : readNested fuel indent false line.number (dashIndent line indent + 1)
                b.toContent.dropLine.clearPending = .ok (item, d) := hd
              rw [tallyItems_nested hlines hindent hitem hempty hd]
              exact .nestedItem hlines hindent hitem (by simpa using hempty) (ih.nested hd) hmore
          · next hempty =>
            replace hread : readNode fuel (dashIndent line indent)
              (b.toContent.behindDash line lines (dashIndent line indent)) = .ok (item, c) := hread
            rw [tallyItems_compact hlines hindent hitem hempty hread]
            exact .compactItem hlines hindent hitem (ih.node hread) hmore

/-- Every run of a reader follows the rules, whatever the fuel. -/
theorem traces (fuel : Nat) : Traces fuel := by
  induction fuel with
  | zero => exact traces_zero
  | succ fuel ih =>
    exact ⟨reads_of_readNode ih, reads_of_readPairs ih, readsValue_of_readValue ih,
      reads_of_readItems ih, reads_of_readNested ih⟩

end

/-! ### Documents -/

/-- The build at the first content line of a document. -/
def Build.start (nodes : Array Node) (lines : List Line) : Build :=
  { nodes, lines : Build }.toContent

/-- The tally of `readDocument`. -/
def documentTally (nodes : Array Node) (lines : List Line) : Tally :=
  let b := Build.start nodes lines
  { read := commentsAhead lines } ++ match b.lines with
  | [] => {}
  | line :: _ =>
    let fuel := 4 * linesWeight b.lines + 4
    tallyNode fuel line.indent b ++ match readNode fuel line.indent b with
    | .error _ => {}
    | .ok (_, c) => { read := commentsAhead c.lines }

/-- The tally of `readDocuments`. -/
def documentsTally (nodes : Array Node) : List (Bool × List Line) → Tally
  | [] => {}
  | (_, lines) :: rest => documentTally nodes lines ++ match readDocument nodes lines with
    | .error _ => {}
    | .ok (_, nodes) => documentsTally nodes rest

/-- The builder reads a document: it has no content, or one node takes up all its lines. -/
inductive ReadsDocument (nodes : Array Node) (lines : List Line) :
    Tally → Root → Array Node → Prop
  | empty (hlines : (Build.start nodes lines).lines = []) :
      ReadsDocument nodes lines { read := commentsAhead lines }
        { comment := joinPending (Build.start nodes lines).pending } nodes
  | node {line : Line} {rest : List Line} {b : Build} {t : Tally} {id : Nat}
      (hlines : (Build.start nodes lines).lines = line :: rest)
      (h : Reads (.node line.indent) (Build.start nodes lines) t id b)
      (hend : b.toContent.lines = []) :
      ReadsDocument nodes lines
        ({ read := commentsAhead lines } ++ (t ++ { read := commentsAhead b.lines }))
        { node := some id, comment := joinPending b.toContent.pending } b.nodes

theorem readsDocument_of_readDocument {nodes nodes' : Array Node} {lines : List Line} {root : Root}
    (h : readDocument nodes lines = .ok (root, nodes')) :
    ReadsDocument nodes lines (documentTally nodes lines) root nodes' := by
  unfold readDocument at h
  unfold documentTally
  replace h : (match (Build.start nodes lines).lines with | [] => _ | line :: _ => _) = _ := h
  dsimp only
  cases hlines : (Build.start nodes lines).lines with
  | nil =>
    rw [hlines] at h
    cases h
    exact Tally.append_empty _ ▸ .empty hlines
  | cons line rest =>
    rw [hlines] at h
    dsimp only at h ⊢
    replace h : (match readNode (4 * linesWeight (Build.start nodes lines).lines + 4) line.indent
      (Build.start nodes lines) with | .error e => _ | .ok (id, b) => _) = _ := h
    rw [hlines] at h
    split at h
    · cases h
    · next id b hread =>
      split at h
      · cases h
      · next hend =>
        cases h
        exact .node hlines ((traces _).node hread) hend

end ManifestMarkers.Manifest
