import ManifestMarkers.Proofs.CheckedScalars
import ManifestMarkers.Proofs.ReadingProgress

/-!
# Reading with a cursor

The builder goes over all lines of a document with a cursor. A compact item is written over the line
it stands on, and nodes are changed at the numbers they were given. Here every access to a line or a
node is checked.

* `Checked.Buffer` has the nodes so far, all lines, the cursor and the comments that wait.
  `Buffer.build` is what is left of it behind the cursor.
* `Checked.readNode` and the readers it calls do what `Manifest.readNode` does with what is left
  (`Checked.mirrored`): a line that is looked at is there, and so are the nodes that are changed.
* The readers have as many steps as the weight of the lines demands, and do not use them up.
-/

namespace ManifestMarkers.Checked

open Text Manifest

/-- The builder with all lines of the document. -/
structure Buffer where
  nodes : Array Node := #[]
  lines : List Line := []
  /-- The index of the line that comes next. -/
  cursor : Nat := 0
  /-- Comment lines that wait for their node. -/
  pending : List Pending := []

namespace Buffer

/-- What is left behind the cursor. -/
def build (c : Buffer) : Build := ⟨c.nodes, c.lines.drop c.cursor, c.pending⟩

/-- The line at an index. -/
def lineAt (c : Buffer) (i : Nat) : Checked Line := ofOption c.lines[i]?

/-- Write over the line at an index. -/
def setLine (c : Buffer) (i : Nat) (line : Line) : Checked Buffer :=
  if i < c.lines.length then .ok { c with lines := c.lines.set i line } else .outside

/-- Add a node, which gets the number of nodes so far. -/
def push (c : Buffer) (n : Node) : Buffer := { c with nodes := c.nodes.push n }

/-- Change the node with a number. -/
def modify (c : Buffer) (id : Nat) (f : Node → Node) : Checked Buffer :=
  if id < c.nodes.size then .ok { c with nodes := c.nodes.modify id f } else .outside

/-- Move to the next content line and collect comments. Gives its index. -/
def nextContent (c : Buffer) : Option Nat × Buffer :=
  match _h : c.lines[c.cursor]? with
  | none => (none, c)
  | some line => match line.kind with
    | .comment => nextContent
      { c with
        cursor := c.cursor + 1
        pending := c.pending ++ [⟨line.indent, line.number, line.text⟩] }
    | .content => (some c.cursor, c)
    | _ => nextContent { c with cursor := c.cursor + 1 }
termination_by c.lines.length - c.cursor
decreasing_by
  all_goals
    have hlt := lt_length_of_eq_some _h
    omega

/-- The node with the comments that wait as its head comment. -/
def withHead (c : Buffer) (n : Node) : Node :=
  { n with headComment := joinPending c.pending, headPositions := pendingPoints c.pending }

/-- Take up to `n` of the comments that wait. -/
def drain (c : Buffer) (n : Nat) : Checked (List Pending × Buffer) :=
  if n ≤ c.pending.length then
    .ok (c.pending.take n, { c with pending := c.pending.drop n })
  else .outside

/-- Whether a comment that waits does not belong to the node above: it is indented less than
`indent`, or no deeper than the content that comes next. -/
def stays (c : Buffer) (indent : Nat) (p : Pending) : Bool :=
  let next? := (c.lines[c.cursor]?).bind fun l => if l.kind = .content then some l.indent else none
  p.indent < indent || next?.any (p.indent ≤ ·)

/-- A node with more foot comments. -/
def withFoot (foot : List Pending) (n : Node) : Node :=
  { n with
    footComment := (if n.footComment.isEmpty then "" else n.footComment ++ "\n") ++ joinPending foot
    footPositions := n.footPositions ++ pendingPoints foot }

/-- Attach comments that wait to the node above them. -/
def attachFoot (c : Buffer) (id indent : Nat) : Checked Buffer := do
  let split := c.pending.findIdx (c.stays indent)
  if split = 0 then return c
  else
    let (foot, c) ← c.drain split
    c.modify id (withFoot foot)

/-- End a collection whose last key or item is `last`. -/
def close (c : Buffer) (id : Nat) (last : Option Nat) (indent : Nat) : Checked (Nat × Buffer) :=
  match last with
  | some child => do return (id, ← c.attachFoot child indent)
  | none => return (id, c)

/-- Set the anchor and the tag of a node, if the value has them. -/
def setProperties (c : Buffer) (id : Nat) (v : InlineValue) : Checked Buffer :=
  c.modify id fun n =>
    { n with
      anchor := (v.anchor.map String.ofList).or n.anchor
      tag := (v.tag.map String.ofList).or n.tag }

/-- Set the comment behind a node. -/
def setTrail (c : Buffer) (id : Nat) (line : Line) (v : InlineValue) : Checked Buffer := do
  let linePosition ← commentPoint line v.comment
  c.modify id fun n => { n with lineComment := String.ofList v.comment, linePosition }

/-- Set the properties and comments of an item that was read from below its dash; `before` is the
buffer at the dash. -/
def setItem (c before : Buffer) (id : Nat) (line : Line) (v : InlineValue) : Checked Buffer := do
  let c ← c.setProperties id v
  let linePosition ← commentPoint line v.comment
  c.modify id fun n =>
    { before.withHead n with lineComment := String.ofList v.comment, linePosition }

/-- Add nodes to the content of a collection. -/
def addContent (c : Buffer) (id : Nat) (ids : List Nat) : Checked Buffer :=
  c.modify id fun n => { n with content := n.content ++ ids }

/-- Use up the line at an index and add its key, with the comments that wait above it. -/
def addKey (c : Buffer) (index : Nat) (line : Line) (indent : Nat) (text value : List Char) :
    Buffer :=
  { c with cursor := index + 1, pending := [] }.push (c.withHead (plainKey line indent text value))

end Buffer

/-- Read a scalar that takes the whole line. -/
def readScalarLine (indent : Nat) (c : Buffer) : Checked (Nat × Buffer) := do
  let line ← c.lineAt c.cursor
  let v ← splitValue line.text
  let (n, cursor) ← scalarNode v line.number (indent - 1) (line.indent + 1) c.lines (c.cursor + 1)
  let d ← ({ c with cursor, pending := [] }.push n).modify c.nodes.size c.withHead
  return (c.nodes.size, d)

mutual

/-- Read the node that starts on the current line, at the given indentation. -/
def readNode : Nat → Nat → Buffer → Checked (Nat × Buffer)
  | 0, _, _ => .endless
  | fuel + 1, indent, c => do
    let line ← c.lineAt c.cursor
    if isItem line.text then
      readItems fuel c.nodes.size indent none (c.push (emptyCollection .sequence line indent))
    else match ← splitKey line.text with
      | some _ =>
        readPairs fuel c.nodes.size indent none (c.push (emptyCollection .mapping line indent))
      | none => readScalarLine indent c

/-- Read the pairs of a mapping. `last` is its last key so far. -/
def readPairs : Nat → Nat → Nat → Option Nat → Buffer → Checked (Nat × Buffer)
  | 0, _, _, _, _ => .endless
  | fuel + 1, mapping, indent, last, c =>
    match c.nextContent with
    | (none, c) => c.close mapping last indent
    | (some index, c) => do
      let line ← c.lineAt index
      if line.indent < indent then c.close mapping last indent
      else if indent < line.indent then .fault (.layout line.number .unexpectedIndentation)
      else match ← splitKey line.text with
        | none =>
          if isItem line.text then c.close mapping last indent
          else .fault (.layout line.number .expectedKey)
        | some (keyText, rest) => do
          let keyValue ← ofExcept (decodeScalar keyText line.number)
          let (value, d) ← readValue fuel indent line c.nodes.size keyText rest
            (c.addKey index line indent keyText keyValue)
          readPairs fuel mapping indent (some c.nodes.size)
            (← d.addContent mapping [c.nodes.size, value])

/-- Read the value of a key: on its line, or on the lines below. -/
def readValue : Nat → Nat → Line → Nat → List Char → List Char → Buffer → Checked (Nat × Buffer)
  | 0, _, _, _, _, _, _ => .endless
  | fuel + 1, indent, line, key, keyText, rest, c => do
    let v ← splitValue rest
    if v.text.isEmpty then
      let c ← c.setTrail key line v
      let (id, c) ← readNested fuel indent true line.number (columnBehindKey line keyText) c
      return (id, ← c.setProperties id v)
    else
      let column ← sub (line.indent + byteSize line.text) (byteSize (trimStart rest))
      let (n, cursor) ← scalarNode v line.number indent (column + 1) c.lines c.cursor
      return (c.nodes.size, { c with cursor }.push n)

/-- Read the items of a sequence. `last` is its last item so far. -/
def readItems : Nat → Nat → Nat → Option Nat → Buffer → Checked (Nat × Buffer)
  | 0, _, _, _, _ => .endless
  | fuel + 1, sequence, indent, last, c =>
    match c.nextContent with
    | (none, c) => c.close sequence last indent
    | (some index, c) => do
      let line ← c.lineAt index
      if line.indent < indent || (line.indent == indent && !isItem line.text) then
        c.close sequence last indent
      else if indent < line.indent then .fault (.layout line.number .unexpectedIndentation)
      else
        let rest ← sliceFrom line.text 1
        let content := trimStart rest
        let contentIndent ← sub (indent + 1 + byteSize rest) (byteSize content)
        let v ← splitValue content
        if v.text.isEmpty then
          let (id, d) ← readNested fuel indent false line.number (contentIndent + 1)
            { c with cursor := index + 1, pending := [] }
          let d ← d.setItem c id line v
          readItems fuel sequence indent (some id) (← d.addContent sequence [id])
        else
          let (id, d) ← readNode fuel contentIndent
            (← c.setLine index { line with indent := contentIndent, text := content })
          readItems fuel sequence indent (some id) (← d.addContent sequence [id])

/-- Read the block value of a key or item that has nothing on its line. -/
def readNested : Nat → Nat → Bool → Nat → Nat → Buffer → Checked (Nat × Buffer)
  | 0, _, _, _, _, _ => .endless
  | fuel + 1, indent, allowSequence, number, column, c =>
    match c.nextContent with
    | (none, c) => return (c.nodes.size, c.push (missingNode number column))
    | (some index, c) => do
      let line ← c.lineAt index
      if indent < line.indent || (allowSequence && line.indent == indent && isItem line.text) then
        readNode fuel line.indent c
      else return (c.nodes.size, c.push (missingNode number column))

end

/-! ### The buffer and what is left of it -/

namespace Buffer

variable {c : Buffer}

theorem lineAt_cursor {line : Line} {lines : List Line} (h : c.build.lines = line :: lines) :
    c.lines[c.cursor]? = some line := by
  rw [← List.head?_drop]
  show c.build.lines.head? = some line
  rw [h]
  rfl

theorem modify_of_lt {id : Nat} (h : id < c.nodes.size) (f : Node → Node) :
    c.modify id f = .ok { c with nodes := c.nodes.modify id f } := if_pos h

/-- Moving to the next content line leaves what `Build.toContent` leaves. -/
theorem exists_nextContent (c : Buffer) : ∃ d : Buffer, d.build = c.build.toContent ∧
    (c.nextContent = (none, d) ∧ d.build.lines = [] ∨
      ∃ line lines, c.nextContent = (some d.cursor, d) ∧ d.build.lines = line :: lines) := by
  fun_induction nextContent c with
  | case1 c hnone =>
    have hnil : c.build.lines = [] := drop_eq_nil hnone
    refine ⟨c, ?_, .inl ⟨rfl, hnil⟩⟩
    simp only [Build.toContent, hnil, Build.collect]
    rw [← hnil]
  | case2 c line hsome hkind ih =>
    obtain ⟨d, hbuild, hnext⟩ := ih
    refine ⟨d, ?_, hnext⟩
    have hlines : c.build.lines = line :: c.lines.drop (c.cursor + 1) := drop_eq_cons hsome
    rw [hbuild]
    simp only [Build.toContent, hlines, Build.collect, hkind]
    rfl
  | case3 c line hsome hkind =>
    have hlines : c.build.lines = line :: c.lines.drop (c.cursor + 1) := drop_eq_cons hsome
    refine ⟨c, ?_, .inr ⟨line, _, rfl, hlines⟩⟩
    simp only [Build.toContent, hlines, Build.collect_content hkind]
    rw [← hlines]
  | case4 c line hsome hcomment hcontent ih =>
    obtain ⟨d, hbuild, hnext⟩ := ih
    refine ⟨d, ?_, hnext⟩
    have hlines : c.build.lines = line :: c.lines.drop (c.cursor + 1) := drop_eq_cons hsome
    rw [hbuild]
    simp only [Build.toContent, hlines, Build.collect]
    rfl

/-- Comments are attached as `Build.attachFoot` does, if the node is there. -/
theorem exists_attachFoot {id : Nat} (hid : id < c.nodes.size) (indent : Nat) :
    ∃ d : Buffer, c.attachFoot id indent = .ok d ∧ d.build = c.build.attachFoot id indent := by
  have hmodel : c.build.attachFoot id indent =
      let foot := c.pending.takeWhile fun p => !c.stays indent p
      if foot.isEmpty then c.build
      else { c.build with pending := c.pending.drop foot.length }.modify id (withFoot foot) := by
    unfold Build.attachFoot stays
    rw [show c.build.lines.head? = c.lines[c.cursor]? from List.head?_drop]
    rfl
  have hfoot : c.pending.takeWhile (fun p => !c.stays indent p) =
      c.pending.take (c.pending.findIdx (c.stays indent)) := by
    rw [List.takeWhile_eq_take_findIdx_not]
    simp
  have hle : c.pending.findIdx (c.stays indent) ≤ c.pending.length := List.findIdx_le_length
  rw [hmodel, attachFoot, hfoot]
  generalize c.pending.findIdx (c.stays indent) = split at *
  have hlength : (c.pending.take split).length = split := List.length_take_of_le hle
  dsimp only
  by_cases hzero : split = 0
  · subst hzero
    exact ⟨c, rfl, rfl⟩
  · have hne : (c.pending.take split).isEmpty = false := by
      rw [← Bool.not_eq_true, List.isEmpty_iff_length_eq_zero, hlength]
      exact hzero
    rw [if_neg hzero, hne, hlength, drain, if_pos hle, ok_bind]
    exact ⟨_, if_pos hid, rfl⟩

/-- A collection is closed as the builder closes it, if its last key or item is there. -/
theorem exists_close {last : Option Nat} (hlast : ∀ child ∈ last, child < c.nodes.size)
    (id indent : Nat) :
    ∃ d : Buffer, c.close id last indent = .ok (id, d) ∧
      d.build = c.build.withFoot last indent := by
  cases last with
  | none => exact ⟨c, rfl, rfl⟩
  | some child =>
    obtain ⟨d, hfoot, hbuild⟩ := exists_attachFoot (hlast child rfl) indent
    refine ⟨d, ?_, hbuild⟩
    rw [close, hfoot]
    rfl

theorem exists_setTrail {id : Nat} (hid : id < c.nodes.size) (line : Line) (v : InlineValue) :
    ∃ d : Buffer, c.setTrail id line v = .ok d ∧ d.build = c.build.setTrail id line v := by
  rw [setTrail, commentPoint_eq, ok_bind, modify_of_lt hid]
  exact ⟨_, rfl, rfl⟩

theorem exists_setItem (before : Buffer) {id : Nat} (hid : id < c.nodes.size) (line : Line)
    (v : InlineValue) :
    ∃ d : Buffer, c.setItem before id line v = .ok d ∧
      d.build = c.build.setItem before.build id line v := by
  rw [setItem, setProperties, modify_of_lt hid, ok_bind, commentPoint_eq, ok_bind,
    modify_of_lt (by simpa using hid)]
  exact ⟨_, rfl, rfl⟩

/-- The current line is there, and can be written over. -/
theorem exists_setLine {line : Line} {lines : List Line} (h : c.build.lines = line :: lines)
    (line' : Line) :
    ∃ d : Buffer, c.setLine c.cursor line' = .ok d ∧
      d.build = { c.build with lines := line' :: lines } := by
  refine ⟨_, if_pos (lt_length_of_eq_some (lineAt_cursor h)), ?_⟩
  have hdrop : (c.lines.set c.cursor line').drop c.cursor = line' :: lines := by
    rw [List.drop_set, if_neg (Nat.lt_irrefl _), Nat.sub_self]
    show c.build.lines.set 0 line' = line' :: lines
    rw [h]
    rfl
  simp only [build, hdrop]

/-- The current line is used up. -/
theorem build_skip (c : Buffer) :
    ({ c with cursor := c.cursor + 1, pending := [] } : Buffer).build =
      c.build.dropLine.clearPending := by
  simp only [build, Build.dropLine, Build.clearPending, List.drop_drop]

end Buffer

/-! ### One step of a reader -/

section

variable {fuel indent : Nat} {b : Build} {line : Line} {lines : List Line}

theorem readScalarLine_eq_bind : Manifest.readScalarLine indent line b =
    (Manifest.scalarNode (Manifest.splitValue line.text) line (indent - 1) (line.indent + 1)
      (b.lines.drop 1)).bind fun read => .ok (b.nodes.size, b.addScalarLine read.1 read.2) := by
  rw [Manifest.readScalarLine]
  split
  · next h => rw [h]; rfl
  · next h => rw [h]; rfl

theorem readValue_eq_bind_nested {key : Nat} {keyText rest : List Char}
    (hempty : (Manifest.splitValue rest).text.isEmpty = true) :
    Manifest.readValue (fuel + 1) indent line key keyText rest b =
      (Manifest.readNested fuel indent true line.number (columnBehindKey line keyText)
        (b.setTrail key line (Manifest.splitValue rest))).bind fun read =>
          .ok (read.1, read.2.setProperties read.1 (Manifest.splitValue rest)) := by
  rw [Manifest.readValue, if_pos hempty]
  unfold Build.setTrail columnBehindKey
  dsimp only
  split
  · next h => rw [h]; rfl
  · next h => rw [h]; rfl

theorem readValue_eq_bind_inline {key : Nat} {keyText rest : List Char}
    (hempty : ¬ (Manifest.splitValue rest).text.isEmpty = true) :
    Manifest.readValue (fuel + 1) indent line key keyText rest b =
      (Manifest.scalarNode (Manifest.splitValue rest) line indent (valueColumn line rest)
        b.lines).bind fun read => .ok (b.nodes.size, b.addScalar read.1 read.2) := by
  rw [Manifest.readValue, if_neg hempty]
  unfold valueColumn
  dsimp only
  split
  · next h => rw [h]; rfl
  · next h => rw [h]; rfl

theorem readPairs_eq_close {mapping : Nat} {last : Option Nat}
    (hend : ∀ line ∈ b.toContent.lines.head?, line.indent < indent ∨
      line.indent = indent ∧ splitKey? line.text = none ∧ isItem line.text = true) :
    Manifest.readPairs (fuel + 1) mapping indent last b =
      .ok (mapping, b.toContent.withFoot last indent) := by
  unfold Manifest.readPairs
  dsimp only
  cases hlines : b.toContent.lines with
  | nil => rfl
  | cons line lines =>
    rw [hlines] at hend
    dsimp only
    rcases hend line rfl with hless | ⟨hindent, hkey, hitem⟩
    · rw [if_pos hless]
      rfl
    · rw [if_neg (by omega), if_neg (by omega), hkey]
      dsimp only
      rw [if_pos hitem]
      rfl

theorem readPairs_eq_error {mapping : Nat} {last : Option Nat} {e : Fault}
    (hlines : b.toContent.lines = line :: lines)
    (h : indent < line.indent ∧ e = .layout line.number .unexpectedIndentation ∨
      line.indent = indent ∧
        (splitKey? line.text = none ∧ isItem line.text = false ∧
            e = .layout line.number .expectedKey ∨
          ∃ keyText rest, splitKey? line.text = some (keyText, rest) ∧
            decodeScalar keyText line.number = .error e)) :
    Manifest.readPairs (fuel + 1) mapping indent last b = .error e := by
  unfold Manifest.readPairs
  dsimp only
  rw [hlines]
  dsimp only
  rcases h with ⟨hmore, rfl⟩ | ⟨hindent, ⟨hkey, hitem, rfl⟩ | ⟨keyText, rest, hkey, hvalue⟩⟩
  · rw [if_neg (by omega), if_pos hmore]
    rfl
  · rw [if_neg (by omega), if_neg (by omega), hkey]
    dsimp only
    rw [if_neg (by simp [hitem])]
    rfl
  · rw [if_neg (by omega), if_neg (by omega), hkey]
    dsimp only
    rw [hvalue]

theorem readPairs_eq_bind {mapping : Nat} {last : Option Nat} {keyText rest keyValue : List Char}
    (hlines : b.toContent.lines = line :: lines) (hindent : line.indent = indent)
    (hkey : splitKey? line.text = some (keyText, rest))
    (hvalue : decodeScalar keyText line.number = .ok keyValue) :
    Manifest.readPairs (fuel + 1) mapping indent last b =
      (Manifest.readValue fuel indent line b.nodes.size keyText rest
        (b.toContent.addKey line indent keyText keyValue)).bind fun read =>
          Manifest.readPairs fuel mapping indent (some b.nodes.size)
            (read.2.addContent mapping [b.nodes.size, read.1]) := by
  conv_lhs => unfold Manifest.readPairs
  dsimp only
  rw [hlines]
  dsimp only
  rw [if_neg (by omega), if_neg (by omega), hkey]
  dsimp only
  rw [hvalue]
  dsimp only
  split
  · next h =>
    replace h : Manifest.readValue fuel indent line b.nodes.size keyText rest
      (b.toContent.addKey line indent keyText keyValue) = _ := h
    rw [h]
    rfl
  · next h =>
    replace h : Manifest.readValue fuel indent line b.nodes.size keyText rest
      (b.toContent.addKey line indent keyText keyValue) = _ := h
    rw [h]
    rfl

theorem readItems_eq_close {sequence : Nat} {last : Option Nat}
    (hend : ∀ line ∈ b.toContent.lines.head?, line.indent < indent ∨
      line.indent = indent ∧ isItem line.text = false) :
    Manifest.readItems (fuel + 1) sequence indent last b =
      .ok (sequence, b.toContent.withFoot last indent) := by
  unfold Manifest.readItems
  dsimp only
  cases hlines : b.toContent.lines with
  | nil => rfl
  | cons line lines =>
    rw [hlines] at hend
    dsimp only
    rw [if_pos (by simpa using hend line rfl)]
    rfl

theorem readItems_eq_error {sequence : Nat} {last : Option Nat}
    (hlines : b.toContent.lines = line :: lines) (hmore : indent < line.indent) :
    Manifest.readItems (fuel + 1) sequence indent last b =
      .error (.layout line.number .unexpectedIndentation) := by
  have hindent : line.indent ≠ indent := by omega
  unfold Manifest.readItems
  dsimp only
  rw [hlines]
  dsimp only
  rw [if_neg (by simp [hindent, Nat.not_lt.2 (Nat.le_of_lt hmore)]), if_pos hmore]
  rfl

theorem readItems_eq_bind_nested {sequence : Nat} {last : Option Nat}
    (hlines : b.toContent.lines = line :: lines) (hindent : line.indent = indent)
    (hitem : isItem line.text = true) (hempty : (dashValue line).text.isEmpty = true) :
    Manifest.readItems (fuel + 1) sequence indent last b =
      (Manifest.readNested fuel indent false line.number (dashIndent line indent + 1)
        b.toContent.dropLine.clearPending).bind fun read =>
          Manifest.readItems fuel sequence indent (some read.1)
            ((read.2.setItem b.toContent read.1 line (dashValue line)).addContent sequence
              [read.1]) := by
  replace hempty : (Manifest.splitValue (trimStart (line.text.drop 1))).text.isEmpty = true :=
    hempty
  conv_lhs => unfold Manifest.readItems
  dsimp only
  rw [hlines]
  dsimp only
  rw [if_neg (by simp [hindent, hitem]), if_neg (by omega), if_pos hempty]
  unfold dashIndent
  cases Manifest.readNested fuel indent false line.number _ b.toContent.dropLine.clearPending with
  | error e => rfl
  | ok read => rfl

theorem readItems_eq_bind_compact {sequence : Nat} {last : Option Nat}
    (hlines : b.toContent.lines = line :: lines) (hindent : line.indent = indent)
    (hitem : isItem line.text = true) (hempty : ¬ (dashValue line).text.isEmpty = true) :
    Manifest.readItems (fuel + 1) sequence indent last b =
      (Manifest.readNode fuel (dashIndent line indent)
        (b.toContent.behindDash line lines (dashIndent line indent))).bind fun read =>
          Manifest.readItems fuel sequence indent (some read.1)
            (read.2.addContent sequence [read.1]) := by
  replace hempty : ¬ (Manifest.splitValue (trimStart (line.text.drop 1))).text.isEmpty = true :=
    hempty
  conv_lhs => unfold Manifest.readItems
  dsimp only
  rw [hlines]
  dsimp only
  rw [if_neg (by simp [hindent, hitem]), if_neg (by omega), if_neg hempty]
  unfold dashIndent Build.behindDash
  split
  · next h => rw [h]; rfl
  · next h => rw [h]; rfl

end

/-! ### The readers -/

/-- The checked reader `x` ends as the reader `y` does: with the same fault, or with the same number
and a buffer that leaves the same. -/
def Shows (x : Checked (Nat × Buffer)) (y : Except Fault (Nat × Build)) : Prop :=
  Mirrors (fun _ => True) (fun p => (p.1, p.2.build)) x y

theorem shows_ok {c : Buffer} {id : Nat} {b : Build} (h : c.build = b) :
    Shows (.ok (id, c)) (.ok (id, b)) := by
  subst h
  exact .inr ⟨(id, c), trivial, rfl, rfl⟩

theorem shows_fault {e : Fault} (h : IsYaml e) : Shows (.fault e) (.error e) :=
  .inl ⟨e, h, rfl, rfl⟩

/-- The five readers with `fuel` steps, which are as many as the weight of the lines demands. -/
structure Mirrored (fuel : Nat) : Prop where
  node : ∀ (indent : Nat) (c : Buffer), c.build.IsAt indent (fun _ => True) →
    4 * linesWeight c.build.lines + 2 ≤ fuel →
    Shows (readNode fuel indent c) (Manifest.readNode fuel indent c.build)
  pairs : ∀ (mapping indent : Nat) (last : Option Nat) (c : Buffer), mapping < c.nodes.size →
    (∀ key ∈ last, key < c.nodes.size) → 4 * linesWeight c.build.lines + 1 ≤ fuel →
    Shows (readPairs fuel mapping indent last c)
      (Manifest.readPairs fuel mapping indent last c.build)
  value : ∀ (indent : Nat) (line : Line) (key : Nat) (keyText rest : List Char) (c : Buffer),
    1 ≤ c.cursor → c.lines[c.cursor - 1]? = some line → rest <:+ line.text →
    key < c.nodes.size → 4 * linesWeight c.build.lines + 4 ≤ fuel →
    Shows (readValue fuel indent line key keyText rest c)
      (Manifest.readValue fuel indent line key keyText rest c.build)
  items : ∀ (sequence indent : Nat) (last : Option Nat) (c : Buffer), sequence < c.nodes.size →
    (∀ item ∈ last, item < c.nodes.size) → 4 * linesWeight c.build.lines + 1 ≤ fuel →
    Shows (readItems fuel sequence indent last c)
      (Manifest.readItems fuel sequence indent last c.build)
  nested : ∀ (indent : Nat) (allowSequence : Bool) (number column : Nat) (c : Buffer),
    4 * linesWeight c.build.lines + 3 ≤ fuel →
    Shows (readNested fuel indent allowSequence number column c)
      (Manifest.readNested fuel indent allowSequence number column c.build)

/-- The number that a reader gives is one of a node, and nodes are not removed. -/
theorem lt_size_of_extends {b b' : Build} {id : Nat} (h : Extends b.contents [id] b'.contents) :
    id < b'.nodes.size ∧ b.nodes.size ≤ b'.nodes.size := by
  have hsize := h.size_le
  rw [Build.size_contents, Build.size_contents] at hsize
  refine ⟨?_, hsize⟩
  have hspans := h.spans
  cases hspans with
  | cons hbelow hrest =>
    have hle := hbelow.le
    have hle' := hrest.le
    rw [Build.size_contents] at *
    omega

/-- Without steps nothing can be demanded. -/
theorem mirrored_zero : Mirrored 0 := by
  constructor
  all_goals
    intros
    omega

section

variable {fuel : Nat} {c : Buffer}

theorem shows_close {last : Option Nat} (hlast : ∀ child ∈ last, child < c.nodes.size)
    (id indent : Nat) :
    Shows (c.close id last indent) (.ok (id, c.build.withFoot last indent)) := by
  obtain ⟨d, hclose, hbuild⟩ := Buffer.exists_close hlast id indent
  rw [hclose]
  exact shows_ok hbuild

theorem shows_readScalarLine {indent : Nat} {line : Line} {lines : List Line}
    (hlines : c.build.lines = line :: lines) :
    Shows (readScalarLine indent c) (Manifest.readScalarLine indent line c.build) := by
  have hline := Buffer.lineAt_cursor hlines
  have hnode := scalarNode_mirrors (Manifest.splitValue line.text) line (indent - 1)
    (line.indent + 1) c.lines (c.cursor + 1) (Nat.le_add_left _ _) hline
  have hdrop : c.build.lines.drop 1 = c.lines.drop (c.cursor + 1) := List.drop_drop
  rw [readScalarLine, readScalarLine_eq_bind, Buffer.lineAt, hline, ofOption_some, ok_bind,
    splitValue_eq, ok_bind, hdrop]
  refine hnode.bind ?_
  rintro ⟨n, cursor⟩ - -
  -- the node is pushed, and then gets its head comment
  dsimp only
  rw [Buffer.modify_of_lt (by simp [Buffer.push]), ok_bind]
  refine shows_ok ?_
  simp only [Buffer.build, Buffer.push, modify_push]
  rfl

theorem shows_readNode (ih : Mirrored fuel) {indent : Nat}
    (hat : c.build.IsAt indent fun _ => True)
    (hfuel : 4 * linesWeight c.build.lines + 2 ≤ fuel + 1) :
    Shows (readNode (fuel + 1) indent c) (Manifest.readNode (fuel + 1) indent c.build) := by
  obtain ⟨line, lines, hlines, -, -, -⟩ := hat
  rw [readNode, Manifest.readNode, Buffer.lineAt, Buffer.lineAt_cursor hlines, ofOption_some,
    ok_bind, hlines]
  dsimp only
  have hpush (kind : NodeKind) :
      c.nodes.size < (c.push (emptyCollection kind line indent)).nodes.size := by
    simp [Buffer.push]
  have hweight (kind : NodeKind) :
      4 * linesWeight (c.push (emptyCollection kind line indent)).build.lines + 1 ≤ fuel := by
    show 4 * linesWeight c.build.lines + 1 ≤ fuel
    omega
  by_cases hitem : isItem line.text = true
  · rw [if_pos hitem, if_pos hitem]
    exact ih.items _ _ _ _ (hpush _) (by simp) (hweight _)
  · rw [if_neg hitem, if_neg hitem, splitKey_eq, ok_bind]
    cases hkey : splitKey? line.text with
    | none =>
      rw [if_neg (by simp)]
      exact shows_readScalarLine hlines
    | some parts =>
      rw [if_pos Option.isSome_some]
      exact ih.pairs _ _ _ _ (hpush _) (by simp) (hweight _)

theorem shows_readNested (ih : Mirrored fuel) {indent number column : Nat} {allowSequence : Bool}
    (hfuel : 4 * linesWeight c.build.lines + 3 ≤ fuel + 1) :
    Shows (readNested (fuel + 1) indent allowSequence number column c)
      (Manifest.readNested (fuel + 1) indent allowSequence number column c.build) := by
  obtain ⟨d, hbuild, hnext⟩ := Buffer.exists_nextContent c
  have hweight := linesWeight_le_of_suffix c.build.toContent_suffix
  rw [readNested, Manifest.readNested]
  rw [← hbuild] at hweight ⊢
  rcases hnext with ⟨hnext, hnil⟩ | ⟨line, lines, hnext, hlines⟩
  · rw [hnext, hnil]
    exact shows_ok rfl
  · rw [hnext]
    dsimp only
    rw [Buffer.lineAt, Buffer.lineAt_cursor hlines, ofOption_some, ok_bind, hlines]
    dsimp only
    split
    · refine ih.node _ _ ?_ (by omega)
      rw [hbuild]
      exact Build.isAt_toContent (hbuild ▸ hlines)
    · exact shows_ok rfl

/-- The size of the rest of a line is at most that of the line. -/
theorem byteSize_trimStart_le {line : Line} {rest : List Char} (h : rest <:+ line.text) :
    byteSize (trimStart rest) ≤ line.indent + byteSize line.text := by
  obtain ⟨before, hbefore⟩ := (List.dropWhile_suffix isBlank).trans h
  rw [← hbefore, byteSize_append, trimStart]
  omega

theorem shows_readValue (ih : Mirrored fuel) {indent key : Nat} {line : Line}
    {keyText rest : List Char} (hcursor : 1 ≤ c.cursor) (hline : c.lines[c.cursor - 1]? = some line)
    (hrest : rest <:+ line.text) (hkey : key < c.nodes.size)
    (hfuel : 4 * linesWeight c.build.lines + 4 ≤ fuel + 1) :
    Shows (readValue (fuel + 1) indent line key keyText rest c)
      (Manifest.readValue (fuel + 1) indent line key keyText rest c.build) := by
  rw [readValue, splitValue_eq, ok_bind]
  by_cases hempty : (Manifest.splitValue rest).text.isEmpty = true
  · obtain ⟨d, htrail, hbuild⟩ := Buffer.exists_setTrail hkey line (Manifest.splitValue rest)
    have hweight : 4 * linesWeight d.build.lines + 3 ≤ fuel := by
      rw [hbuild]
      show 4 * linesWeight c.build.lines + 3 ≤ fuel
      omega
    have hread := ih.nested indent true line.number (columnBehindKey line keyText) d hweight
    rw [if_pos hempty, htrail, ok_bind, readValue_eq_bind_nested hempty, ← hbuild]
    refine hread.bind ?_
    rintro ⟨id, c'⟩ - hy
    have hid : id < c'.nodes.size := (lt_size_of_extends ((buildsTree fuel).nested hy)).1
    dsimp only
    rw [Buffer.setProperties, Buffer.modify_of_lt hid, ok_bind]
    exact shows_ok rfl
  · have hnode := scalarNode_mirrors (Manifest.splitValue rest) line indent
      (valueColumn line rest) c.lines c.cursor hcursor hline
    rw [if_neg hempty, sub_of_le (byteSize_trimStart_le hrest), ok_bind,
      readValue_eq_bind_inline hempty]
    refine hnode.bind ?_
    rintro ⟨n, cursor⟩ - -
    exact shows_ok rfl

theorem build_addKey (line : Line) (indent : Nat) (text value : List Char) :
    (c.addKey c.cursor line indent text value).build = c.build.addKey line indent text value := by
  simp only [Buffer.build, Buffer.addKey, Buffer.push, ← List.drop_drop]
  rfl

/-- The pairs behind one that was read. -/
theorem shows_morePairs (ih : Mirrored fuel) {mapping indent key value : Nat}
    (hmapping : mapping < c.nodes.size) (hkey : key < c.nodes.size)
    (hfuel : 4 * linesWeight c.build.lines + 1 ≤ fuel) :
    Shows (do readPairs fuel mapping indent (some key) (← c.addContent mapping [key, value]))
      (Manifest.readPairs fuel mapping indent (some key)
        (c.build.addContent mapping [key, value])) := by
  rw [Buffer.addContent, Buffer.modify_of_lt hmapping, ok_bind]
  refine ih.pairs mapping indent (some key) _ (by simpa using hmapping) ?_ hfuel
  rintro last hlast
  obtain rfl := Option.some.inj hlast
  simpa using hkey

/-- A pair, and those behind it. -/
theorem shows_pair (ih : Mirrored fuel) {mapping indent : Nat} {line : Line} {lines : List Line}
    {keyText rest keyValue : List Char} (hlines : c.build.lines = line :: lines)
    (hkey : splitKey? line.text = some (keyText, rest)) (hmapping : mapping < c.nodes.size)
    (hfuel : 4 * linesWeight (line :: lines) ≤ fuel) :
    Shows
      (do
        let (value, d) ← readValue fuel indent line c.nodes.size keyText rest
          (c.addKey c.cursor line indent keyText keyValue)
        readPairs fuel mapping indent (some c.nodes.size)
          (← d.addContent mapping [c.nodes.size, value]))
      ((Manifest.readValue fuel indent line c.nodes.size keyText rest
        (c.build.addKey line indent keyText keyValue)).bind fun read =>
          Manifest.readPairs fuel mapping indent (some c.nodes.size)
            (read.2.addContent mapping [c.nodes.size, read.1])) := by
  -- the key takes its line, so that the value is read from less
  have hkeyed : (c.build.addKey line indent keyText keyValue).lines = lines := by
    show c.build.lines.drop 1 = lines
    rw [hlines]
    rfl
  have htail := linesWeight_tail line (List.suffix_refl lines)
  have hsize : c.nodes.size < (c.addKey c.cursor line indent keyText keyValue).nodes.size := by
    simp [Buffer.addKey, Buffer.push]
  have hread := ih.value indent line c.nodes.size keyText rest
    (c.addKey c.cursor line indent keyText keyValue) (Nat.le_add_left _ _)
    (Buffer.lineAt_cursor hlines) (suffix_splitKey? hkey) hsize
    (by rw [build_addKey, hkeyed]; omega)
  rw [build_addKey] at hread
  refine hread.bind ?_
  rintro ⟨value, d⟩ - hy
  have hgrown := (lt_size_of_extends ((buildsTree fuel).value hy)).2
  have hrest : linesWeight d.build.lines ≤ _ :=
    linesWeight_le_of_suffix (suffix_of_readsValue ((traces fuel).value hy))
  rw [hkeyed] at hrest
  rw [← build_addKey] at hgrown
  have hkey' : c.nodes.size < d.nodes.size := Nat.lt_of_lt_of_le hsize hgrown
  have hfuel' : 4 * linesWeight d.build.lines + 1 ≤ fuel := by omega
  exact shows_morePairs ih (Nat.lt_trans hmapping hkey') hkey' hfuel'

theorem shows_readPairs (ih : Mirrored fuel) {mapping indent : Nat} {last : Option Nat}
    (hmapping : mapping < c.nodes.size) (hlast : ∀ key ∈ last, key < c.nodes.size)
    (hfuel : 4 * linesWeight c.build.lines + 1 ≤ fuel + 1) :
    Shows (readPairs (fuel + 1) mapping indent last c)
      (Manifest.readPairs (fuel + 1) mapping indent last c.build) := by
  obtain ⟨d, hbuild, hnext⟩ := Buffer.exists_nextContent c
  have hnodes : d.nodes = c.nodes := congrArg Build.nodes hbuild
  have hweight := linesWeight_le_of_suffix c.build.toContent_suffix
  have hclose := shows_close (hnodes ▸ hlast) mapping indent
  rw [readPairs]
  rcases hnext with ⟨hnext, hnil⟩ | ⟨line, lines, hnext, hlines⟩
  · rw [hnext, readPairs_eq_close (by rw [← hbuild, hnil]; simp), ← hbuild]
    exact hclose
  have hline := Buffer.lineAt_cursor hlines
  have hlines' : c.build.toContent.lines = line :: lines := by rw [← hbuild, hlines]
  rw [hnext]
  dsimp only
  rw [Buffer.lineAt, hline, ofOption_some, ok_bind]
  by_cases hless : line.indent < indent
  · rw [if_pos hless, readPairs_eq_close (by simp [hlines', hless]), ← hbuild]
    exact hclose
  rw [if_neg hless]
  by_cases hmore : indent < line.indent
  · rw [if_pos hmore, readPairs_eq_error hlines' (.inl ⟨hmore, rfl⟩)]
    exact shows_fault rfl
  have hindent : line.indent = indent := by omega
  rw [if_neg hmore, splitKey_eq, ok_bind]
  cases hkey : splitKey? line.text with
  | none =>
    dsimp only
    cases hitem : isItem line.text with
    | true =>
      rw [if_pos rfl, readPairs_eq_close (by simp [hlines', hindent, hkey, hitem]), ← hbuild]
      exact hclose
    | false =>
      rw [if_neg Bool.false_ne_true,
        readPairs_eq_error hlines' (.inr ⟨hindent, .inl ⟨hkey, hitem, rfl⟩⟩)]
      exact shows_fault rfl
  | some parts =>
    obtain ⟨keyText, rest⟩ := parts
    dsimp only
    cases hvalue : decodeScalar keyText line.number with
    | error e =>
      rw [readPairs_eq_error hlines' (.inr ⟨hindent, .inr ⟨keyText, rest, hkey, hvalue⟩⟩)]
      exact shows_fault (isYaml_of_decodeScalar hvalue)
    | ok keyValue =>
      have hsize : c.build.nodes.size = d.nodes.size := congrArg Array.size hnodes.symm
      rw [hlines'] at hweight
      rw [← hnodes] at hmapping
      rw [ofExcept_ok, ok_bind, readPairs_eq_bind hlines' hindent hkey hvalue, ← hbuild, hsize]
      exact shows_pair ih hlines hkey hmapping (by omega)

/-- The text behind the dash of an item starts at a boundary. -/
theorem sliceFrom_dash {text : List Char} (h : isItem text = true) :
    sliceFrom text 1 = .ok (text.drop 1) := by
  unfold isItem at h
  split at h
  · rfl
  · next blank text => exact sliceFrom_append ['-'] (blank :: text)
  · cases h

/-- Nothing behind the dash is wider than the line. -/
theorem byteSize_trimStart_dash (text : List Char) (indent : Nat) :
    byteSize (trimStart (text.drop 1)) ≤ indent + 1 + byteSize (text.drop 1) := by
  obtain ⟨before, hbefore⟩ := List.dropWhile_suffix (l := text.drop 1) isBlank
  rw [trimStart, ← congrArg byteSize hbefore, byteSize_append]
  omega

/-- The items behind one that was read. -/
theorem shows_moreItems (ih : Mirrored fuel) {sequence indent item : Nat}
    (hsequence : sequence < c.nodes.size) (hitem : item < c.nodes.size)
    (hfuel : 4 * linesWeight c.build.lines + 1 ≤ fuel) :
    Shows (do readItems fuel sequence indent (some item) (← c.addContent sequence [item]))
      (Manifest.readItems fuel sequence indent (some item)
        (c.build.addContent sequence [item])) := by
  rw [Buffer.addContent, Buffer.modify_of_lt hsequence, ok_bind]
  refine ih.items sequence indent (some item) _ (by simpa using hsequence) ?_ hfuel
  rintro last hlast
  obtain rfl := Option.some.inj hlast
  simpa using hitem

/-- An item that has nothing behind its dash, and those behind it. -/
theorem shows_nestedItem (ih : Mirrored fuel) {sequence indent column : Nat} {line : Line}
    {lines : List Line} {v : InlineValue} (hlines : c.build.lines = line :: lines)
    (hsequence : sequence < c.nodes.size) (hfuel : 4 * linesWeight (line :: lines) ≤ fuel) :
    Shows
      (do
        let (id, d) ← readNested fuel indent false line.number column
          { c with cursor := c.cursor + 1, pending := [] }
        let d ← d.setItem c id line v
        readItems fuel sequence indent (some id) (← d.addContent sequence [id]))
      ((Manifest.readNested fuel indent false line.number column
        c.build.dropLine.clearPending).bind fun read =>
          Manifest.readItems fuel sequence indent (some read.1)
            ((read.2.setItem c.build read.1 line v).addContent sequence [read.1])) := by
  have hbelow : c.build.dropLine.clearPending.lines = lines := by
    show c.build.lines.drop 1 = lines
    rw [hlines]
    rfl
  have htail := linesWeight_tail line (List.suffix_refl lines)
  have hread := ih.nested indent false line.number column
    { c with cursor := c.cursor + 1, pending := [] } (by rw [c.build_skip, hbelow]; omega)
  rw [c.build_skip] at hread
  refine hread.bind ?_
  rintro ⟨id, d⟩ - hy
  obtain ⟨hid, hsize⟩ := lt_size_of_extends ((buildsTree fuel).nested hy)
  have hrest : d.build.lines <:+ c.build.dropLine.clearPending.lines :=
    (suffix_of_reads ((traces fuel).nested hy)).1
  have hless := linesWeight_le_of_suffix hrest
  obtain ⟨d', hset, hbuild⟩ := Buffer.exists_setItem c hid line v
  rw [hbelow] at hless
  dsimp only
  rw [hset, ok_bind, ← hbuild]
  have hnodes : d'.nodes.size = d.nodes.size := by
    show d'.build.nodes.size = d.nodes.size
    rw [hbuild]
    simp [Build.setItem, Build.setProperties, Build.modify, Buffer.build]
  have hrest' : d'.build.lines = d.build.lines := by
    rw [hbuild]
    rfl
  refine shows_moreItems ih (hnodes ▸ Nat.lt_of_lt_of_le hsequence hsize) (hnodes ▸ hid) ?_
  rw [hrest']
  omega

/-- An item that goes on behind its dash, and those behind it. -/
theorem shows_compactItem (ih : Mirrored fuel) {sequence indent column : Nat} {line : Line}
    {lines : List Line} (hlines : c.build.lines = line :: lines) (hkind : line.kind = .content)
    (hitem : isItem line.text = true) (hsequence : sequence < c.nodes.size)
    (hfuel : 4 * linesWeight (line :: lines) ≤ fuel) :
    Shows
      (do
        let (id, d) ← readNode fuel column
          (← c.setLine c.cursor
            { line with indent := column, text := trimStart (line.text.drop 1) })
        readItems fuel sequence indent (some id) (← d.addContent sequence [id]))
      ((Manifest.readNode fuel column (c.build.behindDash line lines column)).bind fun read =>
        Manifest.readItems fuel sequence indent (some read.1)
          (read.2.addContent sequence [read.1])) := by
  obtain ⟨d, hset, hbuild⟩ := Buffer.exists_setLine hlines
    { line with indent := column, text := trimStart (line.text.drop 1) }
  replace hbuild : d.build = c.build.behindDash line lines column := hbuild
  have htail := linesWeight_tail line (List.suffix_refl lines)
  have hat : d.build.IsAt column fun _ => True := by
    rw [hbuild]
    exact ⟨_, lines, rfl, hkind, rfl, trivial⟩
  have hread := ih.node column d hat (by
    have hdash := linesWeight_dash hitem lines column
    rw [hbuild]
    show 4 * linesWeight (_ :: lines) + 2 ≤ fuel
    omega)
  rw [hset, ok_bind, ← hbuild]
  refine hread.bind ?_
  rintro ⟨id, d'⟩ - hy
  obtain ⟨hid, hsize⟩ := lt_size_of_extends ((buildsTree fuel).node hy)
  have hrest : d'.build.lines <:+ d.build.lines.tail :=
    (suffix_of_reads ((traces fuel).node hy)).2 hat
  have hless := linesWeight_le_of_suffix hrest
  have htail' : d.build.lines.tail = lines := by
    rw [hbuild]
    rfl
  have hnodes : d.nodes.size = c.nodes.size := by
    show d.build.nodes.size = c.nodes.size
    rw [hbuild]
    rfl
  rw [htail'] at hless
  refine shows_moreItems ih ?_ hid (by omega)
  exact Nat.lt_of_lt_of_le (hnodes ▸ hsequence) hsize

theorem shows_readItems (ih : Mirrored fuel) {sequence indent : Nat} {last : Option Nat}
    (hsequence : sequence < c.nodes.size) (hlast : ∀ item ∈ last, item < c.nodes.size)
    (hfuel : 4 * linesWeight c.build.lines + 1 ≤ fuel + 1) :
    Shows (readItems (fuel + 1) sequence indent last c)
      (Manifest.readItems (fuel + 1) sequence indent last c.build) := by
  obtain ⟨d, hbuild, hnext⟩ := Buffer.exists_nextContent c
  have hnodes : d.nodes = c.nodes := congrArg Build.nodes hbuild
  have hweight := linesWeight_le_of_suffix c.build.toContent_suffix
  have hclose := shows_close (hnodes ▸ hlast) sequence indent
  rw [readItems]
  rcases hnext with ⟨hnext, hnil⟩ | ⟨line, lines, hnext, hlines⟩
  · rw [hnext, readItems_eq_close (by rw [← hbuild, hnil]; simp), ← hbuild]
    exact hclose
  have hlines' : c.build.toContent.lines = line :: lines := by rw [← hbuild, hlines]
  rw [hnext]
  dsimp only
  rw [Buffer.lineAt, Buffer.lineAt_cursor hlines, ofOption_some, ok_bind]
  by_cases hend : line.indent < indent ∨ line.indent = indent ∧ isItem line.text = false
  · rw [if_pos (by simpa using hend), readItems_eq_close (by simpa [hlines'] using hend), ← hbuild]
    exact hclose
  rw [if_neg (by simpa using hend)]
  by_cases hmore : indent < line.indent
  · rw [if_pos hmore, readItems_eq_error hlines' hmore]
    exact shows_fault rfl
  obtain ⟨hless, hno⟩ := not_or.1 hend
  have hindent : line.indent = indent := by omega
  have hitem : isItem line.text = true := by simpa [hindent] using hno
  have hkind : line.kind = .content := Build.kind_of_collect (Prod.ext rfl hlines')
  have hcolumn : indent + 1 + byteSize (line.text.drop 1) -
    byteSize (trimStart (line.text.drop 1)) = dashIndent line indent := rfl
  have hvalue : Manifest.splitValue (trimStart (line.text.drop 1)) = dashValue line := rfl
  rw [hlines'] at hweight
  rw [← hnodes] at hsequence
  rw [if_neg hmore, sliceFrom_dash hitem, ok_bind,
    sub_of_le (byteSize_trimStart_dash line.text indent), ok_bind, splitValue_eq, ok_bind, hcolumn,
    hvalue]
  by_cases hempty : (dashValue line).text.isEmpty = true
  · rw [if_pos hempty, readItems_eq_bind_nested hlines' hindent hitem hempty, ← hbuild]
    exact shows_nestedItem ih hlines hsequence (by omega)
  · rw [if_neg hempty, readItems_eq_bind_compact hlines' hindent hitem hempty, ← hbuild]
    exact shows_compactItem ih hlines hkind hitem hsequence (by omega)

end

/-- With as many steps as the weight of the lines demands, every reader does what it does with what
is left. -/
theorem mirrored (fuel : Nat) : Mirrored fuel := by
  induction fuel with
  | zero => exact mirrored_zero
  | succ fuel ih =>
    exact
      { node := fun _ _ hat hfuel => shows_readNode ih hat hfuel
        pairs := fun _ _ _ _ hmapping hlast hfuel => shows_readPairs ih hmapping hlast hfuel
        value := fun _ _ _ _ _ _ hcursor hline hrest hkey hfuel =>
          shows_readValue ih hcursor hline hrest hkey hfuel
        items := fun _ _ _ _ hsequence hlast hfuel => shows_readItems ih hsequence hlast hfuel
        nested := fun _ _ _ _ _ hfuel => shows_readNested ih hfuel }

end ManifestMarkers.Checked
