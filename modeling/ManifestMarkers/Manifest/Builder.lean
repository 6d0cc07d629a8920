import ManifestMarkers.Fault
import ManifestMarkers.Manifest.Node

/-!
# Building the tree of a manifest

The builder reads lines and adds nodes to the store, each before its content. Comment lines wait
until the node they belong to is known: the next key or item is below them, or the last key or item
of a collection that ends is above them.

A sequence item with content on its line is read again as a line of its own, with the indentation of
the content. So the text of the current line shrinks or a line is used up with every call, and the
weight of the lines bounds the depth of the recursion.
-/

namespace ManifestMarkers.Manifest

/-- A comment line that waits for its node. -/
structure Pending where
  indent : Nat
  line : Nat
  text : List Char
  deriving DecidableEq, Repr

/-- The comment of some comment lines. -/
def joinPending (ps : List Pending) : String :=
  String.ofList (Text.joinWith ['\n'] (ps.map Pending.text))

/-- Where some comment lines start. -/
def pendingPoints (ps : List Pending) : List Point := ps.map fun p => ⟨p.line, p.indent + 1, 0⟩

/-- The nodes so far, the lines that are left and the comments that wait. -/
structure Build where
  nodes : Array Node := #[]
  lines : List Line := []
  pending : List Pending := []
  deriving Repr

namespace Build

/-- Add a node. -/
def push (b : Build) (n : Node) : Nat × Build := (b.nodes.size, { b with nodes := b.nodes.push n })

/-- Change a node. -/
def modify (b : Build) (id : Nat) (f : Node → Node) : Build :=
  { b with nodes := b.nodes.modify id f }

/-- Collect comments up to the next content line. -/
def collect : List Pending → List Line → List Pending × List Line
  | pending, [] => (pending, [])
  | pending, line :: lines => match line.kind with
    | .comment => collect (pending ++ [⟨line.indent, line.number, line.text⟩]) lines
    | .content => (pending, line :: lines)
    | _ => collect pending lines

theorem collect_content {ps : List Pending} {line : Line} {lines : List Line}
    (h : line.kind = .content) : collect ps (line :: lines) = (ps, line :: lines) := by
  rw [collect, h]

/-- The lines that are left start with content. -/
theorem kind_of_collect {ps qs : List Pending} {line : Line} {lines rest : List Line}
    (h : collect ps lines = (qs, line :: rest)) : line.kind = .content := by
  induction lines generalizing ps with
  | nil => cases h
  | cons first lines ih =>
    rw [collect] at h
    split at h
    · exact ih h
    · next hkind =>
      cases h
      exact hkind
    · exact ih h

theorem collect_idem {ps qs : List Pending} {lines rest : List Line}
    (h : collect ps lines = (qs, rest)) : collect qs rest = (qs, rest) := by
  cases rest with
  | nil => rfl
  | cons line rest => exact collect_content (kind_of_collect h)

/-- Move to the next content line. -/
def toContent (b : Build) : Build :=
  let (pending, lines) := collect b.pending b.lines
  { b with pending, lines }

/-- Use up the current line. -/
def dropLine (b : Build) : Build := { b with lines := b.lines.drop 1 }

/-- Take the comments that wait as the head comment of a node. -/
def withHead (b : Build) (n : Node) : Node :=
  { n with headComment := joinPending b.pending, headPositions := pendingPoints b.pending }

/-- Forget the comments that wait. -/
def clearPending (b : Build) : Build := { b with pending := [] }

/-- Set the anchor and the tag of a node, if the value has them. -/
def setProperties (b : Build) (id : Nat) (v : InlineValue) : Build :=
  b.modify id fun n =>
    { n with
      anchor := (v.anchor.map String.ofList).or n.anchor
      tag := (v.tag.map String.ofList).or n.tag }

/-- Attach the comments that wait to the node above them, up to the first one that is indented less
than the collection or no deeper than the content that follows. -/
def attachFoot (b : Build) (id : Nat) (indent : Nat) : Build :=
  let next? := b.lines.head?.bind fun l => if l.kind = .content then some l.indent else none
  let stays (p : Pending) : Bool := p.indent < indent || next?.any (p.indent ≤ ·)
  let foot := b.pending.takeWhile (!stays ·)
  if foot.isEmpty then b
  else
    { b with pending := b.pending.drop foot.length }.modify id fun n =>
      { n with
        footComment :=
          (if n.footComment.isEmpty then "" else n.footComment ++ "\n") ++ joinPending foot
        footPositions := n.footPositions ++ pendingPoints foot }

end Build

/-! ### Scalars -/

/-- A layout fault on a line. -/
def layoutFault (number : Nat) (reason : LayoutFault) : Except Fault α :=
  .error (.layout number reason)

/-- The content of a scalar in quotes, decoded by the rules of YAML. -/
def decodeQuoted (text : List Char) : Except Fault (List Char) :=
  match Yaml.decodeString? text with
  | some cs => .ok cs
  | none => .error .undecodable

/-- The content of a single-quoted scalar on one line. -/
def decodeSingle (text : List Char) (number : Nat) : Except Fault (List Char) :=
  match text with
  | '\'' :: inner => match inner.reverse with
    | '\'' :: reversed => .ok (Text.replaceAll ['\'', '\''] ['\''] reversed.reverse)
    | _ => layoutFault number .unterminatedSingleQuoted
  | _ => layoutFault number .unterminatedSingleQuoted

/-- The content of a scalar. -/
def decodeScalar (text : List Char) (number : Nat) : Except Fault (List Char) :=
  match styleOf text with
  | .doubleQuoted => decodeQuoted text
  | .singleQuoted => if text.contains '\n' then decodeQuoted text else decodeSingle text number
  | _ => .ok text

/-- The lines that continue a plain scalar: content deeper than its parent. -/
def isContinuation (parent : Nat) (l : Line) : Bool := l.kind == .content && parent < l.indent

/-- The content and the text of a plain scalar, with the lines after it. -/
def plainScalar (text : List Char) (parent : Nat) (lines : List Line) :
    List Char × List Char × List Line :=
  let more := lines.takeWhile (isContinuation parent)
  (text ++ more.flatMap fun l => ' ' :: l.text, text ++ more.flatMap fun l => '\n' :: l.raw,
    lines.drop more.length)

/-- The text of a flow collection, with the lines after it. -/
def flowScalar (number : Nat) (depth : Int) (text : List Char) :
    List Line → Except Fault (List Char × List Line)
  | [] => if depth > 0 then layoutFault number .unterminatedFlow else .ok (text, [])
  | l :: lines =>
    if depth > 0 then
      flowScalar number (depth + flowDepth l.text) (text ++ '\n' :: l.raw) lines
    else .ok (text, l :: lines)

/-- Whether a line belongs to a block scalar. -/
def isBlockLine (parent : Nat) (l : Line) : Bool := l.kind == .blank || parent < l.indent

/-- The lines of a block scalar. Blank lines at its end are left for the next node. -/
def blockLines (parent : Nat) (lines : List Line) : List Line :=
  ((lines.takeWhile (isBlockLine parent)).reverse.dropWhile (·.kind == .blank)).reverse

/-- The content and the text of a block scalar, with the lines after it. -/
def blockScalar (header : List Char) (parent : Nat) (lines : List Line) :
    List Char × List Char × List Line :=
  let block := blockLines parent lines
  let indent := match block.find? (·.kind != .blank) with
    | some l => l.indent
    | none => 0
  let content := block.map fun l => (Text.dropBytes? l.raw indent).getD []
  let value := if header.head? == some '|' then Text.joinWith ['\n'] content else foldLines content
  let value := if !header.contains '-' && !content.isEmpty then value ++ ['\n'] else value
  (value, header ++ block.flatMap fun l => '\n' :: l.raw, lines.drop block.length)

/-- A quoted scalar that goes on over the next lines. `number` is the line it starts on. Gives its
text, the line it ends on with the comment there, and the lines after it. -/
def quotedLines (number : Nat) (text : List Char) :
    List Line → Except Fault (List Char × Option (Line × List Char) × List Line)
  | [] => layoutFault number .unterminatedQuoted
  | l :: lines =>
    let raw := text ++ '\n' :: l.raw
    match splitQuoted? raw with
    | none => quotedLines number raw lines
    | some (quoted, rest) =>
      let trailing := Text.trim rest
      match trailing with
      | [] => .ok (quoted, none, lines)
      | '#' :: _ => .ok (quoted, some (l, trailing), lines)
      | _ => layoutFault l.number .textAfterQuoted

/-- A quoted scalar. -/
def quotedScalar (number : Nat) (text : List Char) (lines : List Line) :
    Except Fault (List Char × Option (Line × List Char) × List Line) :=
  if (splitQuoted? text).isSome then .ok (text, none, lines) else quotedLines number text lines

/-- A scalar that starts on `line`, which is used up. Its further lines are indented deeper than
`parent`. -/
def scalarNode (v : InlineValue) (line : Line) (parent column : Nat) (lines : List Line) :
    Except Fault (Node × List Line) :=
  let base : Node :=
    { kind := .scalar
      line := line.number
      column
      style := styleOf v.text
      tag := v.tag.map String.ofList
      anchor := v.anchor.map String.ofList
      lineComment := String.ofList v.comment
      linePosition := line.commentPoint? v.comment }
  let finish (value raw : List Char) (n : Node) : Node :=
    { n with value := String.ofList value, raw := some (String.ofList raw) }
  match base.style with
  | .literal | .folded =>
    let (value, raw, lines) := blockScalar v.text parent lines
    .ok (finish value raw base, lines)
  | .flow => match flowScalar line.number (flowDepth v.text) v.text lines with
    | .ok (raw, lines) => .ok (finish raw raw base, lines)
    | .error e => .error e
  | .plain =>
    let (value, raw, lines) := plainScalar v.text parent lines
    .ok (finish value raw base, lines)
  | .singleQuoted | .doubleQuoted => match quotedScalar line.number v.text lines with
    | .error e => .error e
    | .ok (raw, comment, lines) => match decodeScalar raw line.number with
      | .error e => .error e
      | .ok value =>
        let n := match comment with
          | some (l, c) =>
            { base with lineComment := String.ofList c, linePosition := l.commentPoint? c }
          | none => base
        .ok (finish value raw n, lines)

/-! ### Collections -/

/-- A bound on the work that lines make: every line counts, and every character of its text. -/
def linesWeight : List Line → Nat
  | [] => 0
  | l :: lines => l.text.length + 2 + linesWeight lines

/-- A value that is not written. -/
def missingNode (line column : Nat) : Node := { kind := .scalar, line, column, raw := some "" }

/-- Read a scalar that takes the whole line. -/
def readScalarLine (indent : Nat) (line : Line) (b : Build) : Except Fault (Nat × Build) :=
  let v := splitValue line.text
  match scalarNode v line (indent - 1) (line.indent + 1) (b.lines.drop 1) with
  | .error e => .error e
  | .ok (n, lines) => .ok ({ b with lines }.clearPending.push (b.withHead n))

mutual

/-- Read the node that starts on the current line, at the given indentation. -/
def readNode : Nat → Nat → Build → Except Fault (Nat × Build)
  | 0, _, _ => .error .undecodable
  | fuel + 1, indent, b => match b.lines with
    | [] => .error .undecodable
    | line :: _ =>
      if isItem line.text then
        let (id, b) := b.push { kind := .sequence, line := line.number, column := indent + 1 }
        readItems fuel id indent none b
      else if (splitKey? line.text).isSome then
        let (id, b) := b.push { kind := .mapping, line := line.number, column := indent + 1 }
        readPairs fuel id indent none b
      else readScalarLine indent line b

/-- Read the pairs of a mapping. `last` is its last key so far. -/
def readPairs : Nat → Nat → Nat → Option Nat → Build → Except Fault (Nat × Build)
  | 0, _, _, _, _ => .error .undecodable
  | fuel + 1, mapping, indent, last, b =>
    let b := b.toContent
    let close : Except Fault (Nat × Build) := .ok (mapping, match last with
      | some key => b.attachFoot key indent
      | none => b)
    match b.lines with
    | [] => close
    | line :: _ =>
      if line.indent < indent then close
      else if indent < line.indent then layoutFault line.number .unexpectedIndentation
      else match splitKey? line.text with
        | none => if isItem line.text then close else layoutFault line.number .expectedKey
        | some (keyText, rest) => match decodeScalar keyText line.number with
          | .error e => .error e
          | .ok keyValue =>
            let (key, b') := b.dropLine.clearPending.push (b.withHead
              { kind := .scalar
                line := line.number
                column := indent + 1
                value := String.ofList keyValue
                style := styleOf keyText
                raw := some (String.ofList keyText) })
            match readValue fuel indent line key keyText rest b' with
            | .error e => .error e
            | .ok (value, b) =>
              readPairs fuel mapping indent (some key)
                (b.modify mapping fun n => { n with content := n.content ++ [key, value] })

/-- Read the value of a key: on its line, or on the lines below. -/
def readValue : Nat → Nat → Line → Nat → List Char → List Char → Build →
    Except Fault (Nat × Build)
  | 0, _, _, _, _, _, _ => .error .undecodable
  | fuel + 1, indent, line, key, keyText, rest, b =>
    let v := splitValue rest
    if v.text.isEmpty then
      let b := b.modify key fun n =>
        { n with
          lineComment := String.ofList v.comment
          linePosition := line.commentPoint? v.comment }
      let column := line.indent + Text.byteSize keyText + 2
      match readNested fuel indent true line.number column b with
      | .error e => .error e
      | .ok (id, b) => .ok (id, b.setProperties id v)
    else
      let column :=
        line.indent + Text.byteSize line.text - Text.byteSize (Text.trimStart rest) + 1
      match scalarNode v line indent column b.lines with
      | .error e => .error e
      | .ok (n, lines) => .ok ({ b with lines }.push n)

/-- Read the items of a sequence. `last` is its last item so far. -/
def readItems : Nat → Nat → Nat → Option Nat → Build → Except Fault (Nat × Build)
  | 0, _, _, _, _ => .error .undecodable
  | fuel + 1, sequence, indent, last, b =>
    let b := b.toContent
    let close : Except Fault (Nat × Build) := .ok (sequence, match last with
      | some item => b.attachFoot item indent
      | none => b)
    match b.lines with
    | [] => close
    | line :: lines =>
      if line.indent < indent || (line.indent == indent && !isItem line.text) then close
      else if indent < line.indent then layoutFault line.number .unexpectedIndentation
      else
        let rest := line.text.drop 1
        let content := Text.trimStart rest
        let contentIndent := indent + 1 + Text.byteSize rest - Text.byteSize content
        let v := splitValue content
        let item : Except Fault (Nat × Build) :=
          if v.text.isEmpty then
            match readNested fuel indent false line.number (contentIndent + 1)
                b.dropLine.clearPending with
            | .error e => .error e
            | .ok (id, b') =>
              .ok (id, (b'.setProperties id v).modify id fun n =>
                { b.withHead n with
                  lineComment := String.ofList v.comment
                  linePosition := line.commentPoint? v.comment })
          else
            readNode fuel contentIndent
              { b with lines := { line with indent := contentIndent, text := content } :: lines }
        match item with
        | .error e => .error e
        | .ok (id, b) =>
          readItems fuel sequence indent (some id)
            (b.modify sequence fun n => { n with content := n.content ++ [id] })

/-- Read the block value of a key or item that has nothing on its line. -/
def readNested : Nat → Nat → Bool → Nat → Nat → Build → Except Fault (Nat × Build)
  | 0, _, _, _, _, _ => .error .undecodable
  | fuel + 1, indent, allowSequence, number, column, b =>
    let b := b.toContent
    match b.lines with
    | line :: _ =>
      if indent < line.indent || (allowSequence && line.indent == indent && isItem line.text) then
        readNode fuel line.indent b
      else .ok (b.push (missingNode number column))
    | [] => .ok (b.push (missingNode number column))

end

/-- Read one document from its lines. -/
def readDocument (nodes : Array Node) (lines : List Line) : Except Fault (Root × Array Node) :=
  let b := { nodes, lines : Build }.toContent
  match b.lines with
  | [] => .ok ({ comment := joinPending b.pending }, b.nodes)
  | line :: _ => match readNode (4 * linesWeight b.lines + 4) line.indent b with
    | .error e => .error e
    | .ok (id, b) =>
      let b := b.toContent
      match b.lines with
      | line :: _ => layoutFault line.number .unexpectedContent
      | [] => .ok ({ node := some id, comment := joinPending b.pending }, b.nodes)

end ManifestMarkers.Manifest
