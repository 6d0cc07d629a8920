import ManifestMarkers.Yaml.Scanner

/-!
# YAML events

The structure of a document as a flat sequence of events: scalars, aliases, and the start and end of
each collection. A node that is not written is an empty plain scalar.

`documents?` is the list of documents of a stream, or nothing if the stream is malformed.
-/

namespace ManifestMarkers.Yaml

/-- The anchor and the tag of a node. -/
structure Properties where
  anchor : Option (List Char) := none
  tag : Option (List UInt8) := none
  deriving DecidableEq, Repr

/-- An event of a document. -/
inductive Event
  | alias (name : List Char)
  | scalar (props : Properties) (text : List Char) (style : Style)
  | sequenceStart (props : Properties)
  | sequenceEnd
  | mappingStart (props : Properties)
  | mappingEnd
  deriving DecidableEq, Repr

/-- The tag directives in force: handles with what they stand for. -/
abbrev Handles := List (List Char × List UInt8)

/-- The handles every document has. -/
def defaultHandles : Handles :=
  [(['!'], loneTag), (['!', '!'], tagBytes "tag:yaml.org,2002:".toList)]

/-- The tokens that are left and the events so far. -/
structure Parse where
  tokens : List Token
  events : Array Event := #[]
  deriving Repr

namespace Parse

/-- Skip the next token. -/
def skip (p : Parse) : Parse := { p with tokens := p.tokens.drop 1 }

/-- Add an event. -/
def emit (p : Parse) (e : Event) : Parse := { p with events := p.events.push e }

/-- Add the empty scalar of a node that is not written. -/
def emitEmpty (p : Parse) : Parse := p.emit (.scalar {} [] .plain)

/-- Whether the next token is one of the list. -/
def nextIn (p : Parse) (ts : List Token) : Bool :=
  match p.tokens with
  | t :: _ => ts.contains t
  | [] => false

/-- The full tag of a handle and a suffix. -/
def resolveTag? (handles : Handles) (handle : List Char) (suffix : List UInt8) :
    Option (List UInt8) :=
  if handle.isEmpty then some suffix else (handles.lookup handle).map (· ++ suffix)

/-- Read an anchor and a tag, in either order. -/
def readProperties (handles : Handles) (p : Parse) : Option (Properties × Parse) :=
  match p.tokens with
  | .anchor a :: .tag h s :: _ | .tag h s :: .anchor a :: _ =>
    (resolveTag? handles h s).map fun tag => (⟨some a, some tag⟩, p.skip.skip)
  | .anchor a :: _ => some (⟨some a, none⟩, p.skip)
  | .tag h s :: _ => (resolveTag? handles h s).map fun tag => (⟨none, some tag⟩, p.skip)
  | _ => some ({}, p)

/-- A node of some context, as a reader. -/
abbrev NodeReader := Parse → Option Parse

/-- A node unless one of `ends` is next, where it is not written. -/
def nodeUnless (ends : List Token) (node : NodeReader) (p : Parse) : Option Parse :=
  if p.nextIn ends then some p.emitEmpty else node p

/-- The entries of a block sequence. -/
def blockSequence (node : NodeReader) : Nat → Parse → Option Parse
  | 0, _ => none
  | fuel + 1, p => match p.tokens with
    | .blockEntry :: _ =>
      (nodeUnless [.blockEntry, .blockEnd] node p.skip).bind (blockSequence node fuel)
    | .blockEnd :: _ => some (p.skip.emit .sequenceEnd)
    | _ => none

/-- The entries of a block sequence at the indentation of its key. -/
def indentlessSequence (node : NodeReader) : Nat → Parse → Option Parse
  | 0, _ => none
  | fuel + 1, p => match p.tokens with
    | .blockEntry :: _ =>
      (nodeUnless [.blockEntry, .key, .value, .blockEnd] node p.skip).bind
        (indentlessSequence node fuel)
    | _ => some (p.emit .sequenceEnd)

/-- The value after a key of a block mapping. -/
def blockValue (node : NodeReader) (p : Parse) : Option Parse :=
  match p.tokens with
  | .value :: _ => nodeUnless [.key, .value, .blockEnd] node p.skip
  | _ => some p.emitEmpty

/-- The pairs of a block mapping. -/
def blockMapping (node : NodeReader) : Nat → Parse → Option Parse
  | 0, _ => none
  | fuel + 1, p => match p.tokens with
    | .key :: _ =>
      ((nodeUnless [.key, .value, .blockEnd] node p.skip).bind (blockValue node)).bind
        (blockMapping node fuel)
    | .blockEnd :: _ => some (p.skip.emit .mappingEnd)
    | _ => none

/-- The comma between two entries of a flow collection. -/
def flowComma (isFirst : Bool) (p : Parse) : Option Parse :=
  if isFirst then some p
  else match p.tokens with
    | .flowEntry :: _ => some p.skip
    | _ => none

/-- A pair inside a flow sequence, after its key token. A key that is not written takes the token
after it along. -/
def flowPair (node : NodeReader) (p : Parse) : Option Parse := do
  let ends := [Token.value, .flowEntry, .flowSequenceEnd]
  let p := p.emit (.mappingStart {})
  let p ← if p.nextIn ends then some p.skip.emitEmpty else node p
  let p ← match p.tokens with
    | .value :: _ => nodeUnless [.flowEntry, .flowSequenceEnd] node p.skip
    | _ => some p.emitEmpty
  return p.emit .mappingEnd

/-- The entries of a flow sequence. -/
def flowSequence (node : NodeReader) : Nat → Bool → Parse → Option Parse
  | 0, _, _ => none
  | fuel + 1, isFirst, p => match p.tokens with
    | .flowSequenceEnd :: _ => some (p.skip.emit .sequenceEnd)
    | _ => do
      let p ← flowComma isFirst p
      match p.tokens with
      | .flowSequenceEnd :: _ => some (p.skip.emit .sequenceEnd)
      | .key :: _ => (flowPair node p.skip).bind (flowSequence node fuel false)
      | _ => (node p).bind (flowSequence node fuel false)

/-- The value after a key of a flow mapping. -/
def flowValue (node : NodeReader) (p : Parse) : Option Parse :=
  match p.tokens with
  | .value :: _ => nodeUnless [.flowEntry, .flowMappingEnd] node p.skip
  | _ => some p.emitEmpty

/-- The pairs of a flow mapping. -/
def flowMapping (node : NodeReader) : Nat → Bool → Parse → Option Parse
  | 0, _, _ => none
  | fuel + 1, isFirst, p => match p.tokens with
    | .flowMappingEnd :: _ => some (p.skip.emit .mappingEnd)
    | _ => do
      let p ← flowComma isFirst p
      match p.tokens with
      | .flowMappingEnd :: _ => some (p.skip.emit .mappingEnd)
      | .key :: _ =>
        let p ← nodeUnless [.value, .flowEntry, .flowMappingEnd] node p.skip
        (flowValue node p).bind (flowMapping node fuel false)
      | _ => do
        let p ← node p
        flowMapping node fuel false p.emitEmpty

/-- A node. `block` allows block collections, `indentless` a sequence at the indentation of its key.
The fuel bounds the depth. -/
def node (handles : Handles) : Nat → Bool → Bool → Parse → Option Parse
  | 0, _, _, _ => none
  | fuel + 1, block, indentless, p =>
    let inBlock := node handles fuel true false
    let inMapping := node handles fuel true true
    let inFlow := node handles fuel false false
    match p.tokens with
    | .alias name :: _ => some (p.skip.emit (.alias name))
    | _ => do
      let (props, p) ← readProperties handles p
      let room := p.tokens.length + 1
      match p.tokens, block, indentless with
      | .blockEntry :: _, _, true =>
        indentlessSequence inBlock room (p.emit (.sequenceStart props))
      | .scalar text style :: _, _, _ => some (p.skip.emit (.scalar props text style))
      | .flowSequenceStart :: _, _, _ =>
        flowSequence inFlow room true (p.skip.emit (.sequenceStart props))
      | .flowMappingStart :: _, _, _ =>
        flowMapping inFlow room true (p.skip.emit (.mappingStart props))
      | .blockSequenceStart :: _, true, _ =>
        blockSequence inBlock room (p.skip.emit (.sequenceStart props))
      | .blockMappingStart :: _, true, _ =>
        blockMapping inMapping room (p.skip.emit (.mappingStart props))
      | _, _, _ => if props = {} then none else some (p.emit (.scalar props [] .plain))

/-! ### Documents -/

/-- Read the directives in front of a document. `version` says that one gave a version. -/
def directives (version : Bool) (handles : Handles) : List Token → Option (Handles × List Token)
  | .versionDirective major minor :: ts =>
    if version || major != 1 || (minor != 1 && minor != 2) then none
    else directives true handles ts
  | .tagDirective handle lead :: ts =>
    if (handles.lookup handle).isSome then none
    else directives version ((handle, lead) :: handles) ts
  | ts => some (handles, ts)

/-- The content of an explicit document; it may be missing. -/
def content (handles : Handles) (p : Parse) : Option Parse :=
  match p.tokens with
  | [] | .versionDirective .. :: _ | .tagDirective .. :: _ | .documentStart :: _
  | .documentEnd :: _ => some p.emitEmpty
  | _ => node handles (p.tokens.length + 1) true false p

/-- Skip one document end. -/
def skipEnd : List Token → List Token
  | .documentEnd :: ts => ts
  | ts => ts

/-- One document at the start of the tokens, which are not empty: its events and the tokens after
it. Only the first document may start without an indicator. -/
def document (isFirst : Bool) (ts : List Token) : Option (List Event × List Token) :=
  let explicit : Option (List Event × List Token) := do
    let (handles, ts) ← directives false [] ts
    match ts with
    | .documentStart :: ts =>
      let p ← content (handles ++ defaultHandles) { tokens := ts }
      return (p.events.toList, skipEnd p.tokens)
    | _ => none
  match ts with
  | .versionDirective .. :: _ | .tagDirective .. :: _ | .documentStart :: _ => explicit
  | _ =>
    if isFirst then
      (node defaultHandles (ts.length + 1) true false { tokens := ts }).map fun p =>
        (p.events.toList, skipEnd p.tokens)
    else none

/-- The documents of the remaining tokens. -/
def documents : Nat → Bool → List Token → Option (List (List Event))
  | 0, _, _ => none
  | fuel + 1, isFirst, ts =>
    let ts := if isFirst then ts else ts.dropWhile (· == .documentEnd)
    if ts.isEmpty then some []
    else do
      let (events, ts) ← document isFirst ts
      let more ← documents fuel false ts
      return events :: more

end Parse

/-- The documents of a stream, each as its events. -/
def documents? (cs : List Char) : Option (List (List Event)) := do
  let tokens ← scan? cs
  Parse.documents (tokens.length + 2) true tokens

end ManifestMarkers.Yaml
