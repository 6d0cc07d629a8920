import ManifestMarkers.Registry

/-!
# Reading markers

Markers are read from lexemes by a machine that takes one lexeme after the other. It stops at the
first fault and at the first terminal lexeme, so nothing after either can matter.

* `Reader.step` takes one lexeme, `Reader.finish` the end of the sequence.
* `readMarkers` is all that a sequence of lexemes yields.
-/

namespace ManifestMarkers

/-- Text that looks like a marker and has no scope. -/
structure Warning where
  message : String
  line : Nat
  column : Nat
  deriving DecidableEq, Repr

/-- A marker with its path and the place of its plus sign. -/
structure FoundMarker where
  path : String
  marker : Marker
  position : Point
  deriving Repr

/-- What reading yields. -/
inductive Item
  | marker (found : FoundMarker)
  /-- A marker whose path is not registered. -/
  | noMatch (path : String) (position : Point)
  | warning (w : Warning)
  | fault (f : Fault)
  deriving Repr

namespace Reader

/-- The path of scope segments. -/
def pathOf (scopes : List String) : String := "+" ++ Text.joinStrings ":" scopes

/-- A warning lexeme as a warning. -/
def warningOf (l : Lexeme) : Warning := ⟨l.value, l.position.line, l.position.column⟩

/-- An error lexeme as a fault. -/
def faultOf (l : Lexeme) : Fault := .malformed l.value l.position

/-- The fault of a lexeme that cannot stand where it does. -/
def unexpected (l : Lexeme) : Fault :=
  .malformed ("unexpected " ++ l.text ++ " at position: " ++ l.position.text) l.position

/-- The value of decimal digits, continuing from `value`. -/
def digitsValueFrom? (value : Nat) : List Char → Option Nat
  | [] => some value
  | c :: cs => if c.isDigit then digitsValueFrom? (10 * value + (c.toNat - '0'.toNat)) cs else none

/-- The value of decimal digits, of which there is at least one. -/
def digitsValue? (cs : List Char) : Option Nat :=
  if cs.isEmpty then none else digitsValueFrom? 0 cs

/-- The integer a numeral stands for, if it fits in 64 bits. -/
def integer? (text : String) : Option Int :=
  match text.toList with
  | '-' :: cs => match digitsValue? cs with
    | some n => if n ≤ Nat.pow 2 63 then some (-n) else none
    | none => none
  | '+' :: cs => match digitsValue? cs with
    | some n => if n < Nat.pow 2 63 then some n else none
    | none => none
  | cs => match digitsValue? cs with
    | some n => if n < Nat.pow 2 63 then some n else none
    | none => none

/-- The value of a scalar lexeme by its own kind. -/
def naturalLiteral (l : Lexeme) : Except Fault Literal :=
  match l.kind with
  | .integerLiteral => match integer? l.value with
    | some i => .ok (.int i)
    | none =>
      .error (.malformed ("integer literal " ++ Text.quoted l.value ++
        " out of range at position: " ++ l.position.text) l.position)
  | .boolLiteral => .ok (.bool (l.value == "true"))
  | _ => .ok (.string l.value)

/-- The value of a scalar lexeme for an argument. String arguments keep the text. -/
def scalar (name : String) (kind : ArgKind) (l : Lexeme) : Except Fault Literal :=
  if kind = .string then .ok (.string l.value)
  else match naturalLiteral l with
    | .error e => .error e
    | .ok literal =>
      match kind, literal with
      | .any, _ | .int, .int _ | .bool, .bool _ => .ok literal
      | _, _ => .error (.mismatchedType name kind.text literal.kind.text l.position)

/-- A marker whose arguments are being read. -/
structure OpenMarker where
  definition : Definition
  /-- The place of the plus sign. -/
  position : Point
  marker : Marker
  /-- The names of the arguments so far. -/
  seen : List String := []
  deriving Repr

/-- What the machine is reading. -/
inductive Mode
  /-- Between markers. -/
  | idle
  /-- The path of the marker at `position`. -/
  | header (position : Point) (scopes : List String)
  /-- The rest of a marker that is not registered. -/
  | skipping (position : Point) (path : String)
  /-- The value of the argument named at `named`. -/
  | value (m : OpenMarker) (spec : ArgSpec) (named : Point)
  /-- The elements of a slice that `start` opened, so far. -/
  | slice (m : OpenMarker) (spec : ArgSpec) (element : ArgKind) (start : Lexeme)
      (items : List Literal)
  /-- What follows a complete argument. -/
  | argument (m : OpenMarker)
  deriving Repr

/-- The outcome of one lexeme: the next mode, with what was found, or a fault. -/
inductive Outcome
  | go (found : Option Item) (next : Mode)
  | stop (fault : Fault)
  deriving Repr

/-- Begin the argument named by the lexeme. -/
def beginArg (m : OpenMarker) (l : Lexeme) : Outcome :=
  match m.definition.arg? l.value with
  | none => .stop (.unknownArgument l.value m.definition.path l.position)
  | some spec =>
    if m.seen.contains spec.name then
      .stop (.duplicateArgument l.value m.definition.path l.position)
    else .go none (.value m spec l.position)

/-- Set an argument whose value is complete. -/
def endArg (m : OpenMarker) (spec : ArgSpec) (value : Literal) : Outcome :=
  match m.marker.setArg spec.name value with
  | .ok marker => .go none (.argument { m with marker, seen := m.seen ++ [spec.name] })
  | .error e => .stop e

/-- Close a marker: all required arguments are there and the checks hold. -/
def close (m : OpenMarker) : Except Fault FoundMarker :=
  match m.definition.variant.args.find? fun s => !s.isOptional && !m.seen.contains s.name with
  | some missing => .error (.missingArgument missing.name m.definition.path)
  | none => match m.marker.validate m.position with
    | (marker, none) => .ok ⟨m.definition.path, marker, m.position⟩
    | (_, some e) => .error e

/-- Close a marker and go on. -/
def closed (m : OpenMarker) : Outcome :=
  match close m with
  | .ok found => .go (some (.marker found)) .idle
  | .error e => .stop e

/-- Take one lexeme. -/
def step (registry : Registry) (mode : Mode) (l : Lexeme) : Outcome :=
  match mode with
  | .idle => match l.kind with
    | .markerStart => .go none (.header l.position [])
    | .warning => .go (some (.warning (warningOf l))) .idle
    | .error => .stop (faultOf l)
    | _ => .go none .idle
  | .header position scopes => match l.kind with
    | .scope => .go none (.header position (scopes ++ [l.value]))
    | .arg => match registry.get? (pathOf scopes) with
      | some d => beginArg { definition := d, position, marker := d.variant.zero } l
      | none => .go none (.skipping position (pathOf scopes))
    | .warning => .go (some (.warning (warningOf l))) .idle
    | .error =>
      if registry.couldMatch (pathOf scopes) then .stop (faultOf l)
      else .go (some (.noMatch (pathOf scopes) position)) .idle
    | .eof | .markerEnd => .go (some (.noMatch (pathOf scopes) position)) .idle
    | _ => .go none mode
  | .skipping position path => match l.kind with
    | .markerEnd | .eof | .error => .go (some (.noMatch path position)) .idle
    | _ => .go none mode
  | .value m spec _ => match l.kind with
    | .stringLiteral | .integerLiteral | .boolLiteral => match scalar spec.name spec.kind l with
      | .ok literal => endArg m spec literal
      | .error e => .stop e
    | .sliceBegin => match spec.kind.element? with
      | some element => .go none (.slice m spec element l [])
      | none => .stop (.mismatchedType spec.name spec.kind.text "slice" l.position)
    | .error => .stop (faultOf l)
    | _ => .stop (unexpected l)
  | .slice m spec element start items => match l.kind with
    | .sliceEnd => endArg m spec (.slice items)
    | .sliceDelimiter => .go none mode
    | .stringLiteral | .integerLiteral | .boolLiteral => match scalar spec.name element l with
      | .ok literal => .go none (.slice m spec element start (items ++ [literal]))
      | .error e => .stop e
    | .error => .stop (faultOf l)
    | _ => .stop (unexpected l)
  | .argument m => match l.kind with
    | .arg => beginArg m l
    | .markerEnd | .eof => closed m
    | .error => .stop (faultOf l)
    | _ => .stop (unexpected l)

/-- What the end of the sequence yields. -/
def finish (mode : Mode) : Option Item :=
  match mode with
  | .idle => none
  | .header position scopes => some (.noMatch (pathOf scopes) position)
  | .skipping position path => some (.noMatch path position)
  | .value _ spec named =>
    some (.fault (.malformed ("missing value for argument `" ++ spec.name ++ "` at position: " ++
      named.text) named))
  | .slice _ _ _ start _ => some (.fault (unexpected start))
  | .argument m => match close m with
    | .ok found => some (.marker found)
    | .error e => some (.fault e)

/-- Take lexemes up to the first fault, the first terminal lexeme or the end. -/
def run (registry : Registry) (mode : Mode) : List Lexeme → List Item
  | [] => (finish mode).toList
  | l :: ls => match step registry mode l with
    | .stop e => [.fault e]
    | .go found next =>
      found.toList ++ if l.kind.isTerminal then [] else run registry next ls

end Reader

/-- All that the lexemes yield. -/
def readMarkers (registry : Registry) (lexemes : List Lexeme) : List Item :=
  Reader.run registry .idle lexemes

/-- Markers and warnings among the items, or the first fault. -/
def collectItems : List Item → Except Fault (List FoundMarker × List Warning)
  | [] => .ok ([], [])
  | .fault e :: _ => .error e
  | .marker found :: items => (collectItems items).map fun r => (found :: r.1, r.2)
  | .warning w :: items => (collectItems items).map fun r => (r.1, w :: r.2)
  | .noMatch _ _ :: items => collectItems items

/-- The registered markers of a text, with the warnings about text that only looks like one. -/
def parseMarkers (registry : Registry) (text : String) :
    Except Fault (List FoundMarker × List Warning) :=
  collectItems (readMarkers registry (Lexeme.lex text))

end ManifestMarkers
