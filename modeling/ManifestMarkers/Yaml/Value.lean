import ManifestMarkers.Yaml.Event
import ManifestMarkers.Float64

/-!
# YAML values

A decoded document. Plain scalars are resolved to null, truth values, numbers or strings; tags of
the core schema ask for one of these, and local tags are kept.

* `Value.same` is the equality of keys, for which the order of pairs does not matter.
* `Decoder.node` decodes the node at an event. Aliases are followed; how often and how deep is
  bounded.
-/

namespace ManifestMarkers.Yaml

/-- A decoded value. -/
inductive Value
  | null
  | bool (b : Bool)
  | int (i : Int)
  | float (f : Float64)
  | string (s : String)
  | sequence (items : List Value)
  | mapping (pairs : List (Value × Value))
  | tagged (tag : String) (v : Value)
  deriving Repr, Inhabited

namespace Value

mutual

/-- Equality of values. Mappings are equal whatever the order of their pairs. -/
def same : Value → Value → Bool
  | null, null => true
  | bool a, bool b => a == b
  | int a, int b => a == b
  | float a, float b => a.same b
  | string a, string b => a == b
  | sequence as, sequence bs => sameItems as bs
  | mapping as, mapping bs => as.length == bs.length && pairsIn as bs
  | tagged s a, tagged t b => s == t && same a b
  | _, _ => false

/-- Equality of items, one by one. -/
def sameItems : List Value → List Value → Bool
  | [], [] => true
  | a :: as, b :: bs => same a b && sameItems as bs
  | _, _ => false

/-- Whether every pair has an equal one in the other list. -/
def pairsIn : List (Value × Value) → List (Value × Value) → Bool
  | [], _ => true
  | (k, v) :: as, bs => bs.any (fun p => same k p.1 && same v p.2) && pairsIn as bs

end

end Value

/-! ### Plain scalars -/

/-- The text without the lead, if it starts with it. -/
def afterText? (lead : String) (cs : List Char) : Option (List Char) := Text.after? lead.toList cs

/-- A numeral with leading zeros is no number. -/
def hasLeadingZero (cs : List Char) : Bool :=
  let digits := match cs with
    | '-' :: cs | '+' :: cs => cs
    | cs => cs
  match digits with
  | '0' :: c :: cs => (c :: cs).all Char.isDigit
  | _ => false

/-- The natural number of a numeral, decimal or in a base that its start names, below `bound`. -/
def unsigned? (bound : Nat) (cs : List Char) : Option Nat :=
  let bare := match cs with
    | '+' :: cs => cs
    | cs => cs
  let inBase (lead : String) (base : Nat) : Option Nat :=
    ((afterText? lead bare).bind (Text.natIn? base)).filter (· < bound)
  let decimal : Option Nat :=
    if hasLeadingZero cs then none else (Text.natIn? 10 bare).filter (· < bound)
  (inBase "0x" 16 <|> inBase "0o" 8 <|> inBase "0b" 2 <|> decimal)

/-- The negative integer of a numeral, down to `-bound`. -/
def negative? (bound : Nat) (cs : List Char) : Option Int :=
  let inBase (lead : String) (base : Nat) : Option Nat :=
    ((afterText? lead cs).bind (Text.natIn? base)).filter (· ≤ bound)
  let decimal : Option Nat :=
    if hasLeadingZero cs then none
    else ((afterText? "-" cs).bind (Text.natIn? 10)).filter (· ≤ bound)
  (inBase "-0x" 16 <|> inBase "-0o" 8 <|> inBase "-0b" 2 <|> decimal).map fun n => -(n : Int)

/-- What a numeral stands for. -/
inductive Integer
  /-- An integer that fits in 64 bits, signed or not. -/
  | fits (i : Int)
  /-- An integer that fits in 128 bits only; no value holds it. -/
  | tooLarge
  deriving DecidableEq, Repr

/-- The integer of a numeral. -/
def integer? (cs : List Char) : Option Integer :=
  match unsigned? (Nat.pow 2 64) cs, negative? (Nat.pow 2 63) cs with
  | some n, _ => some (.fits n)
  | none, some i => some (.fits i)
  | none, none =>
    if (unsigned? (Nat.pow 2 128) cs).isSome || (negative? (Nat.pow 2 127) cs).isSome then
      some .tooLarge
    else none

/-- The finite number of a decimal with optional sign, point and exponent. -/
def decimal? (cs : List Char) : Option Float64 :=
  let (negative, cs) := match cs with
    | '-' :: cs => (true, cs)
    | '+' :: cs => (false, cs)
    | cs => (false, cs)
  let whole := cs.takeWhile Char.isDigit
  let rest := cs.dropWhile Char.isDigit
  let (places, rest) := match rest with
    | '.' :: rest => (rest.takeWhile Char.isDigit, rest.dropWhile Char.isDigit)
    | rest => ([], rest)
  let exponent? : Option Int := match rest with
    | [] => some 0
    | c :: rest =>
      if c == 'e' || c == 'E' then
        match rest with
        | '-' :: ds => (Text.natIn? 10 ds).map fun n => -(n : Int)
        | '+' :: ds => (Text.natIn? 10 ds).map Int.ofNat
        | ds => (Text.natIn? 10 ds).map Int.ofNat
      else none
  match Text.natIn? 10 (whole ++ places), exponent? with
  | some digits, some e => match Float64.ofDecimal negative digits (e - places.length) with
    | .finite n m e => some (.finite n m e)
    | _ => none
  | _, _ => none

/-- The floating-point number of a scalar. -/
def float? (cs : List Char) : Option Float64 :=
  let bare := match cs with
    | '+' :: cs => cs
    | cs => cs
  let signed := match bare with
    | '+' :: _ | '-' :: _ => true
    | _ => false
  if cs.head? == some '+' && signed then none
  else match String.ofList bare with
    | ".inf" | ".Inf" | ".INF" => some (.infinite false)
    | "-.inf" | "-.Inf" | "-.INF" => some (.infinite true)
    | _ => match String.ofList cs with
      | ".nan" | ".NaN" | ".NAN" => some .nan
      | _ => decimal? bare

/-- Whether a plain scalar is null. -/
def isNull (cs : List Char) : Bool :=
  match String.ofList cs with
  | "null" | "Null" | "NULL" | "~" => true
  | _ => false

/-- The truth value of a scalar. -/
def bool? (cs : List Char) : Option Bool :=
  match String.ofList cs with
  | "true" | "True" | "TRUE" => some true
  | "false" | "False" | "FALSE" => some false
  | _ => none

/-- What a plain scalar without tag stands for; nothing if no value can hold it. -/
def plainValue? (cs : List Char) : Option Value :=
  if cs.isEmpty || isNull cs then some .null
  else match bool? cs with
    | some b => some (.bool b)
    | none => match integer? cs with
      | some (.fits i) => some (.int i)
      | some .tooLarge => none
      | none => match (if hasLeadingZero cs then none else float? cs) with
        | some f => some (.float f)
        | none => some (.string (String.ofList cs))

/-! ### Nodes -/

/-- The tag of the core schema with the given name. -/
def coreTag (name : String) : List UInt8 := tagBytes ("tag:yaml.org,2002:" ++ name).toList

/-- The name of a local tag, without its exclamation mark. Bytes that are no text name
nothing. -/
def localTag? (tag : Option (List UInt8)) : Option String :=
  match tag with
  | some (mark :: name) =>
    if mark != 0x21 then none
    else if name.isEmpty then some "!"
    else String.fromUTF8? ⟨name.toArray⟩
  | _ => none

/-- The value of a scalar. A tag of the core schema asks for a type, a local tag for none, and any
other tag for a string. -/
def scalarValue? (tag : Option (List UInt8)) (cs : List Char) (style : Style) : Option Value :=
  let plain := if style == .plain then plainValue? cs else some (.string (String.ofList cs))
  match tag with
  | some tag =>
    if tag == coreTag "bool" then (bool? cs).map .bool
    else if tag == coreTag "int" then
      match integer? cs with
      | some (.fits i) => some (.int i)
      | _ => none
    else if tag == coreTag "float" then (float? cs).map .float
    else if tag == coreTag "null" then if isNull cs then some .null else none
    else if tag.head? == some 0x21 then plain
    else some (.string (String.ofList cs))
  | none => plain

/-- Put a local tag around a value. -/
def withTag (tag : Option String) (v : Value) : Value :=
  match tag with
  | some t => .tagged ("!" ++ t) v
  | none => v

/-- A document with the events its aliases refer to. -/
structure Graph where
  events : Array Event
  /-- The event of each anchor number, the last one first. -/
  targets : List (Nat × Nat)
  /-- The anchor number of each alias event. -/
  references : List (Nat × Nat)
  deriving Repr

namespace Graph

/-- The anchor of an event. -/
def anchor? : Event → Option (List Char)
  | .scalar props _ _ | .sequenceStart props | .mappingStart props => props.anchor
  | _ => none

/-- Number the anchors of the remaining events. A new anchor takes the number of names known so far;
an alias refers to the number its name has when it is read. -/
def number (position : Nat) (names : List (List Char × Nat)) (g : Graph) :
    List Event → Option Graph
  | [] => some g
  | .alias name :: es => match names.lookup name with
    | some id =>
      number (position + 1) names { g with references := (position, id) :: g.references } es
    | none => none
  | e :: es => match anchor? e with
    | some name =>
      let id := names.length
      number (position + 1) ((name, id) :: names.filter (·.1 != name))
        { g with targets := (id, position) :: g.targets } es
    | none => number (position + 1) names g es

/-- The graph of a document, unless an alias has no anchor. -/
def ofEvents? (events : List Event) : Option Graph :=
  number 0 [] ⟨events.toArray, [], []⟩ events

/-- The event an alias refers to. -/
def target? (g : Graph) (position : Nat) : Option Nat :=
  (g.references.lookup position).bind fun id => g.targets.lookup id

end Graph

namespace Decoder

/-- How deep collections may be nested. -/
def maxDepth : Nat := 128

/-- How many aliases may be followed for each event. -/
def maxJumps : Nat := 100

/-- A decoder: from the number of aliases followed and an event to a value, the number of aliases
followed and the event after the node. -/
abbrev Decode := Nat → Nat → Option (Value × Nat × Nat)

/-- The items of a sequence. -/
def items (g : Graph) (decode : Decode) : Nat → Nat → Nat → Option (List Value × Nat × Nat)
  | 0, _, _ => none
  | fuel + 1, jumps, place => match g.events[place]? with
    | some .sequenceEnd => some ([], jumps, place + 1)
    | _ => do
      let (v, jumps, next) ← decode jumps place
      let (vs, jumps, next) ← items g decode fuel jumps next
      return (v :: vs, jumps, next)

/-- The pairs of a mapping. A key may not occur twice. -/
def pairs (g : Graph) (decode : Decode) : Nat → List (Value × Value) → Nat → Nat →
    Option (List (Value × Value) × Nat × Nat)
  | 0, _, _, _ => none
  | fuel + 1, done, jumps, place => match g.events[place]? with
    | some .mappingEnd => some (done.reverse, jumps, place + 1)
    | _ => do
      let (k, jumps, next) ← decode jumps place
      if done.any (·.1.same k) then none
      else
        let (v, jumps, next) ← decode jumps next
        pairs g decode fuel ((k, v) :: done) jumps next

/-- The node at an event that is no alias. `collections` decodes what the node holds, if the depth
allows collections. -/
def concrete (g : Graph) (collections : Option Decode) : Decode := fun jumps place =>
  let room := g.events.size + 1
  match g.events[place]? with
  | some (.scalar props text style) =>
    (scalarValue? props.tag text style).map fun v =>
      (withTag (localTag? props.tag) v, jumps, place + 1)
  | some (.sequenceStart props) => do
    let (vs, jumps, next) ← items g (← collections) room jumps (place + 1)
    return (withTag (localTag? props.tag) (.sequence vs), jumps, next)
  | some (.mappingStart props) => do
    let (ps, jumps, next) ← pairs g (← collections) room [] jumps (place + 1)
    return (withTag (localTag? props.tag) (.mapping ps), jumps, next)
  | _ => none

/-- The node at an event, where an alias stands for the node of its anchor. -/
def followed (g : Graph) (collections : Option Decode) : Decode := fun jumps place =>
  match g.events[place]? with
  | some (.alias _) =>
    if jumps + 1 > g.events.size * maxJumps then none
    else do
      let target ← g.target? place
      let (v, jumps, _) ← concrete g collections (jumps + 1) target
      return (v, jumps, place + 1)
  | _ => concrete g collections jumps place

/-- The node at an event, with at most `depth` collections around each other. -/
def node (g : Graph) : Nat → Decode
  | 0 => followed g none
  | depth + 1 => followed g (some (node g depth))

/-- The value of a document. -/
def document (events : List Event) : Option Value := do
  let g ← Graph.ofEvents? events
  let (v, _, _) ← node g maxDepth 0 0
  return v

end Decoder

/-! ### Streams -/

/-- The values of all documents of a text. A stream without documents has none. -/
def decodeAll? (text : List Char) : Option (List Value) := do
  (← documents? text).mapM Decoder.document

/-- The value of a text that holds one document, or none at all. -/
def decode? (text : List Char) : Option Value := do
  match ← documents? text with
  | [] => some .null
  | [events] => Decoder.document events
  | _ => none

/-- The text of a document that is a single scalar. -/
def decodeString? (text : List Char) : Option (List Char) := do
  match ← documents? text with
  | [[.scalar _ cs _]] => some cs
  | _ => none

end ManifestMarkers.Yaml
