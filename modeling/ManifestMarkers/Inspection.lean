import ManifestMarkers.Manifest
import ManifestMarkers.Marker.Reader

/-!
# Markers in the comments of a manifest

Comments annotate a node or a pair of a mapping. An inspection visits these targets in the order of
the manifest and reads the markers in their comments; the first fault ends it.
-/

namespace ManifestMarkers

/-- What a comment annotates. -/
inductive Target
  | node (id : Nat)
  /-- A pair of a mapping. -/
  | pair (key value : Nat)
  deriving DecidableEq, Repr

namespace Target

/-- The nodes whose comments belong to the target. -/
def nodes : Target → List Nat
  | node id => [id]
  | pair key value => [key, value]

/-- The node that comes first: the key of a pair. -/
def key : Target → Nat
  | node id => id
  | pair key _ => key

/-- The node that holds the value. -/
def value : Target → Nat
  | node id => id
  | pair _ value => value

end Target

/-- A marker and the target that it annotates. -/
structure Finding where
  path : String
  marker : Marker
  target : Target
  /-- The comment text that the marker was read from. -/
  raw : String
  /-- Where the marker stands in the comment text. -/
  position : Point
  /-- The line of the node that has the comment. -/
  line : Nat
  deriving Repr

/-- What the comments of a manifest hold. -/
structure Inspection where
  findings : List Finding := []
  warnings : List Warning := []
  deriving Repr

namespace Manifest

/-- The pairs of the content of a mapping. -/
def pairsOf : List Nat → List (Nat × Nat)
  | k :: v :: rest => (k, v) :: pairsOf rest
  | _ => []

/-- The targets below a node, each before the targets below it. The fuel bounds the depth. -/
def targetsBelow (m : Manifest) : Nat → Nat → List Target
  | 0, _ => []
  | fuel + 1, id => match m.node? id with
    | none => []
    | some n => match n.kind with
      | .mapping =>
        (pairsOf n.content).flatMap fun (k, v) => .pair k v :: m.targetsBelow fuel v
      | _ => n.content.flatMap fun item => .node item :: m.targetsBelow fuel item

/-- The targets of all documents. -/
def targets (m : Manifest) : List Target :=
  m.roots.flatMap fun root => .node root :: m.targetsBelow (m.nodes.size + 1) root

end Manifest

namespace Inspection

/-- One inspection after another. -/
def append (a b : Inspection) : Inspection :=
  ⟨a.findings ++ b.findings, a.warnings ++ b.warnings⟩

/-- The place in the manifest of a place in the comment text of a node. -/
def placeIn (n : Manifest.Node) (p : Point) : Point :=
  match n.commentPosition? p.line with
  | some start => ⟨start.line, start.column + p.column - 1, 0⟩
  | none => ⟨n.line, n.column, 0⟩

/-- A fault in the comment text of a node as a fault of the manifest. -/
def faultIn (n : Manifest.Node) (cause : Fault) : Fault :=
  let place := match cause.position? with
    | some p => placeIn n p
    | none => ⟨n.line, n.column, 0⟩
  .inManifest place.line place.column cause

/-- A warning about the comment text of a node as one about the manifest. -/
def warningIn (n : Manifest.Node) (w : Warning) : Warning :=
  let place := placeIn n ⟨w.line, w.column, 0⟩
  { w with line := place.line, column := place.column }

/-- Whether a text mentions a marker of the registry. -/
def mentionsMarker (registry : Registry) (text : List Char) : Bool :=
  registry.paths.any fun path => Text.occursIn path.toList text

/-- The marker with the value that it annotates, if that is a scalar. -/
def withValue (value? : Option Manifest.Node) (m : Marker) : Marker :=
  match value? with
  | some n => if n.isScalar then m.mapField fun f => { f with manifestValue := some n.value } else m
  | none => m

/-- Read the markers in the comments of one node of a target. -/
def ofNode (registry : Registry) (target : Target) (value? : Option Manifest.Node)
    (n : Manifest.Node) : Except Fault Inspection :=
  let raw := n.commentText
  if mentionsMarker registry raw.toList then
    match parseMarkers registry raw with
    | .error e => .error (faultIn n e)
    | .ok (markers, warnings) =>
      .ok {
        findings := markers.map fun found =>
          { path := found.path
            marker := withValue value? found.marker
            target
            raw
            position := found.position
            line := n.line }
        warnings := warnings.map (warningIn n) }
  else .ok {}

/-- Inspect things one after the other, up to the first fault. -/
def gather (inspect : α → Except Fault Inspection) : List α → Except Fault Inspection
  | [] => .ok {}
  | x :: xs => match inspect x with
    | .error e => .error e
    | .ok first => match gather inspect xs with
      | .error e => .error e
      | .ok rest => .ok (first.append rest)

/-- Read the markers in the comments of a target. -/
def ofTarget (registry : Registry) (m : Manifest) (target : Target) : Except Fault Inspection :=
  gather (ofNode registry target (m.node? target.value)) (target.nodes.filterMap m.node?)

end Inspection

/-- Read the markers in the comments of a manifest. -/
def Manifest.inspect (m : Manifest) (registry : Registry) : Except Fault Inspection :=
  Inspection.gather (Inspection.ofTarget registry m) m.targets

end ManifestMarkers
