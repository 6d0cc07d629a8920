import ManifestMarkers.Registry
import Mathlib.Data.List.Nodup

/-!
# Registries with an index

A registry that is looked up often keeps an index next to its definitions: a hash table with the
place of every path in the list. Both are changed together, after everything has been checked.
-/

namespace ManifestMarkers

/-- Definitions in their order, with the place of each path. -/
structure IndexedRegistry where
  definitions : List Definition := []
  index : Std.HashMap String Nat := {}

namespace IndexedRegistry

/-- Add a definition whose path is new. Gives the definition or the fault, and the registry as it is
left behind. -/
def add (r : IndexedRegistry) (d : Definition) : Except Fault Definition × IndexedRegistry :=
  if r.index.contains d.path then (.error (.duplicatePath d.path), r)
  else
    (.ok d, { definitions := r.definitions ++ [d]
              index := r.index.insert d.path r.definitions.length })

/-- Define a path. It has to be well formed and new. -/
def define (r : IndexedRegistry) (path : String) (variant : Variant) :
    Except Fault Definition × IndexedRegistry :=
  if !isPath path then (.error (.invalidPath path), r) else r.add ⟨path, variant⟩

/-- The definition of exactly this path. -/
def get? (r : IndexedRegistry) (path : String) : Option Definition :=
  match r.index[path]? with
  | some place => r.definitions[place]?
  | none => none

end IndexedRegistry

end ManifestMarkers
