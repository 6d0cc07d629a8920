import ManifestMarkers.Float64

/-!
# Values of a TOML document

Tables remember how they came to be, because that decides who may add to them: a header may define a
table once, dotted keys may add to tables that dotted keys made, and nothing may add to an inline
table.

* `descend` changes the table at a path and makes the tables on the way that are missing.
-/

namespace ManifestMarkers.Toml

/-- How a table came to be. -/
inductive Origin
  /-- By a header of its own, or as the document. -/
  | header
  /-- By the header of a table below it. -/
  | implied
  /-- By a dotted key. -/
  | dotted
  /-- By an inline table. -/
  | inline
  deriving DecidableEq, Repr

/-- A value. -/
inductive Value
  | string (s : String)
  | integer (i : Int)
  | float (f : Float64)
  /-- A number that is too large for any of the two. -/
  | tooLarge
  | bool (b : Bool)
  /-- A date, a time or both. -/
  | datetime (text : String)
  /-- An array; `ofTables` if headers made it. -/
  | array (ofTables : Bool) (items : List Value)
  | table (origin : Origin) (members : List (String × Value))
  deriving Repr, Inhabited

/-- The members of a table. -/
abbrev Members := List (String × Value)

namespace Members

/-- The value of a key. -/
def get? (ms : Members) (key : String) : Option Value := (ms.find? (·.1 == key)).map Prod.snd

/-- Set the value of a key that is there, or add the key at the end. -/
def set (key : String) (v : Value) : Members → Members
  | [] => [(key, v)]
  | (k, w) :: ms => if k = key then (key, v) :: ms else (k, w) :: set key v ms

end Members

/-- Replace the last item. -/
def setLast (v : Value) (items : List Value) : List Value := items.dropLast ++ [v]

/-- Change the table at a path below a table. Tables on the way are made if they are missing. A
dotted path, as opposed to that of a header, does not lead through tables with a header; of an array
of tables it is the last table that counts. -/
def descend (isDotted : Bool) (change : Origin → Members → Option Members) :
    List String → Origin → Members → Option Members
  | [], origin, ms => change origin ms
  | key :: path, _, ms => match ms.get? key with
    | none =>
      let origin := if isDotted then .dotted else .implied
      (descend isDotted change path origin []).map fun inner => ms.set key (.table origin inner)
    | some (.table origin inner) =>
      if origin = .inline ∨ (isDotted ∧ origin = .header) then none
      else (descend isDotted change path origin inner).map fun inner =>
        ms.set key (.table origin inner)
    | some (.array true items) => match items.getLast? with
      | some (.table origin inner) => (descend isDotted change path origin inner).map fun inner =>
        ms.set key (.array true (setLast (.table origin inner) items))
      | _ => none
    | some _ => none

/-- Add a pair to a table, under a key that may be dotted. The last table on the way belongs to the
same kind of key, and the key is new. -/
def addPair (path : List String) (key : String) (v : Value) (origin : Origin) (ms : Members) :
    Option Members :=
  descend true (fun origin ms =>
    if (origin == .dotted) = path.isEmpty then none
    else match ms.get? key with
      | some _ => none
      | none => some (ms.set key v)) path origin ms

/-- Define the table of a header. A table that is there must have been implied only. -/
def openTable (path : List String) (key : String) (ms : Members) : Option Members :=
  descend false (fun _ ms => match ms.get? key with
    | none => some (ms.set key (.table .header []))
    | some (.table .implied inner) => some (ms.set key (.table .header inner))
    | some _ => none) path .header ms

/-- Add a table to the array of tables of a header. -/
def openItem (path : List String) (key : String) (ms : Members) : Option Members :=
  descend false (fun _ ms => match ms.get? key with
    | none => some (ms.set key (.array true [.table .header []]))
    | some (.array true items) => some (ms.set key (.array true (items ++ [.table .header []])))
    | some _ => none) path .header ms

/-- Add a pair to the table of a header. -/
def addBelow (header path : List String) (key : String) (v : Value) (ms : Members) :
    Option Members :=
  descend false (addPair path key v) header .header ms

end ManifestMarkers.Toml
