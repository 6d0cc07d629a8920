import ManifestMarkers.Fault
import ManifestMarkers.Settings
import ManifestMarkers.Toml.Reader

/-!
# Reading settings

Settings are a TOML document. Only keys of the document itself must be known; the tables in it may
have further keys. A table may also be given as an array of its values in order.
-/

namespace ManifestMarkers.Settings

open Toml (Value Members)

/-- The text of a value. -/
def string? : Value → Option String
  | .string s => some s
  | _ => none

/-- The truth value of a value. -/
def bool? : Value → Option Bool
  | .bool b => some b
  | _ => none

mutual

/-- Whether no number in a value is too large. -/
def isHeld : Value → Bool
  | .tooLarge => false
  | .array _ items => areHeld items
  | .table _ members => membersHeld members
  | _ => true

/-- Whether no number in some items is too large. -/
def areHeld : List Value → Bool
  | [] => true
  | v :: vs => isHeld v && areHeld vs

/-- Whether no number in some members is too large. -/
def membersHeld : List (String × Value) → Bool
  | [] => true
  | (_, v) :: ms => isHeld v && membersHeld ms

end

/-- A value under a key of a table or at a place of an array, `fallback` if it is missing. -/
def member? (read : Value → Option α) (fallback : α) (v? : Option Value) : Option α :=
  match v? with
  | some v => read v
  | none => some fallback

/-- Two values, by their keys in a table or by their order in an array. A date is a table without
any of the keys. -/
def both? (read : Value → Option α) (keys : String × String) (fallback : α × α) :
    Value → Option (α × α)
  | .table _ ms =>
    let others := ms.filter fun m => m.1 != keys.1 && m.1 != keys.2
    match member? read fallback.1 (Members.get? ms keys.1),
      member? read fallback.2 (Members.get? ms keys.2) with
    | some a, some b => if membersHeld others then some (a, b) else none
    | _, _ => none
  | .array _ items =>
    match member? read fallback.1 items[0]?, member? read fallback.2 items[1]? with
    | some a, some b => some (a, b)
    | _, _ => none
  | .datetime _ => some fallback
  | _ => none

/-- The placeholders of a value. -/
def placeholders? (v : Value) : Option Placeholders :=
  let fallback : Placeholders := {}
  (both? string? ("parent", "collection") (fallback.parent, fallback.collection) v).map
    fun (parent, collection) => { parent, collection }

/-- The collection of a value. -/
def collection? (v : Value) : Option Collection :=
  (both? bool? ("enabled", "resources") (false, false) v).map
    fun (enabled, resources) => { enabled, resources }

/-- The resources of a value. -/
def resources? : Value → Option (List String)
  | .array _ items => items.mapM string?
  | _ => none

/-- The settings of a document. -/
def ofMembers? (ms : Members) : Option Settings :=
  if ms.all fun m => m.1 == "resources" || m.1 == "placeholders" || m.1 == "collection" then
    match member? resources? [] (ms.get? "resources"),
      member? placeholders? {} (ms.get? "placeholders"),
      member? collection? {} (ms.get? "collection") with
    | some resources, some placeholders, some collection =>
      some { resources, placeholders, collection }
    | _, _, _ => none
  else none

/-- Read settings. -/
def parse (text : String) : Except Fault Settings :=
  match (Toml.parse? text).bind ofMembers? with
  | some s => .ok s
  | none => .error .invalidSettings

end ManifestMarkers.Settings
