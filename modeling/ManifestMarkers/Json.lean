import ManifestMarkers.Text.Basic

/-!
# Writing JSON

Documents with members in a chosen order, and their indented form.
-/

namespace ManifestMarkers

/-- A JSON document. -/
inductive Json
  | bool (b : Bool)
  | int (i : Int)
  | string (s : String)
  | array (items : List Json)
  | object (members : List (String × Json))
  deriving Repr, Inhabited

namespace Json

/-- A four-digit hexadecimal number. -/
def hexFour (n : Nat) : List Char :=
  let digits := Nat.toDigits 16 n
  List.replicate (4 - digits.length) '0' ++ digits

/-- One character inside a JSON string. -/
def escapeChar (c : Char) : List Char :=
  match c with
  | '"' => ['\\', '"']
  | '\\' => ['\\', '\\']
  | '\n' => ['\\', 'n']
  | '\r' => ['\\', 'r']
  | '\t' => ['\\', 't']
  | '\x08' => ['\\', 'b']
  | '\x0c' => ['\\', 'f']
  | c => if c.val < 0x20 then '\\' :: 'u' :: hexFour c.toNat else [c]

/-- A text as a JSON string. -/
def stringText (cs : List Char) : List Char := '"' :: (cs.flatMap escapeChar ++ ['"'])

/-- Spaces for a level of nesting. -/
def margin (level : Nat) : List Char := List.replicate (2 * level) ' '

/-- The parts of a collection on lines of their own; an empty collection stays on its line. -/
def bracketed (opening closing : Char) (level : Nat) (parts : List (List Char)) : List Char :=
  if parts.isEmpty then [opening, closing]
  else
    let lines := parts.map (margin (level + 1) ++ ·)
    opening :: '\n' :: (Text.joinWith [',', '\n'] lines ++ '\n' :: (margin level ++ [closing]))

mutual

/-- The indented form, at a level of nesting. -/
def prettyAt (level : Nat) : Json → List Char
  | bool b => (if b then "true" else "false").toList
  | int i => (toString i).toList
  | string s => stringText s.toList
  | array items => bracketed '[' ']' level (itemsAt (level + 1) items)
  | object members => bracketed '\x7b' '\x7d' level (membersAt (level + 1) members)

/-- The indented forms of the items of an array. -/
def itemsAt (level : Nat) : List Json → List (List Char)
  | [] => []
  | j :: js => prettyAt level j :: itemsAt level js

/-- The indented forms of the members of an object. -/
def membersAt (level : Nat) : List (String × Json) → List (List Char)
  | [] => []
  | (key, j) :: ms =>
    (stringText key.toList ++ ':' :: ' ' :: prettyAt level j) :: membersAt level ms

end

/-- The indented form of a document. -/
def pretty (j : Json) : String := String.ofList (prettyAt 0 j)

end Json

end ManifestMarkers
