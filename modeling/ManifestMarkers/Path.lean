import ManifestMarkers.Text.Basic

/-!
# Paths of files

Paths are texts with `/` between their parts. Empty parts and `.` are void: `a//b/.` and `a/b` have
the same components. Only a `.` at the very start is a component, and so is the root.
-/

namespace ManifestMarkers.Path

/-- Whether a path starts at the root of the file system. -/
def isAbsolute (path : List Char) : Bool := path.head? == some '/'

/-- Join two paths: an absolute path stands alone, and no second separator is written. -/
def joinChars (root path : List Char) : List Char :=
  if isAbsolute path || root.isEmpty then path
  else if root.getLast? == some '/' then root ++ path
  else root ++ '/' :: path

/-- A path below a root. -/
def join (root path : String) : String := String.ofList (joinChars root.toList path.toList)

/-- Whether a part is no component. -/
def isVoid (part : List Char) : Bool := part.isEmpty || part == ['.']

/-- The component that a path starts with apart from its parts: the root or a `.`. -/
def lead (path : List Char) : List Char :=
  match path with
  | '/' :: _ => ['/']
  | ['.'] | '.' :: '/' :: _ => ['.']
  | _ => []

/-- The parts of a path after its lead. -/
def parts (path : List Char) : List (List Char) := Text.splitOn '/' (path.drop (lead path).length)

/-- The components of a path. -/
def components (path : List Char) : List (List Char) :=
  (if (lead path).isEmpty then [] else [lead path]) ++ (parts path).filter (!isVoid ·)

/-- The parts after a number of components. -/
def dropComponents : Nat → List (List Char) → List (List Char)
  | 0, ps => ps
  | _ + 1, [] => []
  | n + 1, p :: ps => if isVoid p then dropComponents (n + 1) ps else dropComponents n ps

/-- Remove void parts at the end. -/
def trimVoid (ps : List (List Char)) : List (List Char) := (ps.reverse.dropWhile isVoid).reverse

/-- The path from a root on, if it is below it. What is left is written as it was, without
separators and void parts around it. -/
def below? (root path : List Char) : Option (List Char) :=
  let outer := components root
  if outer.isPrefixOf (components path) then
    match outer.length with
    | 0 => some (lead path ++ Text.joinWith ['/'] (trimVoid (parts path)))
    | n + 1 =>
      let rest := dropComponents (if (lead path).isEmpty then n + 1 else n) (parts path)
      some (Text.joinWith ['/'] (trimVoid (rest.dropWhile isVoid)))
  else none

/-- A path as it is shown for a project: from the root of the project on, if it is below it. -/
def relative (root path : String) : String :=
  match below? root.toList path.toList with
  | some rest => String.ofList rest
  | none => path

end ManifestMarkers.Path
