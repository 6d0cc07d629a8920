import ManifestMarkers.Fault
import ManifestMarkers.Path
import ManifestMarkers.Settings.Reader

/-!
# Files

Reading goes through a record of two questions: whether a path names a file, and what the file
holds. A tree in memory answers them the way a file system does; the settings of a project are found
through them.
-/

namespace ManifestMarkers

/-- Why a file cannot be read as text. -/
inductive ReadFault
  | notFound
  /-- A component before the end of the path is a file. -/
  | notDirectory
  | isDirectory
  /-- A component has more than 255 bytes. -/
  | nameTooLong
  | zeroInName
  | notText
  /-- Any other reason the system gives. -/
  | other (reason : String)
  deriving DecidableEq, Repr

/-- The wording of a fault. -/
def ReadFault.text : ReadFault → String
  | notFound => "No such file or directory (os error 2)"
  | notDirectory => "Not a directory (os error 20)"
  | isDirectory => "Is a directory (os error 21)"
  | nameTooLong => "File name too long (os error 36)"
  | zeroInName => "file name contained an unexpected NUL byte"
  | notText => "stream did not contain valid UTF-8"
  | other reason => reason

/-- How files are read. -/
structure Files where
  isFile : String → Bool
  read : String → Except ReadFault String

namespace Files

/-- The files that were looked at before: a path is a file if `isFile` was true of it. -/
def ofList (found : List (String × Bool × Except ReadFault String)) : Files where
  isFile path := match found.lookup path with
    | some (isFile, _) => isFile
    | none => false
  read path := match found.lookup path with
    | some (_, content) => content
    | none => .error .notFound

/-- The file with the settings of a project, if there is one. -/
def settingsPath? (files : Files) (root : String) : Option String :=
  (Settings.candidates.map (Path.join root)).find? files.isFile

/-- The settings of a project, if there are any. -/
def settings? (files : Files) (root : String) : Except Fault (Option Settings) :=
  match files.settingsPath? root with
  | none => .ok none
  | some path => match files.read path with
    | .error _ => .error .unreadable
    | .ok text => (Settings.parse text).map some

end Files

/-! ### A tree in memory -/

/-- What stands at a place. -/
inductive Entry
  | file (content : ByteArray)
  | directory

/-- Files and directories by their components from the root of the file system. -/
structure FileTree where
  /-- The place that relative paths start from. -/
  workingDirectory : List String
  entries : List (List String × Entry)

namespace FileTree

/-- What stands at a place. A place above an entry is a directory. -/
def entry? (t : FileTree) (place : List String) : Option Entry :=
  match t.entries.find? (·.1 == place) with
  | some (_, e) => some e
  | none =>
    if place.isEmpty || place.isPrefixOf t.workingDirectory ||
        t.entries.any fun e => place.isPrefixOf e.1 then
      some .directory
    else none

/-- Follow the parts of a path from a place. Only directories lead further. -/
def walk (t : FileTree) (place : List String) : List (List Char) → Except ReadFault Entry
  | [] => match t.entry? place with
    | some e => .ok e
    | none => .error .notFound
  | part :: parts => match t.entry? place with
    | none => .error .notFound
    | some (.file _) => .error .notDirectory
    | some .directory =>
      if Path.isVoid part then t.walk place parts
      else if part = ['.', '.'] then t.walk place.dropLast parts
      else if 255 < Text.byteSize part then .error .nameTooLong
      else t.walk (place ++ [String.ofList part]) parts

/-- What a path names. -/
def resolve (t : FileTree) (path : String) : Except ReadFault Entry :=
  let cs := path.toList
  if cs.isEmpty then .error .notFound
  else if cs.contains '\x00' then .error .zeroInName
  else t.walk (if Path.isAbsolute cs then [] else t.workingDirectory) (Text.splitOn '/' cs)

/-- The files of a tree. -/
def files (t : FileTree) : Files where
  isFile path := match t.resolve path with
    | .ok (.file _) => true
    | _ => false
  read path := match t.resolve path with
    | .error e => .error e
    | .ok .directory => .error .isDirectory
    | .ok (.file content) => match String.fromUTF8? content with
      | some text => .ok text
      | none => .error .notText

/-- The entry that a relative name stands for: a directory if it ends in a separator. -/
def entryOf (workingDirectory : List String) (name : String) (content : ByteArray) :
    List String × Entry :=
  let place := workingDirectory ++
    (Path.components name.toList).map String.ofList
  (place, if name.toList.getLast? == some '/' then .directory else .file content)

end FileTree

end ManifestMarkers
