import Introspect.Text.Utf8

/-!
# Files

A root with files and directories under it. Paths are texts whose names are separated by slashes;
they are resolved name by name from the root, which is its own parent, and a name is only looked for
in a directory that exists. A file is written whole.
-/

namespace Introspect.Storage

open Text

/-- The names from the root down to an entry. -/
abbrev Location := List String

/-- Why the system refuses what it is asked. -/
inductive FileError
  | notFound
  | exists
  | notDirectory
  | isDirectory
  | nameTooLong
  | nulByte
  | notUtf8
deriving Repr, DecidableEq

/-- The text of the error. -/
def FileError.message : FileError → String
  | .notFound => "No such file or directory (os error 2)"
  | .exists => "File exists (os error 17)"
  | .notDirectory => "Not a directory (os error 20)"
  | .isDirectory => "Is a directory (os error 21)"
  | .nameTooLong => "File name too long (os error 36)"
  | .nulByte => "file name contained an unexpected NUL byte"
  | .notUtf8 => "stream did not contain valid UTF-8"

/-- What stands at a location. -/
inductive Entry
  | directory
  | file (bytes : Utf8.Bytes)
deriving Repr, DecidableEq

/-- The entries below the root; of two at one location the first counts. -/
structure Disk where
  entries : List (Location × Entry) := []
deriving Repr, DecidableEq

namespace Disk

/-- What stands at a location. The root itself is always there. -/
def at? (d : Disk) (l : Location) : Option Entry :=
  if l.isEmpty then some .directory else d.entries.lookup l

/-- Sets an entry, in place of an earlier one. -/
def put (d : Disk) (l : Location) (e : Entry) : Disk :=
  { entries := (l, e) :: d.entries.filter fun x => x.1 ≠ l }

/-- The names in a path; slashes side by side have an empty name between them. -/
def splitPath : List Char → List (List Char)
  | [] => [[]]
  | c :: rest =>
      if c = '/' then [] :: splitPath rest
      else
        match splitPath rest with
        | w :: ws => (c :: w) :: ws
        | [] => [[c]]

/-- The names in a path. -/
def pathNames (path : String) : List String := (splitPath path.toList).map String.ofList

/-- What no system call accepts. -/
def refused? (path : String) : Option FileError :=
  if path.toList.contains '\x00' then some .nulByte
  else if path.isEmpty then some .notFound
  else if (pathNames path).any fun n => n.utf8ByteSize > 255 then some .nameTooLong
  else none

/-- One name further, from a location that must be a directory. -/
def step (d : Disk) (l : Location) (name : String) : Except FileError Location :=
  match d.at? l with
  | none => .error .notFound
  | some (.file _) => .error .notDirectory
  | some .directory =>
      if name = "" ∨ name = "." then .ok l
      else if name = ".." then .ok l.dropLast
      else .ok (l ++ [name])

/-- The location of a path, whether anything stands there or not. -/
def resolve (d : Disk) (path : String) : Except FileError Location :=
  match refused? path with
  | some e => .error e
  | none => (pathNames path).foldlM d.step []

/-- The bytes of a file. -/
def readBytes (d : Disk) (path : String) : Except FileError Utf8.Bytes := do
  match d.at? (← d.resolve path) with
  | none => .error .notFound
  | some .directory => .error .isDirectory
  | some (.file bytes) => .ok bytes

/-- The text of a file; other bytes than those of a text are an error. -/
def readText (d : Disk) (path : String) : Except FileError String := do
  match Utf8.decode? (← d.readBytes path) with
  | some cs => .ok (String.ofList cs)
  | none => .error .notUtf8

/-- Whether a path leads to a directory. -/
def isDirectory (d : Disk) (path : String) : Bool :=
  match d.resolve path with
  | .ok l => d.at? l = some .directory
  | .error _ => false

/-- Pieces of a path from its last one, without those at the end that name nothing. A dot names
something only at the very start. -/
def trimPieces : List (List Char) → List (List Char)
  | [] => []
  | p :: rest => if p = [] ∨ (p = ['.'] ∧ rest ≠ []) then trimPieces rest else p :: rest

/-- The path without its last name. -/
def parent (path : String) : String :=
  let pieces := trimPieces (splitPath path.toList).reverse
  "/".intercalate ((trimPieces (pieces.drop 1)).reverse.map String.ofList)

/-- Whether a path ends in a slash after a name. -/
def endsInSlash (path : String) : Bool := path.toList.getLast? = some '/'

/-- Writes a file whole; its directory must be there. -/
def write (d : Disk) (path : String) (bytes : Utf8.Bytes) : Except FileError Disk := do
  if let some e := refused? path then .error e
  let bare := String.ofList (path.toList.reverse.dropWhile (· = '/')).reverse
  let l ← d.resolve bare
  match d.at? l with
  | some .directory => .error .isDirectory
  | some (.file _) => if endsInSlash path then .error .notDirectory else .ok (d.put l (.file bytes))
  | none => if endsInSlash path then .error .isDirectory else .ok (d.put l (.file bytes))

/-- Makes a directory in one that is there. -/
def makeDirectory (d : Disk) (path : String) : Except FileError Disk := do
  if let some e := refused? path then .error e
  let bare := String.ofList (path.toList.reverse.dropWhile (· = '/')).reverse
  let l ← d.resolve bare
  match d.at? l with
  | some _ => .error .exists
  | none => .ok (d.put l .directory)

/-- A path and the paths above it, nearest first; at most `fuel` of them. -/
def ancestors (path : String) : Nat → List String
  | 0 => []
  | fuel + 1 => if path.isEmpty then [] else path :: ancestors (parent path) fuel

/-- The paths that have to be made, nearest first, before the first that could be made or is there
already. -/
def missing (d : Disk) : List String → Except FileError (List String × Disk)
  | [] => .ok ([], d)
  | path :: rest =>
      match d.makeDirectory path with
      | .ok d => .ok ([], d)
      | .error .notFound => do
          let (paths, d) ← d.missing rest
          return (path :: paths, d)
      | .error .exists => if d.isDirectory path then .ok ([], d) else .error .exists
      | .error e => .error e

/-- Makes the directories from the last to the first; one that is there is left as it is. -/
def makeAll : Disk → List String → Except FileError Disk
  | d, [] => .ok d
  | d, path :: rest => do
      let d ← makeAll d rest
      match d.makeDirectory path with
      | .ok d => .ok d
      | .error .exists => if d.isDirectory path then .ok d else .error .exists
      | .error e => .error e

/-- Makes a directory and those above it that are missing. -/
def makeDirectories (d : Disk) (path : String) : Except FileError Disk := do
  let (paths, d) ← d.missing (ancestors path (path.length + 1))
  d.makeAll paths

/-- Writes a file, making its directory if need be. The directory stays when the file cannot be
written. -/
def save (d : Disk) (path : String) (bytes : Utf8.Bytes) : Except FileError Unit × Disk :=
  let dir := parent path
  match if dir.isEmpty then .ok d else d.makeDirectories dir with
  | .error e => (.error e, d)
  | .ok made =>
      match made.write path bytes with
      | .error e => (.error e, made)
      | .ok written => (.ok (), written)

end Disk

end Introspect.Storage
