import DocblockSync.Path

/-! The files and directories that the command works on. A location is the list of names that leads
from the root to an entry; paths are resolved against a working directory, step by step. -/

namespace DocblockSync

/-- What a file holds: a text, or bytes that are no text. -/
inductive Content where
  | text (text : Text)
  | binary (bytes : List UInt8)
  deriving Repr, DecidableEq

def Content.ofBytes (bytes : ByteArray) : Content :=
  match String.fromUTF8? bytes with
  | some decoded => .text decoded.toList
  | none => .binary bytes.toList

inductive Entry where
  | directory
  | file (content : Content)
  deriving Repr, DecidableEq

/-- The names from the root to an entry. -/
abbrev Location := List Text

inductive DiskError where
  | notFound
  | notADirectory
  | isADirectory
  | alreadyExists
  | notUtf8
  deriving Repr, DecidableEq

def DiskError.message : DiskError → Text
  | .notFound => "No such file or directory (os error 2)".toList
  | .notADirectory => "Not a directory (os error 20)".toList
  | .isADirectory => "Is a directory (os error 21)".toList
  | .alreadyExists => "File exists (os error 17)".toList
  | .notUtf8 => "stream did not contain valid UTF-8".toList

/-- Entries by location; the first one of a location counts. -/
structure Disk where
  entries : List (Location × Entry)
  deriving Repr, DecidableEq

namespace Disk

def empty : Disk := ⟨[]⟩

/-- The entry at a location; the root is always a directory. -/
def get? (disk : Disk) (location : Location) : Option Entry :=
  match location with
  | [] => some .directory
  | _ => disk.entries.lookup location

def put (disk : Disk) (location : Location) (entry : Entry) : Disk :=
  if disk.entries.any fun found => found.1 == location then
    ⟨disk.entries.map fun found => if found.1 == location then (location, entry) else found⟩
  else ⟨disk.entries ++ [(location, entry)]⟩

/-- Follows the segments of a path. Each step needs a directory to start from; the last one may lead
to where nothing is yet. -/
def follow (disk : Disk) (location : Location) : List Text → Except DiskError Location
  | [] => .ok location
  | segment :: rest =>
      match disk.get? location with
      | none => .error .notFound
      | some (.file _) => .error .notADirectory
      | some .directory =>
          if segment.isEmpty || segment == ['.'] then disk.follow location rest
          else if segment == ['.', '.'] then disk.follow location.dropLast rest
          else disk.follow (location ++ [segment]) rest

def locate (disk : Disk) (workingDirectory : Location) (path : Text) : Except DiskError Location :=
  if path.isEmpty then .error .notFound
  else disk.follow (if path.head? == some '/' then [] else workingDirectory) (path.splitOn '/')

def entry? (disk : Disk) (workingDirectory : Location) (path : Text) : Option Entry :=
  match disk.locate workingDirectory path with
  | .ok location => disk.get? location
  | .error _ => none

def isFile (disk : Disk) (workingDirectory : Location) (path : Text) : Bool :=
  match disk.entry? workingDirectory path with
  | some (.file _) => true
  | _ => false

def isDirectory (disk : Disk) (workingDirectory : Location) (path : Text) : Bool :=
  disk.entry? workingDirectory path == some .directory

def read (disk : Disk) (workingDirectory : Location) (path : Text) : Except DiskError Text := do
  let location ← disk.locate workingDirectory path
  match disk.get? location with
  | some (.file (.text text)) => return text
  | some (.file (.binary _)) => throw .notUtf8
  | some .directory => throw .isADirectory
  | none => throw .notFound

def write (disk : Disk) (workingDirectory : Location) (path text : Text) :
    Except DiskError Disk := do
  let location ← disk.locate workingDirectory path
  match disk.get? location with
  | some .directory => throw .isADirectory
  | _ => return disk.put location (.file (.text text))

def makeDirectories (disk : Disk) (location : Location) : List Text → Except DiskError Disk
  | [] => .ok disk
  | segment :: rest =>
      if segment.isEmpty || segment == ['.'] then disk.makeDirectories location rest
      else if segment == ['.', '.'] then disk.makeDirectories location.dropLast rest
      else
        let next := location ++ [segment]
        match disk.get? next with
        | some .directory => disk.makeDirectories next rest
        | some (.file _) => .error (if rest.isEmpty then .alreadyExists else .notADirectory)
        | none => (disk.put next .directory).makeDirectories next rest

def createDirectories (disk : Disk) (workingDirectory : Location) (path : Text) :
    Except DiskError Disk :=
  disk.makeDirectories (if path.head? == some '/' then [] else workingDirectory) (path.splitOn '/')

/-- The paths of a directory and of all that lies below it, as seen through the given path. -/
def walk (disk : Disk) (workingDirectory : Location) (path : Text) : List Text :=
  match disk.locate workingDirectory path with
  | .error _ => []
  | .ok location =>
      path :: disk.entries.filterMap fun (found, _) =>
        match location.isPrefixOf? found with
        | some (name :: names) => some ((name :: names).foldl Path.join path)
        | _ => none

end Disk

end DocblockSync
