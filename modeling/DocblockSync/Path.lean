import DocblockSync.Text.Basic

/-! Paths as they are written, and the parts they consist of. Repeated slashes, trailing slashes and
dots inside a path are no parts. -/

namespace DocblockSync

open Text

inductive PathPart where
  | root
  /-- A dot that starts a relative path. -/
  | here
  | up
  | name (text : Text)
  deriving Repr, DecidableEq

namespace PathPart

def rank : PathPart → Nat
  | .root => 0
  | .here => 1
  | .up => 2
  | .name _ => 3

/-- Names are ordered by their bytes, other parts by their form. -/
def before : PathPart → PathPart → Bool
  | .name a, .name b => Text.precedes a b
  | a, b => a.rank < b.rank

end PathPart

namespace Path

def bodyPart? (segment : Text) : Option PathPart :=
  if segment.isEmpty || segment == ['.'] then none
  else if segment == ['.', '.'] then some .up
  else some (.name segment)

def firstPart? (segment : Text) (absolute : Bool) : Option PathPart :=
  if absolute then some .root
  else if segment == ['.'] then some .here
  else bodyPart? segment

def parts (path : Text) : List PathPart :=
  match path.splitOn '/' with
  | [] => []
  | first :: rest => (firstPart? first (path.head? == some '/')).toList ++ rest.filterMap bodyPart?

def partsLe : List PathPart → List PathPart → Bool
  | [], _ => true
  | _ :: _, [] => false
  | a :: as, b :: bs => a.before b || (a == b && partsLe as bs)

def le (a b : Text) : Bool := partsLe (parts a) (parts b)

def fileName? (path : Text) : Option Text :=
  match (parts path).getLast? with
  | some (.name name) => some name
  | _ => none

/-- What follows the last dot of the file name; a dot that starts the name does not count. -/
def extension? (path : Text) : Option Text :=
  match (fileName? path).map fun name => (name.splitOn '.').reverse with
  | some [last, before] => if before.isEmpty then none else some last
  | some (last :: _ :: _ :: _) => some last
  | _ => none

def join (directory name : Text) : Text :=
  if directory.isEmpty then name
  else if endsWith ['/'] directory then directory ++ name
  else directory ++ '/' :: name

/-- A path without the slashes and dots at its end that are no parts; `segments` are given from last
to first. -/
def dropEmptyEnd : List Text → List Text
  | [] => []
  | [first] => [first]
  | last :: rest => if (bodyPart? last).isNone then dropEmptyEnd rest else last :: rest

/-- The path of the directory that holds what a path names; none for a root or the empty path. -/
def parent? (path : Text) : Option Text :=
  match dropEmptyEnd (path.splitOn '/').reverse with
  | [] => none
  | [only] => if only.isEmpty then none else some []
  | _ :: before =>
      match dropEmptyEnd before with
      | [[]] => some ['/']
      | segments => some (joinWith ['/'] segments.reverse)

def ancestorsFrom : Nat → Text → List Text
  | 0, path => [path]
  | fuel + 1, path =>
      match parent? path with
      | some directory => path :: ancestorsFrom fuel directory
      | none => [path]

def ancestors (path : Text) : List Text := ancestorsFrom path.length path

end Path

end DocblockSync
