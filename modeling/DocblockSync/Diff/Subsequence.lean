import DocblockSync.Diff.Change
import DocblockSync.Text.Lines

/-! A diff by a longest common subsequence. What both texts have in common at the front and at the end
is set apart; the rest is settled by a table of the longest common subsequences of all beginnings. -/

namespace DocblockSync.Diff

/-- The next row of the table: the lengths for one more old line, from those without it. `left` is the
entry before, and `corner` the one before in the row above. -/
def nextRow (line : Text) (left corner : Nat) : List Text → List Nat → List Nat
  | next :: rest, above :: row =>
      let entry := if line == next then corner + 1 else max left above
      entry :: nextRow line entry above rest row
  | _, _ => []

/-- The table, row by row: entry `j` of row `i` is the length of a longest common subsequence of the
first `i` old and the first `j` new lines. -/
def table (new : List Text) : List Nat → List Text → List (List Nat)
  | row, [] => [row]
  | row, line :: old => row :: table new (0 :: nextRow line 0 0 new (row.drop 1)) old

def entryAt (rows : Array (Array Nat)) (i j : Nat) : Nat := ((rows[i]?).bind (·[j]?)).getD 0

/-- Walks from an entry back to the start of the table; `found` holds the changes behind it. Lines are
added as late as possible, and removed before those that are added. -/
def walkBack (rows : Array (Array Nat)) (old new : Array Text) (i j : Nat) (found : List Change) :
    List Change :=
  match i, j with
  | 0, 0 => found
  | 0, j + 1 => walkBack rows old new 0 j (.added (new[j]?.getD []) :: found)
  | i + 1, 0 => walkBack rows old new i 0 (.removed (old[i]?.getD []) :: found)
  | i + 1, j + 1 =>
      if entryAt rows (i + 1) (j + 1) == entryAt rows (i + 1) j then
        walkBack rows old new (i + 1) j (.added (new[j]?.getD []) :: found)
      else if entryAt rows (i + 1) (j + 1) == entryAt rows i (j + 1) then
        walkBack rows old new i (j + 1) (.removed (old[i]?.getD []) :: found)
      else walkBack rows old new i j (.kept (old[i]?.getD []) :: found)
termination_by i + j

def bySubsequence (old new : List Text) : List Change :=
  let rows := table new (List.replicate (new.length + 1) 0) old
  walkBack (rows.map List.toArray).toArray old.toArray new.toArray old.length new.length []

def lineChanges (old new : List Text) : List Change :=
  let front := commonFront old new
  let oldRest := old.drop front.length
  let newRest := new.drop front.length
  let tail := commonEnd oldRest newRest
  front.map .kept ++ bySubsequence (dropEnd tail.length oldRest) (dropEnd tail.length newRest) ++
    tail.map .kept

/-- What a line feed at the end of a text adds: an empty line. -/
def finalChange (oldEnds newEnds : Bool) : List Change :=
  match oldEnds, newEnds with
  | true, true => [.kept []]
  | true, false => [.removed []]
  | false, true => [.added []]
  | false, false => []

def changes (old new : Text) : List Change :=
  lineChanges (Text.lines old) (Text.lines new) ++
    finalChange (old.getLast? == some '\n') (new.getLast? == some '\n')

end DocblockSync.Diff
