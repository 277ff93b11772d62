import DocblockSync.Diff.Change

/-! A shortest edit script by divide and conquer. Two searches, one from the front and one from the
end, follow the diagonals of the edit graph until they meet; the place where they meet splits both
lists. -/

namespace DocblockSync.Diff

inductive Run where
  | kept (lines : List Text)
  | removed (lines : List Text)
  | added (lines : List Text)
  deriving Repr, DecidableEq

def matchLength (old new : Array Text) (x y : Nat) : Nat :=
  if h : x < old.size ∧ y < new.size then
    if old[x] == new[y] then matchLength old new (x + 1) (y + 1) + 1 else 0
  else 0
termination_by old.size - x

/-- How far a search has come on a diagonal: `start` is where the run of equal lines begins, and
`reach` where it ends. Both count old lines; the new ones are less by the number of the diagonal. -/
structure Reach where
  diagonal : Int
  start : Int
  reach : Int

def Reach.follow (old new : Array Text) (diagonal start : Int) : Reach :=
  let y := start - diagonal
  if start < 0 || y < 0 then ⟨diagonal, start, start⟩
  else ⟨diagonal, start, start + matchLength old new start.toNat y.toNat⟩

/-- The start on a diagonal between two others: the better of one step down from the diagonal above
and one step right from the diagonal below. -/
def between (above below : Int) : Int := if below < above then above else below + 1

/-- The starts of a round, from the highest diagonal to the lowest, after those of the round before. -/
def nextStarts : List Int → List Int
  | [] => [0]
  | first :: rest => (first + 1) :: inner first rest
where
  /-- The starts below the diagonal that reaches `above`. -/
  inner (above : Int) : List Int → List Int
  | [] => [above]
  | below :: rest => between above below :: inner below rest

/-- Numbers the starts of a round by their diagonals, and follows the equal lines from each. -/
def followAll (old new : Array Text) (diagonal : Int) : List Int → List Reach
  | [] => []
  | start :: rest =>
      Reach.follow old new diagonal start :: followAll old new (diagonal - 2) rest

def nextRound (old new : Array Text) (round : Nat) (before : List Reach) : List Reach :=
  followAll old new round (nextStarts (before.map Reach.reach))

def opposite? (reaches : Array Reach) (round : Int) (diagonal : Int) : Option Int :=
  if diagonal.natAbs ≤ round then (reaches[((round - diagonal) / 2).toNat]?).map Reach.reach else none

/-- The first reach of a round that meets the search from the other side. -/
def meeting? (length : Nat) (delta : Int) (other : List Reach) (otherRound : Int)
    (reaches : List Reach) : Option Reach :=
  let others := other.toArray
  reaches.find? fun found =>
    match opposite? others otherRound (delta - found.diagonal) with
    | some reach => found.reach + reach ≥ length
    | none => false

/-- Runs the two searches in turn, and returns where they meet. The search from the front meets the
other one when the lengths differ by an odd number, the search from the end otherwise. -/
def search (old new oldReversed newReversed : Array Text) :
    Nat → Nat → List Reach → List Reach → Option (Nat × Nat)
  | 0, _, _, _ => none
  | fuel + 1, round, forward, backward =>
      let delta : Int := old.size - new.size
      let odd := delta % 2 != 0
      let forward := nextRound old new round forward
      match if odd then meeting? old.size delta backward (round - 1) forward else none with
      | some found => some (found.start.toNat, (found.start - found.diagonal).toNat)
      | none =>
          let backward := nextRound oldReversed newReversed round backward
          match if odd then none else meeting? old.size delta forward round backward with
          | some found =>
              some ((old.size - found.reach).toNat,
                (new.size - (found.reach - found.diagonal)).toNat)
          | none => search old new oldReversed newReversed fuel (round + 1) forward backward

def middle? (old new : List Text) : Option (Nat × Nat) :=
  search old.toArray new.toArray old.reverse.toArray new.reverse.toArray
    ((old.length + new.length + 1) / 2 + 1) 0 [] []

def runOf (make : List Text → Run) (lines : List Text) : List Run :=
  if lines.isEmpty then [] else [make lines]

/-- The runs between two lists of lines. The fuel bounds the number of splits within each other. -/
def split : Nat → List Text → List Text → List Run
  | 0, old, new => runOf .removed old ++ runOf .added new
  | fuel + 1, old, new =>
      let front := commonFront old new
      let oldRest := old.drop front.length
      let newRest := new.drop front.length
      let tail := commonEnd oldRest newRest
      let oldRest := dropEnd tail.length oldRest
      let newRest := dropEnd tail.length newRest
      let inner :=
        if oldRest.isEmpty || newRest.isEmpty then runOf .removed oldRest ++ runOf .added newRest
        else
          match middle? oldRest newRest with
          | some (x, y) =>
              split fuel (oldRest.take x) (newRest.take y) ++
                split fuel (oldRest.drop x) (newRest.drop y)
          | none => [.removed oldRest, .added newRest]
      runOf .kept front ++ inner ++ runOf .kept tail

def runs (old new : List Text) : List Run := split (old.length + new.length + 1) old new

end DocblockSync.Diff
