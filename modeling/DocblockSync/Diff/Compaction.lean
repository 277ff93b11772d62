import DocblockSync.Diff.Snake

/-! Tidying an edit script. Every run of removed lines, then every run of added lines, is moved up as
far as it goes and then down as far as it goes. On its way it absorbs runs of its own kind and
changes places with runs of the other kind; added lines also slide along kept lines that repeat
them. -/

namespace DocblockSync.Diff

/-- A run in its place, with the runs above it from the nearest to the farthest. -/
structure Place where
  above : List Run
  run : Run
  below : List Run

def keepBefore (lines : List Text) : List Run → List Run
  | .kept more :: rest => .kept (lines ++ more) :: rest
  | rest => .kept lines :: rest

/-- Puts kept lines behind runs that are given from the nearest to the farthest. -/
def keepAfter (lines : List Text) : List Run → List Run
  | .kept more :: rest => .kept (more ++ lines) :: rest
  | rest => .kept lines :: rest

def stepUp? (place : Place) : Option Place :=
  match place.run, place.above with
  | _, [] => none
  | run, .kept [] :: above => some { place with run, above }
  | .added lines, .kept before :: above =>
      let shared := (commonEnd before lines).length
      if shared == 0 then none
      else
        some
          { above := runOf .kept (dropEnd shared before) ++ above
            run := .added (before.drop (before.length - shared) ++ dropEnd shared lines)
            below := keepBefore (lines.drop (lines.length - shared)) place.below }
  | .added lines, .added before :: above => some { place with above, run := .added (before ++ lines) }
  | .removed lines, .removed before :: above =>
      some { place with above, run := .removed (before ++ lines) }
  | .added _, .removed before :: above =>
      some { place with above, below := .removed before :: place.below }
  | .removed _, .added before :: above =>
      some { place with above, below := .added before :: place.below }
  | _, _ => none

def stepDown? (place : Place) : Option Place :=
  match place.run, place.below with
  | _, [] => none
  | run, .kept [] :: below => some { place with run, below }
  | .added lines, .kept behind :: below =>
      let shared := (commonFront behind lines).length
      if shared == 0 then none
      else
        some
          { above := keepAfter (lines.take shared) place.above
            run := .added (lines.drop shared ++ behind.take shared)
            below := runOf .kept (behind.drop shared) ++ below }
  | .added lines, .added behind :: below => some { place with below, run := .added (lines ++ behind) }
  | .removed lines, .removed behind :: below =>
      some { place with below, run := .removed (lines ++ behind) }
  | .added _, .removed behind :: below =>
      some { place with below, above := .removed behind :: place.above }
  | .removed _, .added behind :: below =>
      some { place with below, above := .added behind :: place.above }
  | _, _ => none

def repeatStep (step? : Place → Option Place) : Nat → Place → Place
  | 0, place => place
  | fuel + 1, place =>
      match step? place with
      | some next => repeatStep step? fuel next
      | none => place

def Run.lines : Run → List Text
  | .kept lines => lines
  | .removed lines => lines
  | .added lines => lines

def Run.isAdded : Run → Bool
  | .added _ => true
  | _ => false

def Run.isRemoved : Run → Bool
  | .removed _ => true
  | _ => false

/-- Settles the runs of a kind one after the other. `steps` bounds the steps of one run, and the fuel
the number of runs. -/
def settleFrom (moves : Run → Bool) (steps : Nat) : Nat → List Run → List Run → List Run
  | 0, above, below => above.reverse ++ below
  | _ + 1, above, [] => above.reverse
  | fuel + 1, above, run :: below =>
      if moves run then
        let up := repeatStep stepUp? steps ⟨above, run, below⟩
        let down := repeatStep stepDown? steps up
        settleFrom moves steps fuel (down.run :: down.above) down.below
      else settleFrom moves steps fuel (run :: above) below

def settle (moves : Run → Bool) (script : List Run) : List Run :=
  let steps := (script.flatMap Run.lines).length + script.length
  settleFrom moves steps steps [] script

def compact (script : List Run) : List Run := settle Run.isAdded (settle Run.isRemoved script)

end DocblockSync.Diff
