import DocblockSync.Diff.Compaction

/-! Diffs in the unified format: hunks of changes with three lines of context. -/

namespace DocblockSync.Diff

open Text

/-- The lines of a text with their terminators: a line feed, a carriage return or both. -/
def terminatedLines : Text → List Text
  | [] => []
  | '\r' :: '\n' :: rest => ['\r', '\n'] :: terminatedLines rest
  | c :: rest =>
      if c == '\n' || c == '\r' then [c] :: terminatedLines rest
      else
        match terminatedLines rest with
        | [] => [[c]]
        | line :: lines => (c :: line) :: lines

inductive Block where
  | kept (lines : List Text)
  | replaced (removed added : List Text)
  deriving Repr, DecidableEq

/-- Puts a run in front of blocks; neighbours of one kind are joined. -/
def putRun : Run → List Block → List Block
  | .kept lines, .kept more :: rest => .kept (lines ++ more) :: rest
  | .kept lines, rest => .kept lines :: rest
  | .removed lines, .replaced removed added :: rest => .replaced (lines ++ removed) added :: rest
  | .removed lines, rest => .replaced lines [] :: rest
  | .added lines, .replaced removed added :: rest => .replaced removed (lines ++ added) :: rest
  | .added lines, rest => .replaced [] lines :: rest

def blocks (script : List Run) : List Block := script.foldr putRun []

namespace Block

def old : Block → List Text
  | .kept lines => lines
  | .replaced removed _ => removed

def new : Block → List Text
  | .kept lines => lines
  | .replaced _ added => added

def changes : Block → List Change
  | .kept lines => lines.map .kept
  | .replaced removed added => removed.map .removed ++ added.map .added

end Block

def context : Nat := 3

/-- Changes that are shown together. The starts count the lines before them. -/
structure Hunk where
  oldStart : Nat
  newStart : Nat
  blocks : List Block
  deriving Repr, DecidableEq

namespace Hunk

def startAt (oldStart newStart : Nat) : Hunk := ⟨oldStart, newStart, []⟩

def add (hunk : Hunk) (block : Block) : Hunk := { hunk with blocks := hunk.blocks ++ [block] }

def oldSize (hunk : Hunk) : Nat := (hunk.blocks.flatMap Block.old).length

def newSize (hunk : Hunk) : Nat := (hunk.blocks.flatMap Block.new).length

def hasChange (hunk : Hunk) : Bool :=
  match hunk.blocks with
  | [] => false
  | [.kept _] => false
  | _ => true

end Hunk

/-- Continues a hunk with blocks that start at the given line numbers. A long run of kept lines ends
the hunk, and the next one starts at its end; of the kept lines at the very end only the context is
shown. -/
def hunksFrom (hunk : Hunk) (oldLine newLine : Nat) : List Block → List Hunk
  | [] => if hunk.hasChange then [hunk] else []
  | .kept lines :: rest =>
      let oldNext := oldLine + lines.length
      let newNext := newLine + lines.length
      let shown := if rest.isEmpty then lines.take context else lines
      if shown.length > 2 * context then
        hunk.add (.kept (lines.take context)) ::
          hunksFrom
            ((Hunk.startAt (oldNext - context) (newNext - context)).add
              (.kept (lines.drop (lines.length - context))))
            oldNext newNext rest
      else hunksFrom (hunk.add (.kept shown)) oldNext newNext rest
  | .replaced removed added :: rest =>
      hunksFrom (hunk.add (.replaced removed added)) (oldLine + removed.length)
        (newLine + added.length) rest

/-- The hunks of a diff; of the kept lines at the very start only the context is shown. -/
def hunks : List Block → List Hunk
  | .kept lines :: rest =>
      let skipped := lines.length - context
      hunksFrom (Hunk.startAt skipped skipped) skipped skipped (.kept (lines.drop skipped) :: rest)
  | rest => hunksFrom (Hunk.startAt 0 0) 0 0 rest

/-- A range of lines as a header shows it: an empty range starts at the line before it, and a single
line has no length. -/
def rangeText (start size : Nat) : Text :=
  if size == 1 then ofNat (start + 1)
  else ofNat (if size == 0 then start else start + 1) ++ ',' :: ofNat size

def Hunk.header (hunk : Hunk) : Text :=
  "@@ -".toList ++ rangeText hunk.oldStart hunk.oldSize ++ " +".toList ++
    rangeText hunk.newStart hunk.newSize ++ " @@\n".toList

def changeMark : Change → Char
  | .kept _ => ' '
  | .removed _ => '-'
  | .added _ => '+'

def changeText (change : Change) : Text :=
  let ends := change.line.getLast?.any fun c => c == '\n' || c == '\r'
  changeMark change :: change.line ++ if ends then [] else ['\n', '\n']

def Hunk.text (hunk : Hunk) : Text :=
  hunk.header ++ (hunk.blocks.flatMap Block.changes).flatMap changeText

def unified (path old new : Text) : Text :=
  let script := compact (runs (terminatedLines old) (terminatedLines new))
  "--- a/".toList ++ path ++ "\n+++ b/".toList ++ path ++ ['\n'] ++
    (hunks (blocks script)).flatMap Hunk.text

end DocblockSync.Diff
