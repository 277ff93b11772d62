import DocblockSync.Document.LineIndex

/-! Edits addressed by lines. All edits of a list refer to the lines of one unchanged source; applying
them checks the bounds of each, then that no two of them overlap, and writes them from the last to
the first so that earlier offsets stay valid. -/

namespace DocblockSync.Document

open Text

/-- Where an edit lands. Lines count from zero and columns are bytes. -/
inductive Target where
  /-- Text put in at a position. -/
  | insert (line column : Nat)
  /-- Whole lines, the terminator of the last one excepted. -/
  | replace (startLine endLine : Nat)
  deriving Repr, DecidableEq

structure Edit where
  target : Target
  text : Text
  /-- What the edit is for, in words. -/
  message : Text
  deriving Repr, DecidableEq

inductive EditError where
  | overlapping (line : Nat)
  | lineOutOfBounds (line count : Nat)
  | columnOutOfBounds (line column : Nat)
  /-- An insert inside a character. -/
  | insideCharacter (line column : Nat)
  deriving Repr, DecidableEq

def EditError.message : EditError → Text
  | .overlapping line => "Overlapping edits detected at line ".toList ++ ofNat line
  | .lineOutOfBounds line count =>
      "Edit line ".toList ++ ofNat line ++ " out of bounds for document with ".toList ++
        ofNat count ++ " lines".toList
  | .columnOutOfBounds line column =>
      "Edit column ".toList ++ ofNat column ++ " out of bounds on line ".toList ++ ofNat line
  | .insideCharacter line column =>
      "Edit column ".toList ++ ofNat column ++ " inside a character on line ".toList ++ ofNat line

namespace Edit

def startLine (edit : Edit) : Nat :=
  match edit.target with
  | .insert line _ => line
  | .replace startLine _ => startLine

def endLine (edit : Edit) : Nat :=
  match edit.target with
  | .insert line _ => line
  | .replace _ endLine => endLine

end Edit

structure RangedEdit where
  start : Nat
  stop : Nat
  edit : Edit
  deriving Repr, DecidableEq

namespace LineIndex

def resolve (index : LineIndex) (edit : Edit) : Except EditError RangedEdit :=
  match edit.target with
  | .insert line column =>
      match index.lines[line]? with
      | none => .error (.lineOutOfBounds line index.lineCount)
      | some found =>
          if byteLength found.text < column then .error (.columnOutOfBounds line column)
          else .ok ⟨found.start + column, found.start + column, edit⟩
  | .replace startLine endLine =>
      let outside := .error (.lineOutOfBounds (max endLine startLine) index.lineCount)
      if endLine < startLine then outside
      else
        match index.lines[startLine]?, index.lines[endLine]? with
        | some first, some last => .ok ⟨first.start, last.start + byteLength last.text, edit⟩
        | _, _ => outside

end LineIndex

/-- The start line of the first edit, in an order from the last position to the first, that reaches
into the edit behind it. -/
def overlap? : List RangedEdit → Option Nat
  | later :: earlier :: rest =>
      if later.start < earlier.stop then some earlier.edit.startLine
      else overlap? (earlier :: rest)
  | _ => none

def RangedEdit.startsAtBoundary (source : Text) (ranged : RangedEdit) : Bool :=
  isBoundary ranged.start source

def insideCharacter (edit : Edit) : EditError :=
  match edit.target with
  | .insert line column => .insideCharacter line column
  | .replace startLine _ => .insideCharacter startLine 0

def RangedEdit.write (ending : LineEnding) (text : Text) (ranged : RangedEdit) : Text :=
  spliceBytes ranged.start ranged.stop (ending.normalize ranged.edit.text) text

/-- Edits from the last position to the first; of edits at one position the later given comes
first. -/
def descending (edits : List RangedEdit) : List RangedEdit :=
  (edits.mergeSort fun a b => a.start ≤ b.start).reverse

/-- The source with all edits made. Edits at one position appear in the order given. -/
def applyEdits (source : Text) (edits : List Edit) : Except EditError Text :=
  match edits with
  | [] => .ok source
  | _ => do
      let ranged ← edits.mapM (LineIndex.ofSource source).resolve
      let ordered := descending ranged
      match overlap? ordered with
      | some line => throw (.overlapping line)
      | none => pure ()
      match ordered.find? fun e => !e.startsAtBoundary source with
      | some e => throw (insideCharacter e.edit)
      | none => pure ()
      return ordered.foldl (RangedEdit.write (LineEnding.ofSource source)) source

end DocblockSync.Document
