import DocblockSync.Text.Bytes
import DocblockSync.Text.Lines

/-! The physical lines of a source and the byte positions where they start. Every line feed starts a
new line, so the text after the last one is a line even when it is empty. -/

namespace DocblockSync.Document

open Text

/-- A physical line: where it starts, its text, and the terminator taken off that text. -/
structure Line where
  start : Nat
  text : Text
  terminator : Text
  deriving Repr, DecidableEq

/-- The physical lines of the segments between line feeds, the first of them at a given offset. -/
def linesFrom (start : Nat) : List Text → List Line
  | [] => []
  | [last] => [⟨start, (cutReturn last).1, (cutReturn last).2⟩]
  | segment :: rest =>
      ⟨start, (cutReturn segment).1, (cutReturn segment).2 ++ ['\n']⟩ ::
        linesFrom (start + byteLength segment + 1) rest

structure LineIndex where
  lines : List Line
  deriving Repr

namespace LineIndex

def ofSource (source : Text) : LineIndex := ⟨linesFrom 0 (source.splitOn '\n')⟩

def lineCount (index : LineIndex) : Nat := index.lines.length

def lineStart? (index : LineIndex) (line : Nat) : Option Nat := index.lines[line]?.map Line.start

def lineText? (index : LineIndex) (line : Nat) : Option Text := index.lines[line]?.map Line.text

/-- The line that holds a byte offset; an offset past the end belongs to the last line. -/
def lineOf (index : LineIndex) (offset : Nat) : Nat :=
  index.lines.countP (fun line => line.start ≤ offset) - 1

end LineIndex

inductive LineEnding where
  | lf
  | crlf
  deriving Repr, DecidableEq

namespace LineEnding

def text : LineEnding → Text
  | .lf => ['\n']
  | .crlf => ['\r', '\n']

/-- A source with any carriage return before a line feed counts as ending all lines that way. -/
def ofSource (source : Text) : LineEnding :=
  if contains ['\r', '\n'] source then .crlf else .lf

end LineEnding

def toCrlf : Text → Text
  | [] => []
  | '\r' :: '\n' :: t => '\r' :: '\n' :: toCrlf t
  | '\n' :: t => '\r' :: '\n' :: toCrlf t
  | c :: t => c :: toCrlf t

/-- A text as it is written into a source with the given line ending. -/
def LineEnding.normalize : LineEnding → Text → Text
  | .lf, t => t
  | .crlf, t => toCrlf t

end DocblockSync.Document
