import DocblockSync.Text.Basic

/-! Lines of a text. A line feed ends a line, and a carriage return directly before it belongs to the
terminator. What follows the last line feed is a line only when it is not empty, and keeps a
carriage return of its own. -/

namespace DocblockSync.Text

def cutReturn (segment : Text) : Text × Text :=
  match before? ['\r'] segment with
  | some text => (text, ['\r'])
  | none => (segment, [])

def linesOfSegments : List Text → List Text
  | [] => []
  | [last] => if last.isEmpty then [] else [last]
  | segment :: rest => (cutReturn segment).1 :: linesOfSegments rest

def lines (t : Text) : List Text := linesOfSegments (t.splitOn '\n')

end DocblockSync.Text
