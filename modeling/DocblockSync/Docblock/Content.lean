import DocblockSync.Text.Blank

/-! The content lines of a docblock: what is left of its lines once the delimiters and the leading
markers are taken off. Reading stops at the line that closes the comment. -/

namespace DocblockSync.Docblock

open Text

structure ContentLine where
  text : Text
  raw : Text
  deriving Repr, DecidableEq

def closer : Text := ['*', '/']

def opener : Text := ['/', '*', '*']

def withoutOpener (first : Bool) (raw : Text) : Text :=
  if first then trimStart (dropHead opener (trim raw)) else trim raw

def withoutMarker (first : Bool) (t : Text) : Text :=
  if first then t else dropHead [' '] (dropHead ['*'] t)

/-- The text of a line and whether the line closes the comment. A lone marker before the closing
delimiter is no text. -/
def stripLine (first : Bool) (raw : Text) : Text × Bool :=
  let inner := withoutOpener first raw
  match before? closer inner with
  | none => (trimEnd (withoutMarker first inner), false)
  | some body =>
      let text := withoutMarker first (trimEnd body)
      (if text == ['*'] then [] else trimEnd text, true)

/-- Content from some line on. An empty text is content only between the first and the closing
line. -/
def contentFrom (first : Bool) : List Text → List ContentLine
  | [] => []
  | raw :: rest =>
      let (text, closing) := stripLine first raw
      let here := if text.isEmpty && (first || closing) then [] else [⟨text, raw⟩]
      here ++ if closing then [] else contentFrom false rest

def contentLines (lines : List Text) : List ContentLine := contentFrom true lines

end DocblockSync.Docblock
