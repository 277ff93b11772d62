import DocblockSync.Text.Basic

/-! What becomes of a line when one text turns into another. -/

namespace DocblockSync

inductive Change where
  | kept (line : Text)
  | removed (line : Text)
  | added (line : Text)
  deriving Repr, DecidableEq

namespace Change

def line : Change → Text
  | .kept line => line
  | .removed line => line
  | .added line => line

end Change

def commonFront : List Text → List Text → List Text
  | a :: as, b :: bs => if a == b then a :: commonFront as bs else []
  | _, _ => []

def commonEnd (a b : List Text) : List Text := (commonFront a.reverse b.reverse).reverse

def dropEnd {α : Type} (n : Nat) (l : List α) : List α := l.take (l.length - n)

end DocblockSync
