import DocblockSync.Php.Token

/-! Tokens grouped by brackets. A group holds the trees between an opening bracket and the bracket
that closes it; a group that the source never closes has no closing token. -/

namespace DocblockSync.Php

inductive Tree where
  | leaf (token : Token)
  | group (opening : Token) (body : List Tree) (closing : Option Token)
  deriving Repr

namespace Tree

def start : Tree → Nat
  | .leaf token => token.start
  | .group opening _ _ => opening.start

def stop : Tree → Nat
  | .leaf token => token.stop
  | .group opening _ closing => (closing.getD opening).stop

mutual

def size : Tree → Nat
  | .leaf _ => 1
  | .group _ body _ => 1 + forestSize body

def forestSize : List Tree → Nat
  | [] => 0
  | tree :: rest => tree.size + forestSize rest

end

def isOpening (token : Token) : Bool :=
  token.kind == .symbol && (token.text == ['('] || token.text == ['['] || token.text == ['\x7b'] ||
    token.text == ['#', '['])

def isClosing (token : Token) : Bool :=
  token.kind == .symbol && (token.text == [')'] || token.text == [']'] || token.text == ['\x7d'])

/-- Groups still open, innermost first: the opening token of each and the trees before it, from last
to first. -/
abbrev Pending := List (Token × List Tree)

def closeAll : Pending → List Tree → List Tree
  | [], trees => trees.reverse
  | (opening, before) :: outer, trees =>
      closeAll outer (.group opening trees.reverse none :: before)

/-- Groups tokens; `trees` are those of the innermost open group, from last to first. A closing
bracket without a group is a leaf. -/
def groupFrom : Pending → List Tree → List Token → List Tree
  | pending, trees, [] => closeAll pending trees
  | pending, trees, token :: rest =>
      if isOpening token then groupFrom ((token, trees) :: pending) [] rest
      else if isClosing token then
        match pending with
        | (opening, before) :: outer =>
            groupFrom outer (.group opening trees.reverse (some token) :: before) rest
        | [] => groupFrom [] (.leaf token :: trees) rest
      else groupFrom pending (.leaf token :: trees) rest

end Tree

def trees (source : DocblockSync.Text) : List Tree := Tree.groupFrom [] [] (tokens source)

end DocblockSync.Php
