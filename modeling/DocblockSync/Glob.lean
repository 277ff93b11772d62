import DocblockSync.Text.Basic

/-! Glob patterns. A question mark stands for any character, a star for any run of characters, two
stars for any number of path components, and brackets for a class of characters. Slashes and leading
dots are characters like any other. -/

namespace DocblockSync.Glob

open Text

structure CharRange where
  first : Char
  last : Char
  deriving Repr, DecidableEq

inductive Token where
  | char (c : Char)
  | anyChar
  | anyRun
  /-- Any number of whole path components. -/
  | components
  | within (ranges : List CharRange)
  | without (ranges : List CharRange)
  deriving Repr, DecidableEq

/-- The ranges of a class; a hyphen between two characters joins them. -/
def classRanges : Text → List CharRange
  | first :: '-' :: last :: rest => ⟨first, last⟩ :: classRanges rest
  | c :: rest => ⟨c, c⟩ :: classRanges rest
  | [] => []

def inClass (ranges : List CharRange) (c : Char) : Bool :=
  ranges.any fun range => range.first ≤ c && c ≤ range.last

/-- The content of a class up to its closing bracket, and what follows. The first character is
content whatever it is. -/
def readClass? : Text → Option (Text × Text)
  | first :: rest =>
      match rest.span (· != ']') with
      | (content, _ :: behind) => some (first :: content, behind)
      | (_, []) => none
  | [] => none

/-- What two stars behind `previous` stand for: they must be a whole component, and take the slash
behind them along. -/
def afterComponents? (previous : Option Char) (rest : Text) : Option Text :=
  if previous.all (· == '/') then
    match rest with
    | [] => some []
    | c :: behind => if c == '/' then some behind else none
  else none

/-- The tokens of a pattern; none if it is malformed. `previous` is the character before `pattern`,
and the fuel bounds the number of tokens. -/
def parseFrom : Nat → Option Char → Text → Option (List Token)
  | _, _, [] => some []
  | 0, _, _ :: _ => none
  | fuel + 1, previous, c :: rest =>
      match c, rest with
      | '?', _ => (parseFrom fuel (some c) rest).map (.anyChar :: ·)
      | '*', '*' :: '*' :: _ => none
      | '*', '*' :: behind =>
          match afterComponents? previous behind with
          | some next =>
              (parseFrom fuel (some (if behind.isEmpty then '*' else '/')) next).map
                (.components :: ·)
          | none => none
      | '*', _ => (parseFrom fuel (some c) rest).map (.anyRun :: ·)
      | '[', '!' :: behind =>
          match readClass? behind with
          | some (content, next) =>
              (parseFrom fuel (some ']') next).map (.without (classRanges content) :: ·)
          | none => none
      | '[', _ =>
          match readClass? rest with
          | some (content, next) =>
              (parseFrom fuel (some ']') next).map (.within (classRanges content) :: ·)
          | none => none
      | _, _ => (parseFrom fuel (some c) rest).map (.char c :: ·)

def parse? (pattern : Text) : Option (List Token) := parseFrom pattern.length none pattern

def Token.accepts : Token → Char → Bool
  | .char expected, c => c == expected
  | .anyChar, _ => true
  | .within ranges, c => inClass ranges c
  | .without ranges, c => !inClass ranges c
  | .anyRun, _ => false
  | .components, _ => false

def someTail (holds : Text → Bool) : Text → Bool
  | [] => holds []
  | c :: t => holds (c :: t) || someTail holds t

def someComponent (holds : Text → Bool) : Text → Bool
  | [] => holds []
  | c :: t => (c == '/' && holds t) || someComponent holds t

def matchesTokens : List Token → Text → Bool
  | [], t => t.isEmpty
  | .anyRun :: tokens, t => someTail (matchesTokens tokens) t
  | .components :: tokens, t =>
      matchesTokens tokens t || someComponent (matchesTokens tokens) t
  | token :: tokens, t =>
      match t with
      | c :: rest => token.accepts c && matchesTokens tokens rest
      | [] => false

end DocblockSync.Glob
