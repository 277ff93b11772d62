import DocblockSync.Php.Syntax
import DocblockSync.Php.Tree

/-! Statements of a source, read from its bracketed trees. Of an expression no more is read than its
form and the bodies of the functions and classes without a name in it. Reading never fails: a
declaration that is not complete counts as some other statement. -/

namespace DocblockSync.Php

open Text

namespace Tree

def isWord (word : String) : Tree → Bool
  | .leaf token => token.kind == .name && lowerAscii token.text == word.toList
  | .group _ _ _ => false

def isAnyWord (words : List String) (tree : Tree) : Bool := words.any fun word => tree.isWord word

def isSymbol (symbol : String) : Tree → Bool
  | .leaf token => token.kind == .symbol && token.text == symbol.toList
  | .group _ _ _ => false

def isKind (kind : TokenKind) : Tree → Bool
  | .leaf token => token.kind == kind
  | .group _ _ _ => false

def isGroup (opening : String) : Tree → Bool
  | .group token _ _ => token.text == opening.toList
  | .leaf _ => false

def isClosed : Tree → Bool
  | .group _ _ closing => closing.isSome
  | .leaf _ => true

def body : Tree → List Tree
  | .group _ body _ => body
  | .leaf _ => []

def text : Tree → Text
  | .leaf token => token.text
  | .group opening _ _ => opening.text

def isTerminator (tree : Tree) : Bool := tree.isSymbol ";" || tree.isKind .closeTag

def isAttribute : Tree → Bool := isGroup "#["

/-- Whether a tree can only be the start of something new when it follows a group in braces. -/
def startsAnew (tree : Tree) : Bool :=
  match tree with
  | .leaf token =>
      match token.kind with
      | .name => !tree.isAnyWord ["and", "or", "xor", "instanceof"]
      | .variable | .int | .float | .string | .template => true
      | _ => false
  | .group _ _ _ => false

end Tree

/-- The range from the first tree of a list to the last that is not among the rest. -/
def spanBetween (trees rest : List Tree) : Span :=
  let taken := trees.take (trees.length - rest.length)
  match taken.head?, taken.getLast? with
  | some first, some last => ⟨first.start, last.stop⟩
  | _, _ => ⟨0, 0⟩

def sourceText? (source : Text) (trees : List Tree) : Option Text :=
  match trees.head?, trees.getLast? with
  | some first, some last => some (sliceBytes first.start last.stop source)
  | _, _ => none

/-- The trees of a statement up to its terminator, and what follows the terminator. A statement also
ends behind a group in braces where something new starts. -/
def cutStatement (afterBraces : Bool) : List Tree → List Tree × List Tree
  | [] => ([], [])
  | tree :: rest =>
      if tree.isTerminator then ([], rest)
      else if afterBraces && tree.startsAnew then ([], tree :: rest)
      else
        let (taken, behind) := cutStatement (tree.isGroup "\x7b") rest
        (tree :: taken, behind)

/-- The class name in a `new` expression with nothing behind it but its arguments. -/
def instantiatedClass? : List Tree → Option Text
  | [new, name] =>
      if new.isWord "new" && name.isKind .name && !name.isWord "class" then some name.text else none
  | [new, name, arguments] =>
      if new.isWord "new" && name.isKind .name && !name.isWord "class" && arguments.isGroup "("
      then some name.text else none
  | _ => none

def leafExpression (tree : Tree) : Expression :=
  if tree.isKind .string then .string
  else if tree.isKind .int then .int
  else if tree.isKind .float then .float
  else if tree.isAnyWord ["true", "false"] then .bool
  else if tree.isWord "null" then .null
  else .other []

def isLegacyArray : List Tree → Bool
  | [keyword, entries] => keyword.isWord "array" && entries.isGroup "("
  | _ => false

inductive UnnamedKind where
  | closure
  | arrow
  | anonymousClass
  deriving Repr, DecidableEq

/-- The function or class without a name that starts with a tree, given what follows it. -/
def unnamedKind? (tree : Tree) (rest : List Tree) : Option UnnamedKind :=
  match rest with
  | next :: _ =>
      let opensParams := next.isGroup "(" || next.isSymbol "&"
      if tree.isWord "function" && opensParams then some .closure
      else if tree.isWord "fn" && opensParams then some .arrow
      else if tree.isWord "class" &&
          (next.isGroup "(" || next.isGroup "\x7b" || next.isAnyWord ["extends", "implements"]) then
        some .anonymousClass
      else none
  | [] => none

def Tree.isAccess (tree : Tree) : Bool :=
  tree.isSymbol "->" || tree.isSymbol "?->" || tree.isSymbol "::"

/-- Whether some trees with a single function or class without a name are nothing else. -/
def isUnnamedAlone (trees : List Tree) : Bool :=
  let endsInBraces := trees.getLast?.any (Tree.isGroup "\x7b")
  match trees.dropWhile fun tree => tree.isGroup "#[" || tree.isWord "static" with
  | first :: _ =>
      first.isWord "fn" || (first.isWord "function" || first.isWord "new") && endsInBraces
  | [] => false

def modifierWords : List String :=
  ["public", "protected", "private", "static", "abstract", "final", "readonly", "var"]

def Tree.isModifier : Tree → Bool := Tree.isAnyWord modifierWords

def Tree.isSetRestriction : Tree → Bool
  | .group opening [inner] _ => opening.text == ['('] && inner.isWord "set"
  | _ => false

def dropModifiers : List Tree → List Tree
  | modifier :: next :: rest =>
      if modifier.isModifier then
        if next.isSetRestriction then dropModifiers rest else dropModifiers (next :: rest)
      else modifier :: next :: rest
  | trees => trees

def dropAttributes (trees : List Tree) : List Tree := trees.dropWhile Tree.isAttribute

def splitAtCommas (trees : List Tree) : List (List Tree) :=
  (trees.splitOnP fun tree => tree.isSymbol ",").filter fun part => !part.isEmpty

def dropLastSign (sign : String) (trees : List Tree) : List Tree :=
  match trees.getLast? with
  | some last => if last.isSymbol sign then trees.dropLast else trees
  | none => []

def variableName (tree : Tree) : Text := tree.text.dropWhile (· == '$')

/-- A parameter: attributes, modifiers, a type, `&`, `...` and the variable, all but the last
optional. -/
def paramOf? (source : Text) (trees : List Tree) : Option Param :=
  let plain := dropModifiers (dropAttributes trees)
  let before := plain.takeWhile fun tree => !tree.isKind .variable
  (plain.find? fun tree => tree.isKind .variable).map fun named =>
    { name := variableName named
      typeHint := sourceText? source (dropLastSign "&" (dropLastSign "..." before)) }

/-- The return type between the parameter list and the body, and what follows it. -/
def returnTypeOf (source : Text) (trees : List Tree) : Option Text × List Tree :=
  match trees with
  | colon :: rest =>
      if colon.isSymbol ":" then
        let inType := fun (tree : Tree) => !(tree.isGroup "\x7b" || tree.isTerminator)
        (sourceText? source (rest.takeWhile inType), rest.dropWhile inType)
      else (none, trees)
  | [] => (none, [])

/-- The signature behind the keyword `function`, and what follows it. -/
def signatureOf? (source : Text) (trees : List Tree) : Option (Signature × List Tree) :=
  match trees.dropWhile fun tree => tree.isSymbol "&" with
  | name :: params :: rest =>
      if name.isKind .name && params.isGroup "(" then
        let (returnType, behind) := returnTypeOf source rest
        some
          ({ name := name.text
             params := (splitAtCommas params.body).filterMap (paramOf? source)
             returnType },
            behind)
      else none
  | _ => none

def classKind? (tree : Tree) : Option ClassKind :=
  if tree.isWord "class" then some .classType
  else if tree.isWord "interface" then some .interfaceType
  else if tree.isWord "trait" then some .traitType
  else if tree.isWord "enum" then some .enumType
  else none

/-- Kind, name and body of a class-like declaration behind its modifiers, and what follows it. -/
def classHead? (trees : List Tree) : Option (ClassKind × Text × List Tree × List Tree) :=
  match trees with
  | keyword :: name :: rest =>
      match classKind? keyword, rest.dropWhile fun tree => !tree.isGroup "\x7b" with
      | some kind, braces :: behind =>
          if name.isKind .name && braces.isClosed then some (kind, name.text, braces.body, behind)
          else none
      | _, _ => none
  | _ => none

/-- The loop that a keyword starts, and the keyword that ends its colon form. -/
def loopKind? (tree : Tree) : Option (LoopKind × String) :=
  if tree.isWord "foreach" then some (.forEach, "endforeach")
  else if tree.isWord "for" then some (.for, "endfor")
  else if tree.isWord "while" then some (.while, "endwhile")
  else none

/-- What follows a case's label, which ends at a colon or semicolon that belongs to no conditional
expression; `conditionals` counts those still open. -/
def dropLabel (conditionals : Nat) : List Tree → List Tree
  | [] => []
  | tree :: rest =>
      if tree.isTerminator then rest
      else if tree.isSymbol "?" then dropLabel (conditionals + 1) rest
      else if tree.isSymbol ":" then
        match conditionals with
        | 0 => rest
        | outer + 1 => dropLabel outer rest
      else dropLabel conditionals rest

def startsCase (tree : Tree) : Bool := tree.isAnyWord ["case", "default"]

/-- What follows the property declared at the front: it ends at a semicolon or behind its hooks. -/
def dropProperty : List Tree → List Tree
  | [] => []
  | tree :: rest => if tree.isTerminator || tree.isGroup "\x7b" then rest else dropProperty rest

abbrev Read (α : Type) := α × List Tree

/-- The statements in the parts of a control structure, behind the functions and classes without a
name that stand beside them. -/
abbrev Parts := List Expression × List (List Statement)

def Parts.cons (heads : List Expression) (part : List Statement) (others : Parts) : Parts :=
  (heads ++ others.1, part :: others.2)

mutual

def expression (source : Text) : Nat → List Tree → Expression
  | _ + 1, [.leaf token] => leafExpression (.leaf token)
  | fuel + 1, [.group opening body closing] =>
      if (Tree.group opening body closing).isGroup "(" then
        .parenthesized (expression source fuel body)
      else if (Tree.group opening body closing).isGroup "[" then .array (unnamed source fuel body)
      else .other (unnamed source fuel body)
  | fuel + 1, first :: rest =>
      if first.isWord "throw" then .throwing (expression source fuel rest)
      else
        let within := unnamed source fuel (first :: rest)
        match instantiatedClass? (first :: rest), within with
        | some name, _ => .instantiation name within
        | none, [only] =>
            if isLegacyArray (first :: rest) then .array within
            else if isUnnamedAlone (first :: rest) then only
            else .other within
        | none, _ => if isLegacyArray (first :: rest) then .array within else .other within
  | _, _ => .other []

def unnamed (source : Text) : Nat → List Tree → List Expression
  | fuel + 1, tree :: rest =>
      let beforeBraces := rest.takeWhile fun t => !t.isGroup "\x7b"
      if tree.isAccess then unnamed source fuel (rest.dropWhile (Tree.isKind .name))
      else
        match unnamedKind? tree rest, rest.dropWhile fun t => !t.isGroup "\x7b" with
        | some .closure, braces :: behind =>
            .closure (statements source (fun _ => false) fuel braces.body).1 ::
              unnamed source fuel behind
        | some .anonymousClass, braces :: behind =>
            unnamed source fuel beforeBraces ++
              .anonymousClass (members source fuel braces.body) :: unnamed source fuel behind
        | some .arrow, _ =>
            let value := (rest.dropWhile fun t => !t.isSymbol "=>").drop 1
            .arrow (expression source fuel (value.takeWhile fun t => !t.isSymbol ",")) ::
              unnamed source fuel (value.dropWhile fun t => !t.isSymbol ",")
        | _, _ => unnamed source fuel tree.body ++ unnamed source fuel rest
  | _, _ => []

/-- Statements up to the end or to a tree where reading is to stop. The fuel bounds the depth of the
recursion; twice the number of trees is enough. -/
def statements (source : Text) (stops : Tree → Bool) : Nat → List Tree → Read (List Statement)
  | 0, trees => ([], trees)
  | _ + 1, [] => ([], [])
  | fuel + 1, tree :: rest =>
      if stops tree then ([], tree :: rest)
      else
        let (first, behind) := statement source fuel tree rest
        let (others, behind) := statements source stops fuel behind
        (first :: others, behind)

def statement (source : Text) : Nat → Tree → List Tree → Read Statement
  | 0, tree, rest => (.other ⟨tree.start, tree.stop⟩ [], rest)
  | fuel + 1, tree, rest =>
      let trees := tree :: rest
      let all := statements source (fun _ => false) fuel
      let plain : Read Statement :=
        let (taken, behind) := cutStatement false trees
        (.expression (spanBetween trees behind) (expression source fuel taken), behind)
      let passed (behind : List Tree) : Read Statement :=
        (.other (spanBetween trees behind) [], behind)
      if tree.isGroup "\x7b" then (.block ⟨tree.start, tree.stop⟩ (all tree.body).1, rest)
      else if tree.isAttribute || tree.isAnyWord ["abstract", "final", "readonly"] ||
          (classKind? tree).isSome || tree.isWord "function" then
        match declaration? source fuel trees with
        | some found => found
        | none => if tree.isAnyWord ["class", "interface", "trait"] then passed [] else plain
      else if tree.isWord "if" then
        let ((delimiters, heads, parts), behind) := branches source fuel rest
        (.branches (spanBetween trees behind) delimiters heads parts, behind)
      else if tree.isWord "do" then
        let (body, behind) := oneStatement source fuel rest
        let (condition, behind) := cutStatement false behind
        (.doWhile (spanBetween trees behind) (unnamed source fuel condition) body, behind)
      else if tree.isWord "switch" then
        match rest with
        | subject :: braces :: behind =>
            let heads := unnamed source fuel subject.body
            if braces.isGroup "\x7b" then
              let (labels, cases) := (switchCases source fuel braces.body).1
              (.switch (spanBetween trees behind) .statement (heads ++ labels) cases, behind)
            else
              let ((labels, cases), behind) := switchCases source fuel behind
              let behind := (cutStatement false behind).2
              (.switch (spanBetween trees behind) .colon (heads ++ labels) cases, behind)
        | _ => passed []
      else if tree.isWord "try" then
        match rest with
        | braces :: behind =>
            let body := (all braces.body).1
            let (handlers, cleanup, behind) := handlers source fuel behind
            (.tryCatch (spanBetween trees behind) body handlers cleanup, behind)
        | [] => passed []
      else if tree.isWord "declare" then
        match rest with
        | _ :: colon :: behind =>
            if colon.isSymbol ":" then
              let behind := (statements source (Tree.isWord "enddeclare") fuel behind).2
              passed (cutStatement false behind).2
            else passed (oneStatement source fuel (colon :: behind)).2
        | _ => passed []
      else if tree.isWord "namespace" then
        match rest.dropWhile (Tree.isKind .name) with
        | next :: behind =>
            if next.isGroup "\x7b" then
              (.namespaced (spanBetween trees behind) (all next.body).1, behind)
            else
              let (body, behind) := statements source (Tree.isWord "namespace") fuel behind
              (.namespaced (spanBetween trees behind) body, behind)
        | [] => passed []
      else if tree.isWord "return" then
        let (taken, behind) := cutStatement false rest
        let value := if taken.isEmpty then none else some (expression source fuel taken)
        (.returning (spanBetween trees behind) value, behind)
      else if tree.isWord "__halt_compiler" then passed []
      else if tree.isKind .html || tree.isKind .openTag || tree.isTerminator then passed rest
      else if tree.isKind .echoTag then
        let (taken, behind) := cutStatement false rest
        (.other (spanBetween trees behind) (unnamed source fuel taken), behind)
      else
        match loopKind? tree, rest with
        | some (kind, ending), head :: behind =>
            let (delimiters, body, behind) := controlled source fuel ending behind
            let heads := unnamed source fuel head.body
            (.loop (spanBetween trees behind) kind delimiters heads body, behind)
        | _, colon :: behind =>
            if tree.isKind .name && colon.isSymbol ":" then passed behind else plain
        | _, [] => plain

def oneStatement (source : Text) : Nat → List Tree → Read (List Statement)
  | fuel + 1, tree :: rest =>
      let (only, behind) := statement source fuel tree rest
      ([only], behind)
  | _, trees => ([], trees)

/-- The body of a loop: one statement, or statements between a colon and an ending keyword. -/
def controlled (source : Text) : Nat → String → List Tree → Delimiters × Read (List Statement)
  | fuel + 1, ending, tree :: rest =>
      if tree.isSymbol ":" then
        let (body, behind) := statements source (Tree.isWord ending) fuel rest
        (.colon, body, (cutStatement false behind).2)
      else (.statement, oneStatement source fuel (tree :: rest))
  | _, _, trees => (.statement, [], trees)

def branches (source : Text) : Nat → List Tree → Read (Delimiters × Parts)
  | fuel + 1, condition :: colon :: rest =>
      let heads := unnamed source fuel condition.body
      if colon.isSymbol ":" then
        let ((more, parts), behind) := colonBranches source fuel rest
        ((.colon, heads ++ more, parts), behind)
      else
        let (first, behind) := oneStatement source fuel (colon :: rest)
        let (others, behind) := otherBranches source fuel behind
        ((.statement, others.cons heads first), behind)
  | _, _ => ((.statement, [], []), [])

def otherBranches (source : Text) : Nat → List Tree → Read Parts
  | fuel + 1, tree :: rest =>
      if tree.isWord "elseif" then
        let heads := unnamed source fuel (rest.take 1)
        let (branch, behind) := oneStatement source fuel (rest.drop 1)
        let (others, behind) := otherBranches source fuel behind
        (others.cons heads branch, behind)
      else if tree.isWord "else" then
        let (branch, behind) := oneStatement source fuel rest
        (([], [branch]), behind)
      else (([], []), tree :: rest)
  | _, trees => (([], []), trees)

def colonBranches (source : Text) : Nat → List Tree → Read Parts
  | fuel + 1, trees =>
      let (branch, behind) :=
        statements source (Tree.isAnyWord ["elseif", "else", "endif"]) fuel trees
      match behind with
      | tree :: rest =>
          if tree.isWord "endif" then (([], [branch]), (cutStatement false rest).2)
          else
            let heads := unnamed source fuel (rest.takeWhile fun t => !t.isSymbol ":")
            let (others, behind) :=
              colonBranches source fuel ((rest.dropWhile fun t => !t.isSymbol ":").drop 1)
            (others.cons heads branch, behind)
      | [] => (([], [branch]), [])
  | 0, trees => (([], []), trees)

def switchCases (source : Text) : Nat → List Tree → Read Parts
  | _ + 1, [] => (([], []), [])
  | fuel + 1, tree :: rest =>
      if startsCase tree then
        let stops := fun (t : Tree) => startsCase t || t.isWord "endswitch"
        let body := dropLabel 0 rest
        let labels := unnamed source fuel (rest.take (rest.length - body.length))
        let (first, behind) := statements source stops fuel body
        let (others, behind) := switchCases source fuel behind
        (others.cons labels first, behind)
      else if tree.isWord "endswitch" then (([], []), tree :: rest)
      else switchCases source fuel rest
  | 0, trees => (([], []), trees)

def handlers (source : Text) :
    Nat → List Tree → List (List Statement) × List Statement × List Tree
  | fuel + 1, tree :: rest =>
      let all := statements source (fun _ => false) fuel
      if tree.isWord "catch" then
        match rest with
        | _ :: braces :: behind =>
            let (others, cleanup, behind) := handlers source fuel behind
            ((all braces.body).1 :: others, cleanup, behind)
        | _ => ([], [], [])
      else if tree.isWord "finally" then
        match rest with
        | braces :: behind => ([], (all braces.body).1, behind)
        | [] => ([], [], [])
      else ([], [], tree :: rest)
  | _, trees => ([], [], trees)

def declaration? (source : Text) : Nat → List Tree → Option (Read Statement)
  | 0, _ => none
  | fuel + 1, trees =>
      match dropModifiers (dropAttributes trees) with
      | [] => none
      | keyword :: rest =>
          if keyword.isWord "function" then
            match signatureOf? source rest with
            | some (signature, braces :: behind) =>
                if braces.isGroup "\x7b" && braces.isClosed then
                  let body := (statements source (fun _ => false) fuel braces.body).1
                  some (.function (spanBetween trees behind) signature body, behind)
                else none
            | _ => none
          else
            match classHead? (keyword :: rest) with
            | some (kind, name, body, behind) =>
                some
                  (.classLike (spanBetween trees behind) kind name (members source fuel body),
                    behind)
            | none => none

def members (source : Text) : Nat → List Tree → List Member
  | 0, _ => []
  | _ + 1, [] => []
  | fuel + 1, tree :: rest =>
      let (first, behind) := member source fuel tree rest
      first :: members source fuel behind

def member (source : Text) : Nat → Tree → List Tree → Read Member
  | 0, tree, rest => (.other ⟨tree.start, tree.stop⟩, rest)
  | fuel + 1, tree, rest =>
      let trees := tree :: rest
      let plain := dropModifiers (dropAttributes trees)
      let passed (behind : List Tree) : Read Member := (.other (spanBetween trees behind), behind)
      match plain with
      | [] => passed []
      | keyword :: behindKeyword =>
          if keyword.isWord "function" then
            match signatureOf? source behindKeyword with
            | some (signature, next :: behind) =>
                let span := spanBetween trees behind
                if next.isGroup "\x7b" then
                  (.method span signature
                    (statements source (fun _ => false) fuel next.body).1, behind)
                else (.abstractMethod span signature, behind)
            | _ => passed behindKeyword
          else if keyword.isAnyWord ["const", "case"] then
            passed (cutStatement false behindKeyword).2
          else if keyword.isWord "use" then passed (dropProperty behindKeyword)
          else
            let before := plain.takeWhile fun t => !t.isKind .variable
            match plain.dropWhile fun t => !t.isKind .variable with
            | named :: behindName =>
                let behind := dropProperty behindName
                (.property (spanBetween trees behind) (variableName named)
                  (sourceText? source before), behind)
            | [] => passed []

end

def program (source : Text) : List Statement :=
  let found := trees source
  (statements source (fun _ => false) (4 * Tree.forestSize found + 4) found).1

end DocblockSync.Php
