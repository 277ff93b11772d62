import DocblockSync.Php.Syntax
import DocblockSync.ReturnType

/-! One scope of a program. Control structures belong to the scope they stand in; functions, classes
and expressions have scopes of their own and are not entered. -/

namespace DocblockSync.Scope

open Php

mutual

/-- A statement of a scope, or in place of a control structure the statements it holds, in source
order. -/
def reached : Statement → List Statement
  | .block _ body => reachedAll body
  | .branches _ _ _ parts => reachedParts parts
  | .loop _ _ _ _ body => reachedAll body
  | .doWhile _ _ body => reachedAll body
  | .switch _ _ _ cases => reachedParts cases
  | .tryCatch _ body handlers cleanup =>
      reachedAll body ++ reachedParts handlers ++ reachedAll cleanup
  | .namespaced _ body => reachedAll body
  | .function span signature body => [.function span signature body]
  | .classLike span kind name members => [.classLike span kind name members]
  | .returning span value => [.returning span value]
  | .expression span value => [.expression span value]
  | .other span heads => [.other span heads]

def reachedAll : List Statement → List Statement
  | [] => []
  | statement :: rest => reached statement ++ reachedAll rest

def reachedParts : List (List Statement) → List Statement
  | [] => []
  | part :: rest => reachedAll part ++ reachedParts rest

end

def kindOf : Expression → ReturnKind
  | .string => .string
  | .int => .int
  | .float => .float
  | .bool => .bool
  | .null => .null
  | .array _ => .array
  | .parenthesized inner => kindOf inner
  | .instantiation className _ => .named className
  | .throwing _ | .closure _ | .arrow _ | .anonymousClass _ | .other _ => .mixed

def returnedKind? : Statement → Option ReturnKind
  | .returning _ (some value) => some (kindOf value)
  | .returning _ none => some .void
  | _ => none

/-- The distinct kinds that a scope returns, in order of first appearance. -/
def returnKinds (statements : List Statement) : List ReturnKind :=
  ((reachedAll statements).filterMap returnedKind?).eraseDups

def returnType (statements : List Statement) : Text := joinKinds (returnKinds statements)

/-- The type of a thrown value; one that is no instance of a named class has the general type. -/
def thrownName : Expression → Text
  | .instantiation className _ => className
  | .parenthesized inner => thrownName inner
  | _ => "Exception".toList

def thrownType? : Statement → Option Text
  | .expression _ (.throwing exception) => some (thrownName exception)
  | _ => none

/-- The distinct types that a scope throws, in order of first appearance. -/
def thrownTypes (statements : List Statement) : List Text :=
  ((reachedAll statements).filterMap thrownType?).eraseDups

end DocblockSync.Scope
