import DocblockSync.Text.Basic

/-! Declarations that carry a docblock, and the outline of a source: the forest in which members and
nested declarations stand below the declaration that holds them. -/

namespace DocblockSync

inductive DeclarationKind where
  | function
  | method
  | classType
  | interfaceType
  | traitType
  | property
  deriving Repr, DecidableEq

namespace DeclarationKind

/-- The word in front of the name; functions and methods share one. -/
def label : DeclarationKind → Text
  | .function | .method => "function".toList
  | .classType => "class".toList
  | .interfaceType => "interface".toList
  | .traitType => "trait".toList
  | .property => "property".toList

def isFunctionLike : DeclarationKind → Bool
  | .function | .method => true
  | _ => false

def isClassLike : DeclarationKind → Bool
  | .classType | .interfaceType | .traitType => true
  | _ => false

end DeclarationKind

/-- A parameter; its name has no dollar sign, its type is as written. -/
structure Parameter where
  name : Text
  declaredType : Option Text
  deriving Repr, DecidableEq

/-- What the source says about one declaration. Lines count from zero, both ends included. -/
structure Declaration where
  kind : DeclarationKind
  name : Text
  startLine : Nat
  endLine : Nat
  parameters : List Parameter := []
  declaredReturn : Option Text := none
  /-- The type read off the returns of the body, present when no type is declared. -/
  inferredReturn : Option Text := none
  /-- The types thrown in the body itself, each once, in order. -/
  thrown : List Text := []
  /-- False for abstract methods and those of interfaces. -/
  hasBody : Bool := true
  /-- The declared type of a property. -/
  typeHint : Option Text := none
  deriving Repr, DecidableEq

def Declaration.title (declaration : Declaration) : Text :=
  declaration.kind.label ++ ' ' :: declaration.name

/-- A declaration with the declarations inside it, in source order. -/
inductive Outline where
  | node (declaration : Declaration) (children : List Outline)
  deriving Repr

namespace Outline

def declaration : Outline → Declaration
  | .node declaration _ => declaration

def children : Outline → List Outline
  | .node _ children => children

mutual

/-- A declaration followed by all declarations inside it, depth first. -/
def declarations : Outline → List Declaration
  | .node declaration children => declaration :: forestDeclarations children

def forestDeclarations : List Outline → List Declaration
  | [] => []
  | outline :: rest => outline.declarations ++ forestDeclarations rest

end

mutual

def descend (covers : Declaration → Bool) : Outline → Outline
  | .node declaration children =>
      (innermost? covers children).getD (.node declaration children)

/-- The innermost declaration that covers, found by following the first covering entry of each
level. -/
def innermost? (covers : Declaration → Bool) : List Outline → Option Outline
  | [] => none
  | outline :: rest =>
      if covers outline.declaration then some (descend covers outline) else innermost? covers rest

end

end Outline

end DocblockSync
