import DocblockSync.Text.Basic

/-! The statements of a PHP program, as far as its documentation depends on them. Every statement and
member has the byte range it takes up in the source. Of expressions only the forms that tell what is
returned or thrown are kept apart; any other is as good as the functions and classes without a name
that stand in it. -/

namespace DocblockSync.Php

/-- Bytes from `start` up to but not including `stop`. -/
structure Span where
  start : Nat
  stop : Nat
  deriving Repr, DecidableEq

/-- A parameter as written: its name without the dollar sign, and its type. -/
structure Param where
  name : Text
  typeHint : Option Text
  deriving Repr, DecidableEq

structure Signature where
  name : Text
  params : List Param
  returnType : Option Text
  deriving Repr, DecidableEq

inductive LoopKind where
  | forEach
  | for
  | while
  deriving Repr, DecidableEq

inductive Delimiters where
  /-- A statement for each part, most often a block. -/
  | statement
  /-- Colons and an ending keyword. -/
  | colon
  deriving Repr, DecidableEq

inductive ClassKind where
  | classType
  | interfaceType
  | traitType
  | enumType
  deriving Repr, DecidableEq

mutual

/-- An expression. Where it holds a list, these are the functions and classes without a name that
stand in it, in source order. -/
inductive Expression where
  /-- A string without interpolation. -/
  | string
  | int
  | float
  | bool
  | null
  | array (within : List Expression)
  | parenthesized (inner : Expression)
  /-- A new instance of a class given by name, the name as written. -/
  | instantiation (className : Text) (within : List Expression)
  | throwing (exception : Expression)
  | closure (body : List Statement)
  | arrow (value : Expression)
  | anonymousClass (members : List Member)
  | other (within : List Expression)

/-- A statement. The `heads` of a control structure are the functions and classes without a name in its
conditions, its labels or whatever else stands beside the statements it holds. -/
inductive Statement where
  | block (span : Span) (body : List Statement)
  /-- The branches of an `if` in order: `if`, every `elseif`, `else`. -/
  | branches (span : Span) (delimiters : Delimiters) (heads : List Expression)
      (parts : List (List Statement))
  | loop (span : Span) (kind : LoopKind) (delimiters : Delimiters) (heads : List Expression)
      (body : List Statement)
  | doWhile (span : Span) (heads : List Expression) (body : List Statement)
  | switch (span : Span) (delimiters : Delimiters) (heads : List Expression)
      (cases : List (List Statement))
  /-- The protected statements, every handler, and the final statements. -/
  | tryCatch (span : Span) (body : List Statement) (handlers : List (List Statement))
      (cleanup : List Statement)
  | namespaced (span : Span) (body : List Statement)
  | function (span : Span) (signature : Signature) (body : List Statement)
  | classLike (span : Span) (kind : ClassKind) (name : Text) (members : List Member)
  | returning (span : Span) (value : Option Expression)
  | expression (span : Span) (value : Expression)
  | other (span : Span) (heads : List Expression)

inductive Member where
  | method (span : Span) (signature : Signature) (body : List Statement)
  /-- A method without a body. -/
  | abstractMethod (span : Span) (signature : Signature)
  /-- A property declaration, named after its first variable. -/
  | property (span : Span) (name : Text) (typeHint : Option Text)
  | other (span : Span)

end

end DocblockSync.Php
