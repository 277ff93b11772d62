import DocblockSync.Declaration
import DocblockSync.Document.LineIndex
import DocblockSync.Scope

/-! The outline of a program. Declarations inside control structures stand beside those around them;
what a function, method or class-like declaration holds stands below it. An enum is not documented
itself, its methods take its place. -/

namespace DocblockSync.Extraction

open Php Document

/-- The first and the last line of a byte range; the last is that of the final byte. -/
def lineRange (index : LineIndex) (span : Span) : Nat × Nat :=
  (index.lineOf span.start, index.lineOf (max span.stop (span.start + 1) - 1))

def parameterOf (param : Param) : Parameter := ⟨param.name, param.typeHint⟩

def signatureDeclaration (index : LineIndex) (kind : DeclarationKind) (span : Span)
    (signature : Signature) : Declaration where
  kind := kind
  name := signature.name
  startLine := (lineRange index span).1
  endLine := (lineRange index span).2
  parameters := signature.params.map parameterOf
  declaredReturn := signature.returnType
  hasBody := false

def functionDeclaration (index : LineIndex) (kind : DeclarationKind) (span : Span)
    (signature : Signature) (body : List Statement) : Declaration :=
  { signatureDeclaration index kind span signature with
    hasBody := true
    inferredReturn :=
      if signature.returnType.isSome then none else some (Scope.returnType body)
    thrown := Scope.thrownTypes body }

/-- The kind of a class-like declaration; an enum has none. -/
def classDeclarationKind? : ClassKind → Option DeclarationKind
  | .classType => some .classType
  | .interfaceType => some .interfaceType
  | .traitType => some .traitType
  | .enumType => none

def classDeclaration (index : LineIndex) (kind : DeclarationKind) (span : Span) (name : Text) :
    Declaration where
  kind := kind
  name := name
  startLine := (lineRange index span).1
  endLine := (lineRange index span).2

def propertyDeclaration (index : LineIndex) (span : Span) (name : Text)
    (typeHint : Option Text) : Declaration :=
  { classDeclaration index .property span name with typeHint }

def isMethod (outline : Outline) : Bool := outline.declaration.kind == .method

mutual

def ofStatement (index : LineIndex) : Statement → List Outline
  | .block _ body => ofStatements index body
  | .branches _ _ _ parts => ofParts index parts
  | .loop _ _ _ _ body => ofStatements index body
  | .doWhile _ _ body => ofStatements index body
  | .switch _ _ _ cases => ofParts index cases
  | .tryCatch _ body handlers cleanup =>
      ofStatements index body ++ ofParts index handlers ++ ofStatements index cleanup
  | .namespaced _ body => ofStatements index body
  | .function span signature body =>
      [.node (functionDeclaration index .function span signature body) (ofStatements index body)]
  | .classLike span kind name members =>
      match classDeclarationKind? kind with
      | some declared =>
          [.node (classDeclaration index declared span name) (ofMembers index members)]
      | none => (ofMembers index members).filter isMethod
  | .returning _ _ => []
  | .expression _ _ => []
  | .other _ _ => []

def ofStatements (index : LineIndex) : List Statement → List Outline
  | [] => []
  | statement :: rest => ofStatement index statement ++ ofStatements index rest

def ofParts (index : LineIndex) : List (List Statement) → List Outline
  | [] => []
  | part :: rest => ofStatements index part ++ ofParts index rest

def ofMember (index : LineIndex) : Member → List Outline
  | .method span signature body =>
      [.node (functionDeclaration index .method span signature body) (ofStatements index body)]
  | .abstractMethod span signature => [.node (signatureDeclaration index .method span signature) []]
  | .property span name typeHint => [.node (propertyDeclaration index span name typeHint) []]
  | .other _ => []

def ofMembers (index : LineIndex) : List Member → List Outline
  | [] => []
  | member :: rest => ofMember index member ++ ofMembers index rest

end

def outline (source : Text) (program : List Statement) : List Outline :=
  ofStatements (LineIndex.ofSource source) program

end DocblockSync.Extraction
