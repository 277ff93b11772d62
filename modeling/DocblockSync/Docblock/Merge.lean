import DocblockSync.Docblock.Model

/-! Merging what the source determines into what the author wrote. Summary, descriptions and unrelated
tags stay; parameters, return type, thrown types and settings follow the source where it determines
them. -/

namespace DocblockSync.Docblock

open Text

/-- Whether a documented type spells out a native array or iterable more precisely. -/
def refines (declared documented : Text) : Bool :=
  let native := lowerAscii ((trim declared).dropWhile (· == '?'))
  let precise := lowerAscii (trim documented)
  (native == "array".toList || native == "iterable".toList) &&
    (endsWith "[]".toList precise ||
      ["array<", "list<", "iterable<", "array\x7b", "non-empty-array<", "non-empty-list<"].any
        fun head => startsWith head.toList precise)

/-- The type shown for a parameter. The declared type wins unless the documented one refines it. -/
def paramType : (declared documented : Option Text) → Text
  | some declared, some documented => if refines declared documented then documented else declared
  | some declared, none => declared
  | none, some documented => documented
  | none, none => "mixed".toList

/-- A parameter with the type shown for it and its documented texts. -/
def mergeParam (param : Parameter) (old : Option ParamDoc) : ParamDoc where
  name := param.name
  typeHint := some (paramType param.declaredType (old.bind ParamDoc.typeHint))
  description := old.bind ParamDoc.description
  continuation := (old.map ParamDoc.continuation).getD []

def documentedDescription? (old : List SettingsUsage) (name : Text) : Option Text :=
  old.reverse.findSome? fun usage => if usage.name == name then usage.description else none

/-- Settings as used now; a documented description fills in where none is known. -/
def mergeSettings (usages old : List SettingsUsage) : List SettingsUsage :=
  usages.map fun usage =>
    { usage with
      description := usage.description.or (documentedDescription? old usage.name) }

/-- Whether two names denote one type: case and leading backslashes do not matter. -/
def sameType (a b : Text) : Bool :=
  sameIgnoringCase (a.dropWhile (· == '\\')) (b.dropWhile (· == '\\'))

def documentsThrow (tags : List Tag) (type : Text) : Bool :=
  (tags.filterMap Tag.throwsType?).any fun name => sameType name type

/-- Whether a tag stays: one that is no throws tag, or one that names a type still thrown. -/
def staysThrown (thrown : List Text) (tag : Tag) : Bool :=
  !tag.isThrows || tag.throwsType?.any fun name => thrown.any fun type => sameType type name

def addThrow (tags : List Tag) (type : Text) : List Tag :=
  if documentsThrow tags type then tags else tags ++ [Tag.throwing type]

def reconcileThrows (tags : List Tag) (thrown : List Text) : List Tag :=
  thrown.foldl addThrow (tags.filter (staysThrown thrown))

def merge (old : Docblock) (derived : DerivedFields) : Docblock :=
  { old with
    parameters :=
      match derived.parameters with
      | some parameters => parameters.map fun param => mergeParam param (old.param? param.name)
      | none => old.parameters
    returnType := derived.returnType.or old.returnType
    settings :=
      match derived.settings with
      | some usages => mergeSettings usages old.settings
      | none => old.settings
    otherTags :=
      match derived.throws with
      | some thrown => reconcileThrows old.otherTags thrown
      | none => old.otherTags }

end DocblockSync.Docblock
