import DocblockSync.Declaration
import DocblockSync.ReturnType
import DocblockSync.Settings.Usage
import DocblockSync.Text.Letter

/-! The content of a docblock, apart from its layout, and the fields that the source determines. -/

namespace DocblockSync

open Text

/-- A documented parameter; its name has no dollar sign. -/
structure ParamDoc where
  name : Text
  typeHint : Option Text
  description : Option Text
  /-- The description lines below the tag. -/
  continuation : List Text := []
  deriving Repr, DecidableEq

/-- A line kept for its author: any tag without a field of its own, or free text between tags. -/
structure Tag where
  text : Text
  /-- The source line the tag was read from; empty for a generated tag. -/
  raw : Text := []
  continuation : List Text := []
  /-- Whether the author wrote it above every generated tag. -/
  leading : Bool := false
  deriving Repr, DecidableEq

def isTagNameChar (c : Char) : Bool := isAlphanumeric c || c == '-' || c == '_' || c == '\\'

def tagName? : Text → Option Text
  | '@' :: rest => some ('@' :: rest.takeWhile isTagNameChar)
  | _ => none

namespace Tag

def isThrows (tag : Tag) : Bool := tagName? tag.text == some "@throws".toList

def throwsType? (tag : Tag) : Option Text :=
  if tag.isThrows then (words tag.text)[1]? else none

def throwing (type : Text) : Tag := { text := "@throws ".toList ++ type }

end Tag

structure Docblock where
  /-- Description lines; an empty entry divides paragraphs. -/
  summary : List Text := []
  parameters : List ParamDoc := []
  returnType : Option Text := none
  returnDescription : Option Text := none
  returnContinuation : List Text := []
  settings : List SettingsUsage := []
  otherTags : List Tag := []
  deriving Repr, DecidableEq

namespace Docblock

def param? (docblock : Docblock) (name : Text) : Option ParamDoc :=
  docblock.parameters.find? fun param => param.name == name

def throwsTags (docblock : Docblock) : List Tag := docblock.otherTags.filter Tag.isThrows

end Docblock

/-- Docblock content recomputed from the source; an absent field leaves the documented one alone. -/
structure DerivedFields where
  parameters : Option (List Parameter) := none
  returnType : Option Text := none
  throws : Option (List Text) := none
  settings : Option (List SettingsUsage) := none
  deriving Repr, DecidableEq

namespace DerivedFields

/-- What a declaration determines. Only functions and methods determine anything, and one without a
body only its parameters and its declared type. -/
def ofDeclaration (declaration : Declaration) (settingsNames : List Text)
    (descriptions : Descriptions) : DerivedFields :=
  if !declaration.kind.isFunctionLike then {}
  else
    let declared := declaration.declaredReturn.map collapseMixed
    if !declaration.hasBody then
      { parameters := some declaration.parameters, returnType := declared }
    else
      { parameters := some declaration.parameters
        returnType := some ((declared.or declaration.inferredReturn).getD "void".toList)
        throws := some declaration.thrown
        settings := some (settingsNames.map descriptions.usage) }

end DerivedFields

end DocblockSync
