import DocblockSync.Docblock.Content
import DocblockSync.Docblock.Model
import DocblockSync.Text.Lowercase

/-! The layout of a docblock. From top to bottom: the title unless the summary already says it, the
summary, the settings, the tags the author wrote above all others, parameters, thrown types, other
tags and the return type, with one blank line between groups. Nothing in between can close the
comment. -/

namespace DocblockSync.Docblock

open Text

/-- What a docblock is written for: a declaration and the indentation of its line. -/
structure Site where
  kind : DeclarationKind
  name : Text
  padding : Text
  deriving Repr, DecidableEq

def blankLine (padding : Text) : Text := padding ++ " *".toList

def textLine (padding text : Text) : Text :=
  if text.isEmpty then blankLine padding else padding ++ " * ".toList ++ text

def endsBlank (padding : Text) (body : List Text) : Bool :=
  match body.getLast? with
  | some line => trimEnd line == trimEnd (blankLine padding)
  | none => false

def addBlank (padding : Text) (body : List Text) : List Text := body ++ [blankLine padding]

def addTexts (padding : Text) (texts body : List Text) : List Text :=
  body ++ texts.map (textLine padding)

def addBlankIf (condition : Bool) (padding : Text) (body : List Text) : List Text :=
  if condition then addBlank padding body else body

/-- Whether a tag's source line already has the layout of a body line. -/
def isLaidOut (padding raw : Text) : Bool :=
  match after? padding raw with
  | some rest => startsWith " * ".toList rest && !contains closer raw
  | none => false

def tagLines (padding : Text) (tag : Tag) : List Text :=
  (if isLaidOut padding tag.raw then trimEnd tag.raw else textLine padding tag.text) ::
    tag.continuation.map (textLine padding)

def addTags (padding : Text) (tags : List Tag) (body : List Text) : List Text :=
  body ++ tags.flatMap (tagLines padding)

/-- An entry of the settings list; a description that repeats the name is left out. -/
def settingsEntry (usage : SettingsUsage) : Text :=
  match usage.description.map trim with
  | some description =>
      if description.isEmpty || description == usage.name then "- ".toList ++ usage.name
      else "- ".toList ++ usage.name ++ " : ".toList ++ description
  | none => "- ".toList ++ usage.name

def paramText (param : ParamDoc) : Text :=
  "@param ".toList ++ param.typeHint.getD "mixed".toList ++ " $".toList ++ param.name ++
    match param.description with
    | some description => ' ' :: description
    | none => []

def paramTexts (param : ParamDoc) : List Text := paramText param :: param.continuation

/-- The text of the return tag; a missing or blank type is written `void`. -/
def returnText (docblock : Docblock) : Text :=
  "@return ".toList ++
    (docblock.returnType.filter fun type => !(trim type).isEmpty).getD "void".toList ++
    match docblock.returnDescription with
    | some description => ' ' :: description
    | none => []

def titleWords : List Text :=
  ["function", "method", "class", "interface", "trait", "property"].map String.toList

/-- A text without the first title word that starts it as a word of its own. -/
def withoutTitleWord (t : Text) : Text :=
  let stripped := titleWords.findSome? fun word =>
    (after? word t).bind fun rest =>
      match rest with
      | c :: _ => if isBlank c then some (trimStart rest) else none
      | [] => none
  stripped.getD t

/-- Whether a text starts with a name, in any case, behind an optional title word and dollar sign. -/
def namesFirst (name line : Text) : Bool :=
  match after? (lower name) (dropHead ['$'] (withoutTitleWord (lower line))) with
  | some (c :: _) => !(isAlphanumeric c || c == '_')
  | some [] => true
  | none => false

/-- Whether the first line of a summary that is not blank is the title or names the declaration. -/
def summaryNames (summary : List Text) (title name : Text) : Bool :=
  match (summary.map trim).find? fun line => !line.isEmpty with
  | some first => first == title || namesFirst name first
  | none => false

/-- The title, unless the declaration has no name or the summary already says it. -/
def titleTexts (docblock : Docblock) (site : Site) : List Text :=
  let title := site.kind.label ++ ' ' :: site.name
  if site.name.isEmpty || summaryNames docblock.summary title site.name then [] else [title]

def headLines (docblock : Docblock) (site : Site) : List Text :=
  let body := addTexts site.padding (titleTexts docblock site ++ docblock.summary) []
  if docblock.settings.isEmpty then body
  else
    addTexts site.padding ("@settings".toList :: docblock.settings.map settingsEntry)
      (addBlankIf (!body.isEmpty) site.padding body)

def statesReturn (docblock : Docblock) (site : Site) : Bool :=
  site.kind.isFunctionLike || docblock.returnType.isSome

def bodyLines (docblock : Docblock) (site : Site) : List Text :=
  let padding := site.padding
  let throws := docblock.throwsTags
  let plain := docblock.otherTags.filter fun tag => !tag.isThrows
  let leading := plain.filter Tag.leading
  let others := plain.filter fun tag => !tag.leading
  let tagged := !leading.isEmpty || !docblock.parameters.isEmpty
  let returns := statesReturn docblock site
  let body := headLines docblock site
  let body := addBlankIf
    (!body.isEmpty && (tagged || !throws.isEmpty || !others.isEmpty || returns)) padding body
  let body := addTags padding leading body
  let body := addTexts padding (docblock.parameters.flatMap paramTexts) body
  let body :=
    if throws.isEmpty then
      if others.isEmpty then body
      else addTags padding others (addBlankIf (tagged && !endsBlank padding body) padding body)
    else
      addTags padding others <| addBlank padding <| addTags padding throws <|
        addBlankIf (tagged && !endsBlank padding body) padding body
  if returns then
    addTexts padding (returnText docblock :: docblock.returnContinuation)
      (addBlankIf (!body.isEmpty && !endsBlank padding body) padding body)
  else body

def defuse : Text → Text
  | [] => []
  | '*' :: '/' :: t => '*' :: ' ' :: '/' :: defuse t
  | c :: t => c :: defuse t

/-- A body line that cannot close the comment; one that does nothing else is dropped. -/
def sanitize? (line : Text) : Option Text :=
  let trimmed := trim line
  if trimmed == closer || trimmed == "**/".toList || trimmed == "* */".toList then none
  else some (defuse line)

def render (docblock : Docblock) (site : Site) : List Text :=
  (site.padding ++ opener) ::
    (bodyLines docblock site).filterMap sanitize? ++ [site.padding ++ " */".toList]

def renderProperty (padding : Text) (typeHint : Option Text) : List Text :=
  [padding ++ opener, padding ++ " * @var ".toList ++ typeHint.getD "mixed".toList,
    padding ++ " */".toList]

end DocblockSync.Docblock
