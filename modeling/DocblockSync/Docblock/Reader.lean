import DocblockSync.Docblock.Content
import DocblockSync.Docblock.ParamTag
import DocblockSync.Docblock.ReturnTag

/-! Reading a docblock. Lines before the first tag are the summary; a tag opens a field, and the lines
below it continue that field up to a blank line. Nothing is refused: a line without a field of its
own is kept as a tag, with its source line. -/

namespace DocblockSync.Docblock

open Text

inductive Continues where
  | nothing
  | settings
  | param
  | returns
  | other
  deriving Repr, DecidableEq

/-- The state of reading: what was read, whether the summary is still open, and whether a tag that
the layout regenerates has been seen. -/
structure Reading where
  docblock : Docblock := {}
  inSummary : Bool := true
  inGenerated : Bool := false
  continues : Continues := .nothing
  deriving Repr, DecidableEq

def onLast {α : Type} (change : α → α) : List α → List α
  | [] => []
  | [last] => [change last]
  | first :: rest => first :: onLast change rest

/-- An entry of the settings list: a name, or a name and a description around ` : `. -/
def readSettingsEntry (entry : Text) : SettingsUsage :=
  match splitOnce? " : ".toList (trim entry) with
  | some (name, description) => ⟨trim name, nonempty? (trim description)⟩
  | none => ⟨trim entry, none⟩

namespace Reading

def keep (state : Reading) (text raw : Text) (leading : Bool) : Reading :=
  { state with
    docblock :=
      { state.docblock with otherTags := state.docblock.otherTags ++ [{ text, raw, leading }] }
    continues := .other }

def generated (state : Reading) : Reading :=
  { state with inSummary := false, inGenerated := true }

def readParamTag (state : Reading) (text raw : Text) : Reading :=
  match readParam? text with
  | some param =>
      { state with
        docblock :=
          { state.docblock with parameters := state.docblock.parameters ++ [param] }
        continues := .param }
  | none => state.keep text raw false

/-- Reads a return tag. One without a type keeps its text as the description. -/
def readReturnTag (state : Reading) (text : Text) : Reading :=
  let (type, description) :=
    match readReturn? text with
    | some (type, description) => (some type, description)
    | none => (none, nonempty? (trim (dropHead "@return".toList text)))
  { state with
    docblock :=
      { state.docblock with
        returnType := type, returnDescription := description, returnContinuation := [] }
    continues := .returns }

def readTag (state : Reading) (name text raw : Text) : Reading :=
  if name == "@settings".toList then { state.generated with continues := .settings }
  else if name == "@param".toList then state.generated.readParamTag text raw
  else if name == "@return".toList then state.generated.readReturnTag text
  else
    let inGenerated := state.inGenerated || name == "@throws".toList
    ({ state with inSummary := false, inGenerated }).keep text raw !inGenerated

def readFree (state : Reading) (text raw : Text) : Reading :=
  let docblock := state.docblock
  if state.inSummary then
    { state with docblock := { docblock with summary := docblock.summary ++ [text] } }
  else
    match state.continues with
    | .param =>
        { state with
          docblock :=
            { docblock with
              parameters :=
                onLast (fun p => { p with continuation := p.continuation ++ [text] })
                  docblock.parameters } }
    | .returns =>
        { state with
          docblock :=
            { docblock with returnContinuation := docblock.returnContinuation ++ [text] } }
    | .other =>
        { state with
          docblock :=
            { docblock with
              otherTags :=
                onLast (fun tag => { tag with continuation := tag.continuation ++ [text] })
                  docblock.otherTags } }
    | .nothing | .settings => state.keep text raw !state.inGenerated

/-- A blank line divides paragraphs of the summary and ends what was continued. -/
def readBlank (state : Reading) : Reading :=
  let docblock := state.docblock
  { state with
    docblock :=
      if state.inSummary then { docblock with summary := docblock.summary ++ [[]] } else docblock
    continues := .nothing }

def readEntry (state : Reading) (entry : Text) : Reading :=
  { state with
    docblock :=
      { state.docblock with settings := state.docblock.settings ++ [readSettingsEntry entry] } }

def readPlain (state : Reading) (line : ContentLine) : Reading :=
  if line.text.isEmpty then state.readBlank
  else
    match tagName? (trimStart line.text) with
    | some name => state.readTag name (trimStart line.text) line.raw
    | none => state.readFree line.text line.raw

/-- Reads one content line. Entries count as such only directly below their tag. -/
def read (state : Reading) (line : ContentLine) : Reading :=
  match state.continues, after? "- ".toList line.text with
  | .settings, some entry => state.readEntry entry
  | _, _ => state.readPlain line

end Reading

/-- Drops an empty line at the front and after another empty line. -/
def squeezeBlank (afterBlank : Bool) : List Text → List Text
  | [] => []
  | line :: rest =>
      if line.isEmpty then
        if afterBlank then squeezeBlank true rest else line :: squeezeBlank true rest
      else line :: squeezeBlank false rest

/-- A summary without empty lines at its ends and with single ones inside. -/
def tidySummary (lines : List Text) : List Text :=
  ((squeezeBlank true lines).reverse.dropWhile List.isEmpty).reverse

def ofLines (lines : List Text) : Docblock :=
  let docblock := ((contentLines lines).foldl Reading.read {}).docblock
  { docblock with summary := tidySummary docblock.summary }

end DocblockSync.Docblock
