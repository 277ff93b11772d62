import DocblockSync.Extraction
import DocblockSync.Options
import DocblockSync.Php.Parser
import DocblockSync.Plan

/-! Generating docblocks: from a source to the edits that document it, and to the documented source.
All edits refer to the unchanged source and run from its end to its start. -/

namespace DocblockSync

open Text Document

inductive GenerateError where
  | invalidSettingsFunction (name : Text)
  | plan (error : PlanError)
  | edit (error : EditError)
  deriving Repr, DecidableEq

def PlanError.message : PlanError → Text
  | .invertedLines startLine endLine =>
      "declaration ends at line ".toList ++ ofNat endLine ++ " before its start at line ".toList ++
        ofNat startLine

def GenerateError.message : GenerateError → Text
  | .invalidSettingsFunction name =>
      "invalid settings function name '".toList ++ name ++
        "': expected a PHP identifier".toList
  | .plan error => error.message
  | .edit error => "failed to apply docblock edits: ".toList ++ error.message

/-- Options whose settings functions are all plain identifiers pass. -/
def Options.validate (options : Options) : Except GenerateError Unit :=
  match options.invalidFunction? with
  | some name => .error (.invalidSettingsFunction name)
  | none => .ok ()

def sourceOutline (source : Text) : List Outline := Extraction.outline source (Php.program source)

def planContext (source : Text) (options : Options) (descriptions : Descriptions) :
    PlanContext where
  lines := lines source
  settingsFunctions := options.settingsFunctions
  descriptions := descriptions
  documentProperties := options.documentProperties

def generateFrom (outline : List Outline) (source : Text) (options : Options)
    (descriptions : Descriptions) : Except GenerateError (List Edit) := do
  options.validate
  ((planContext source options descriptions).planAll outline).mapError .plan

def generate (source : Text) (options : Options) (descriptions : Descriptions) :
    Except GenerateError (List Edit) :=
  generateFrom (sourceOutline source) source options descriptions

def coversLine (lines : List Text) (line : Nat) (declaration : Declaration) : Bool :=
  let first :=
    match existingDocblock? lines declaration.startLine with
    | some range => range.first
    | none => declaration.startLine
  first ≤ line && line ≤ declaration.endLine

def lineTargets (outline : Outline) : List Declaration :=
  outline.declaration ::
    if outline.declaration.kind.isClassLike then
      (outline.children.map Outline.declaration).filter fun child => child.kind == .property
    else []

def generateForLineFrom (outline : List Outline) (source : Text) (line : Nat) (options : Options)
    (descriptions : Descriptions) : Except GenerateError (List Edit) := do
  options.validate
  match Outline.innermost? (coversLine (lines source) line) outline with
  | none => return []
  | some found =>
      ((planContext source options descriptions).plan (lineTargets found)).mapError .plan

def generateForLine (source : Text) (line : Nat) (options : Options)
    (descriptions : Descriptions) : Except GenerateError (List Edit) :=
  generateForLineFrom (sourceOutline source) source line options descriptions

def document (source : Text) (options : Options) (descriptions : Descriptions) :
    Except GenerateError Text := do
  let edits ← generate source options descriptions
  (applyEdits source edits).mapError .edit

end DocblockSync
