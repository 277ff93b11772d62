import DocblockSync.Docblock.Layout
import DocblockSync.Docblock.Merge
import DocblockSync.Docblock.Reader
import DocblockSync.Document.Edit
import DocblockSync.Settings.Scanner

/-! Planning the edits of a source. Each declaration either has a docblock directly above it, which is
brought up to date, or gets a new one; a docblock belongs to the lowest declaration below it. -/

namespace DocblockSync

open Text Docblock Document

/-- Lines of a source, counted from zero, both ends included. -/
structure LineRange where
  first : Nat
  last : Nat
  deriving Repr, DecidableEq

namespace LineRange

def slice (range : LineRange) (lines : List Text) : List Text :=
  (lines.drop range.first).take (range.last + 1 - range.first)

end LineRange

/-- The place of the line that opens a comment, looking upward through lines that start with a marker.
The lines are given from the nearest to the first of the source, so that the place of each is the
number of those behind it. -/
def openingLine? : List Text → Option Nat
  | [] => none
  | line :: above =>
      if startsWith opener (trim line) then some above.length
      else if startsWith ['*'] (trim line) then openingLine? above
      else none

/-- The docblock directly above a line, with nothing but blank lines between them. -/
def existingDocblock? (lines : List Text) (startLine : Nat) : Option LineRange :=
  match (lines.take startLine).reverse.dropWhile fun line => (trim line).isEmpty with
  | [] => none
  | line :: above =>
      let closing := trim line
      if !endsWith closer closing then none
      else if startsWith opener closing then some ⟨above.length, above.length⟩
      else if startsWith ['/', '*'] closing then none
      else (openingLine? above).map fun first => ⟨first, above.length⟩

/-- What planning draws on: the lines of the source, the functions that fetch settings, what is known
about settings, and whether properties get docblocks. -/
structure PlanContext where
  lines : List Text
  settingsFunctions : List Text
  descriptions : Descriptions
  documentProperties : Bool
  deriving Repr

inductive PlanError where
  /-- A function that ends before it starts has no text. -/
  | invertedLines (startLine endLine : Nat)
  deriving Repr, DecidableEq

namespace PlanContext

def padding (context : PlanContext) (line : Nat) : Text :=
  indentation (context.lines[line]?.getD [])

def code (context : PlanContext) (declaration : Declaration) : Except PlanError Text :=
  let last := min declaration.endLine (context.lines.length - 1)
  if last + 1 < declaration.startLine then
    .error (.invertedLines declaration.startLine declaration.endLine)
  else .ok (joinLines (LineRange.slice ⟨declaration.startLine, last⟩ context.lines))

/-- The settings that a declaration uses; only functions and methods use any. -/
def settingsNames (context : PlanContext) (declaration : Declaration) :
    Except PlanError (List Text) :=
  if declaration.kind.isFunctionLike then
    (context.code declaration).map (Settings.scan context.settingsFunctions)
  else .ok []

def insertAbove (declaration : Declaration) (lines : List Text) (message : Text) : Edit where
  target := .insert declaration.startLine 0
  text := joinLines lines ++ ['\n']
  message := message

def propertyEdit (context : PlanContext) (declaration : Declaration) : Edit :=
  insertAbove declaration
    (renderProperty (context.padding declaration.startLine) declaration.typeHint)
    ("Add @var docblock for $".toList ++ declaration.name)

def wantedLines (context : PlanContext) (declaration : Declaration) (settings : List Text)
    (existing : Option LineRange) : List Text :=
  let old :=
    match existing with
    | some range => Docblock.ofLines (range.slice context.lines)
    | none => {}
  let derived := DerivedFields.ofDeclaration declaration settings context.descriptions
  (old.merge derived).render
    { kind := declaration.kind
      name := declaration.name
      padding := context.padding declaration.startLine }

def docblockEdit? (context : PlanContext) (declaration : Declaration)
    (existing : Option LineRange) : Except PlanError (Option Edit) := do
  let settings ← context.settingsNames declaration
  let wanted := context.wantedLines declaration settings existing
  match existing with
  | some range =>
      if range.slice context.lines == wanted then return none
      else
        return some
          { target := .replace range.first range.last
            text := joinLines wanted
            message := "Update docblock for ".toList ++ declaration.title }
  | none =>
      return some
        (insertAbove declaration wanted ("Add docblock for ".toList ++ declaration.title))

/-- What has been planned so far, and the docblocks already spoken for. -/
structure Progress where
  claimed : List LineRange := []
  edits : List Edit := []
  deriving Repr

def planNext (context : PlanContext) (progress : Progress) (declaration : Declaration) :
    Except PlanError Progress :=
  if context.lines.length ≤ declaration.startLine then .ok progress
  else
    let existing := existingDocblock? context.lines declaration.startLine
    if existing.any fun range => progress.claimed.contains range then .ok progress
    else
      let progress := { progress with claimed := progress.claimed ++ existing.toList }
      if declaration.kind = .property then
        if !context.documentProperties || existing.isSome then .ok progress
        else .ok { progress with edits := progress.edits ++ [context.propertyEdit declaration] }
      else
        (context.docblockEdit? declaration existing).map fun edit =>
          { progress with edits := progress.edits ++ edit.toList }

def plan (context : PlanContext) (declarations : List Declaration) :
    Except PlanError (List Edit) :=
  ((declarations.mergeSort fun a b => b.startLine ≤ a.startLine).foldlM context.planNext {}).map
    Progress.edits

def planAll (context : PlanContext) (outline : List Outline) : Except PlanError (List Edit) :=
  context.plan (Outline.forestDeclarations outline)

end PlanContext

end DocblockSync
