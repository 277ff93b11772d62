import DocblockSync.Command.Style
import DocblockSync.Diff.Subsequence
import DocblockSync.Diff.Unified
import DocblockSync.Json
import DocblockSync.Processing
import DocblockSync.Text.Lowercase

/-! Reports: what is printed for each file and at the end, in the three output formats. -/

namespace DocblockSync.Command

open Text

inductive OutputFormat where
  | text
  | json
  | diff
  deriving Repr, DecidableEq

def OutputFormat.ofName? (name : Text) : Option OutputFormat :=
  let name := lower name
  if name == "text".toList then some .text
  else if name == "json".toList then some .json
  else if name == "diff".toList then some .diff
  else none

/-- What has been printed: the output, and the warnings beside it. -/
structure Console where
  output : Text := []
  errors : Text := []
  deriving Repr, DecidableEq

namespace Console

def print (console : Console) (t : Text) : Console := { console with output := console.output ++ t }

def printLine (console : Console) (line : Text) : Console := console.print (line ++ ['\n'])

def printLines (console : Console) (lines : List Text) : Console :=
  lines.foldl printLine console

def warn (console : Console) (line : Text) : Console :=
  { console with errors := console.errors ++ line ++ ['\n'] }

end Console

inductive FileOutcome where
  | upToDate
  | changed (source : Text) (changes : Changes)
  | failed (message : Text)
  deriving Repr, DecidableEq

structure FileResult where
  path : Text
  edits : List EditInfo := []
  error : Option Text := none
  deriving Repr, DecidableEq

structure Summary where
  filesProcessed : Nat
  filesWithChanges : Nat
  docblocksAdded : Nat
  docblocksUpdated : Nat
  errors : Nat
  deriving Repr, DecidableEq

def Summary.ofResults (results : List FileResult) : Summary where
  filesProcessed := results.length
  filesWithChanges := results.countP fun result => !result.edits.isEmpty
  docblocksAdded := (results.flatMap FileResult.edits).countP fun edit => edit.action == .add
  docblocksUpdated := (results.flatMap FileResult.edits).countP fun edit => edit.action == .update
  errors := results.countP fun result => result.error.isSome

structure Reporting where
  format : OutputFormat
  verbose : Bool
  style : Style
  /-- Whether files are written. -/
  fix : Bool
  deriving Repr, DecidableEq

namespace Reporting

def labelled (reporting : Reporting) (emphasis : Emphasis) (label : String) (t : Text) : Text :=
  reporting.style.show emphasis label.toList ++ ": ".toList ++ t

def changeLine? (reporting : Reporting) : Change → Option Text
  | .removed line => some ("  ".toList ++ reporting.style.show .red ("- ".toList ++ line))
  | .added line => some ("  ".toList ++ reporting.style.show .green ("+ ".toList ++ line))
  | .kept _ => none

def editLine (reporting : Reporting) (edit : EditInfo) : Text :=
  "  ".toList ++ reporting.style.show .green "->".toList ++ " line ".toList ++ ofNat edit.line ++
    ": ".toList ++ edit.message

def check (reporting : Reporting) (console : Console) (path source : Text) (changes : Changes) :
    Console :=
  match reporting.format with
  | .text =>
      console.printLines <|
        [reporting.style.show .bold path] ++
          (Diff.changes source changes.newSource).filterMap reporting.changeLine? ++ [[]] ++
          changes.edits.map reporting.editLine ++ [[]]
  | .diff => console.print (Diff.unified path source changes.newSource)
  | .json => console

def written (reporting : Reporting) (console : Console) (path : Text) (changes : Changes) :
    Console :=
  if reporting.format == .text then
    console.printLines
      [reporting.style.show .bold path,
        "  ".toList ++ reporting.style.show .green "OK".toList ++ " Wrote ".toList ++
          ofNat changes.edits.length ++ " docblock(s)".toList,
        []]
  else console

def upToDate (reporting : Reporting) (console : Console) (path : Text) : Console :=
  if reporting.verbose && reporting.format == .text then
    console.printLine (path ++ ": Docblocks up to date".toList)
  else console

def warning (reporting : Reporting) (console : Console) (message : Text) : Console :=
  if reporting.format == .text then console.warn (reporting.labelled .yellow "Warning" message)
  else console

def failed (reporting : Reporting) (console : Console) (path message : Text) : Console :=
  reporting.warning console (path ++ " - ".toList ++ message)

def version : Text := "0.1.0".toList

def numberJson (n : Nat) : Json := .number (ofNat n)

def editJson (edit : EditInfo) : Json :=
  .object
    [("action".toList, .string edit.action.text), ("line".toList, numberJson edit.line),
      ("message".toList, .string edit.message)]

def resultJson (result : FileResult) : Json :=
  .object <|
    [("path".toList, .string result.path)] ++
      (if result.edits.isEmpty then [] else [("edits".toList, .array (result.edits.map editJson))]) ++
      (result.error.map fun error => ("error".toList, Json.string error)).toList

def summaryJson (summary : Summary) : Json :=
  .object
    [("files_processed".toList, numberJson summary.filesProcessed),
      ("files_with_changes".toList, numberJson summary.filesWithChanges),
      ("docblocks_added".toList, numberJson summary.docblocksAdded),
      ("docblocks_updated".toList, numberJson summary.docblocksUpdated),
      ("errors".toList, numberJson summary.errors)]

def reportJson (results : List FileResult) : Json :=
  .object
    [("version".toList, .string version),
      ("summary".toList, summaryJson (Summary.ofResults results)),
      ("files".toList, .array (results.map resultJson))]

def summaryLines (reporting : Reporting) (summary : Summary) : List Text :=
  [reporting.style.show .heading "Summary".toList,
    "  Files processed: ".toList ++ ofNat summary.filesProcessed,
    "  Files with changes: ".toList ++ ofNat summary.filesWithChanges,
    "  Docblocks added: ".toList ++ ofNat summary.docblocksAdded,
    "  Docblocks updated: ".toList ++ ofNat summary.docblocksUpdated] ++
    (if summary.errors > 0 then ["  Errors: ".toList ++ ofNat summary.errors] else []) ++
    (if summary.filesWithChanges == 0 && summary.errors == 0 then
      ["  Nothing to document".toList]
    else []) ++
    if !reporting.fix && summary.filesWithChanges > 0 then
      [[], reporting.style.show .yellow "Run with --fix to write docblocks".toList]
    else []

def finish (reporting : Reporting) (console : Console) (results : List FileResult) : Console :=
  match reporting.format with
  | .text => console.printLines (reporting.summaryLines (Summary.ofResults results))
  | .json => console.printLine ((reportJson results).pretty 0)
  | .diff => console

/-- The exit code: one for errors, two for changes that are still to be made. -/
def exitCode (reporting : Reporting) (results : List FileResult) : Nat :=
  let summary := Summary.ofResults results
  if summary.errors > 0 then 1
  else if !reporting.fix && summary.filesWithChanges > 0 then 2
  else 0

end Reporting

end DocblockSync.Command
