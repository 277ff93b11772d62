import DocblockSync.Generate

/-! Processing one source: the edits it needs, as they are reported, and the source they lead to. -/

namespace DocblockSync

open Text Document

inductive Action where
  | add
  | update
  deriving Repr, DecidableEq

def Action.text : Action → Text
  | .add => "add".toList
  | .update => "update".toList

/-- An edit as it is reported; its line counts from one. -/
structure EditInfo where
  action : Action
  line : Nat
  message : Text
  deriving Repr, DecidableEq

def EditInfo.ofEdit (edit : Edit) : EditInfo where
  action :=
    match edit.target with
    | .insert _ _ => .add
    | .replace _ _ => .update
  line := edit.startLine + 1
  message := edit.message

structure Changes where
  /-- The edits from top to bottom. -/
  edits : List EditInfo
  newSource : Text
  deriving Repr, DecidableEq

inductive ProcessError where
  | generate (error : GenerateError)
  | apply (error : EditError)
  deriving Repr, DecidableEq

def ProcessError.message : ProcessError → Text
  | .generate error => error.message
  | .apply error => error.message

def editsFor (source : Text) (options : Options) (descriptions : Descriptions) :
    Option Nat → Except GenerateError (List Edit)
  | some line => generateForLine source line options descriptions
  | none => generate source options descriptions

def processSource (source : Text) (options : Options) (descriptions : Descriptions)
    (line : Option Nat) : Except ProcessError (Option Changes) := do
  let edits ← (editsFor source options descriptions line).mapError .generate
  if edits.isEmpty then return none
  let newSource ← (applyEdits source edits).mapError .apply
  return some
    { edits := (edits.map EditInfo.ofEdit).mergeSort fun a b => a.line ≤ b.line
      newSource }

end DocblockSync
