import DocblockSync.Text.Blank

/-! Return types. A returned value has a coarse kind; the kinds of a body join to a union, and a union
with a member `mixed` says no more than `mixed`. -/

namespace DocblockSync

open Text

inductive ReturnKind where
  | void
  | null
  | bool
  | array
  | int
  | float
  | string
  /-- An instance of the class so called. -/
  | named (name : Text)
  | mixed
  deriving Repr, DecidableEq

def ReturnKind.typeName : ReturnKind → Text
  | .void => "void".toList
  | .null => "null".toList
  | .bool => "bool".toList
  | .array => "array".toList
  | .int => "int".toList
  | .float => "float".toList
  | .string => "string".toList
  | .named name => name
  | .mixed => "mixed".toList

/-- Whether a member of a union is `mixed`, in any case and nullable or not. -/
def isMixedMember (member : Text) : Bool :=
  sameIgnoringCase ((trim member).dropWhile (· == '?')) "mixed".toList

/-- A union with a `mixed` member is `mixed`; any other is trimmed. -/
def collapseMixed (union : Text) : Text :=
  if (union.splitOn '|').any isMixedMember then "mixed".toList else trim union

/-- The union of kinds in the given order; no kind at all is `void`. -/
def joinKinds (kinds : List ReturnKind) : Text :=
  match kinds with
  | [] => ReturnKind.void.typeName
  | _ => collapseMixed (joinWith ['|'] (kinds.map ReturnKind.typeName))

end DocblockSync
