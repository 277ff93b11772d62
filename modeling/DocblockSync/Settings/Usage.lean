import DocblockSync.Text.Basic

/-! Settings by name, and what is known about them. -/

namespace DocblockSync

structure SettingsUsage where
  name : Text
  description : Option Text
  deriving Repr, DecidableEq

/-- Known descriptions, by setting name; the first entry of a name counts. -/
structure Descriptions where
  entries : List (Text × Text)
  deriving Repr, DecidableEq

namespace Descriptions

def empty : Descriptions := ⟨[]⟩

def get? (descriptions : Descriptions) (name : Text) : Option Text := descriptions.entries.lookup name

def usage (descriptions : Descriptions) (name : Text) : SettingsUsage :=
  ⟨name, descriptions.get? name⟩

end Descriptions

end DocblockSync
