import DocblockSync.Text.Basic

/-! What can be chosen when docblocks are generated. -/

namespace DocblockSync

open Text

structure Options where
  /-- The functions whose literal arguments name settings. -/
  settingsFunctions : List Text := ["getSetting".toList]
  /-- Whether undocumented properties get a docblock. -/
  documentProperties : Bool := true
  deriving Repr, DecidableEq

def isIdentifier : Text → Bool
  | [] => false
  | c :: rest => (c.isAlpha || c == '_') && rest.all fun d => d.isAlphanum || d == '_'

def Options.invalidFunction? (options : Options) : Option Text :=
  options.settingsFunctions.find? fun name => !isIdentifier name

end DocblockSync
