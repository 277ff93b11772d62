import DocblockSync.Text.Basic

/-! Emphasis on terminals. -/

namespace DocblockSync.Command

open Text

inductive Emphasis where
  | bold
  | heading
  | red
  | green
  | yellow
  deriving Repr, DecidableEq

def Emphasis.start : Emphasis → Text
  | .bold => "\x1b[1m".toList
  | .heading => "\x1b[1;4m".toList
  | .red => "\x1b[31m".toList
  | .green => "\x1b[32m".toList
  | .yellow => "\x1b[33m".toList

def plainAgain : Text := "\x1b[0m".toList

structure Style where
  color : Bool
  deriving Repr, DecidableEq

def Style.show (style : Style) (emphasis : Emphasis) (t : Text) : Text :=
  if style.color then
    emphasis.start ++ replaceAll plainAgain (plainAgain ++ emphasis.start) t ++ plainAgain
  else t

def asksFor (value : Text) : Bool := value != ['0']

/-- Emphasis is shown on terminals, unless the variables `CLICOLOR_FORCE`, `NO_COLOR` and `CLICOLOR`
say otherwise. -/
def Style.ofVariables (force without enabled : Option Text) (terminal : Bool) : Style :=
  if force.any asksFor then ⟨true⟩
  else if without.isSome then ⟨false⟩
  else ⟨terminal && enabled.all asksFor⟩

end DocblockSync.Command
