import DocblockSync.Text.Basic

/-! White space and what is cut along it. A character is blank when it has the Unicode property
White_Space; a text is trimmed at either end, and falls into words between its blanks. -/

namespace DocblockSync.Text

/-- The characters with the Unicode property White_Space. -/
def isBlank (c : Char) : Bool :=
  c == ' ' || ('\t' ≤ c && c ≤ '\r') || c.toNat == 0x85 || c.toNat == 0xA0 ||
    c.toNat == 0x1680 || (0x2000 ≤ c.toNat && c.toNat ≤ 0x200A) || c.toNat == 0x2028 ||
    c.toNat == 0x2029 || c.toNat == 0x202F || c.toNat == 0x205F || c.toNat == 0x3000

/-- The blanks of ASCII that separate the tokens of a call; the vertical tab is not one. -/
def isAsciiBlank (c : Char) : Bool :=
  c == ' ' || c == '\t' || c == '\n' || c == '\x0c' || c == '\r'

def trimStart (t : Text) : Text := t.dropWhile isBlank

def trimEnd (t : Text) : Text := (t.reverse.dropWhile isBlank).reverse

def trim (t : Text) : Text := trimEnd (trimStart t)

def indentation (t : Text) : Text := t.takeWhile isBlank

def words (t : Text) : List Text :=
  (t.splitOnP isBlank).filter fun word => !word.isEmpty

def nonempty? (t : Text) : Option Text := if t.isEmpty then none else some t

@[simp]
theorem trimStart_nil : trimStart [] = [] := rfl

@[simp]
theorem trimEnd_nil : trimEnd [] = [] := rfl

theorem indentation_append_trimStart (t : Text) : indentation t ++ trimStart t = t :=
  List.takeWhile_append_dropWhile

end DocblockSync.Text
