import DocblockSync.Text.Basic

/-! Byte positions. Offsets and columns count the bytes of a text's UTF-8 form; a position is a
boundary when no character straddles it. -/

namespace DocblockSync.Text

/-- The number of bytes of the UTF-8 form. -/
def byteLength : Text → Nat
  | [] => 0
  | c :: t => c.utf8Size + byteLength t

def takeBytes : Nat → Text → Text
  | _, [] => []
  | n, c :: t => if c.utf8Size ≤ n then c :: takeBytes (n - c.utf8Size) t else []

def dropBytes : Nat → Text → Text
  | _, [] => []
  | n, c :: t => if c.utf8Size ≤ n then dropBytes (n - c.utf8Size) t else c :: t

/-- Whether a byte position lies between two characters or at an end of the text. -/
def isBoundary : Nat → Text → Bool
  | 0, _ => true
  | _ + 1, [] => false
  | n + 1, c :: t => c.utf8Size ≤ n + 1 && isBoundary (n + 1 - c.utf8Size) t

def sliceBytes (start stop : Nat) (t : Text) : Text :=
  takeBytes (stop - start) (dropBytes start t)

def spliceBytes (start stop : Nat) (substitute t : Text) : Text :=
  takeBytes start t ++ substitute ++ dropBytes stop t

@[simp]
theorem byteLength_nil : byteLength [] = 0 := rfl

@[simp]
theorem byteLength_cons (c : Char) (t : Text) :
    byteLength (c :: t) = c.utf8Size + byteLength t := rfl

@[simp]
theorem byteLength_append (s t : Text) : byteLength (s ++ t) = byteLength s + byteLength t := by
  induction s with
  | nil => simp
  | cons c s ih => simp [ih, Nat.add_assoc]

theorem takeBytes_append_dropBytes (n : Nat) (t : Text) : takeBytes n t ++ dropBytes n t = t := by
  induction t generalizing n with
  | nil => rfl
  | cons c t ih =>
      by_cases fits : c.utf8Size ≤ n
      · simp [takeBytes, dropBytes, fits, ih]
      · simp [takeBytes, dropBytes, fits]

end DocblockSync.Text
