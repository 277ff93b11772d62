/-! Texts are lists of characters. This module holds the searches, cuts and substitutions that the
docblock reader, the planner and the command line share; character classes and byte positions live
in the sibling modules. -/

namespace DocblockSync

/-- A text, one entry for each character. -/
abbrev Text := List Char

namespace Text

/-- What follows `head` at the front of a text, if the text starts with it. -/
def after? (head t : Text) : Option Text := head.isPrefixOf? t

/-- What precedes `tail` at the end of a text, if the text ends with it. -/
def before? (tail t : Text) : Option Text := tail.isSuffixOf? t

def startsWith (head t : Text) : Bool := head.isPrefixOf t

def endsWith (tail t : Text) : Bool := tail.isSuffixOf t

def dropHead (head t : Text) : Text := (after? head t).getD t

def contains (needle : Text) : Text → Bool
  | [] => needle.isEmpty
  | c :: t => startsWith needle (c :: t) || contains needle t

def splitOnce? (separator : Text) : Text → Option (Text × Text)
  | [] => if separator.isEmpty then some ([], []) else none
  | c :: t =>
      match after? separator (c :: t) with
      | some rest => some ([], rest)
      | none => (splitOnce? separator t).map fun (front, rest) => (c :: front, rest)

/-- The substitution behind `replaceAll`; `skip` counts the characters of a match that are still
to be passed over. -/
def replaceFrom (pattern substitute : Text) : Nat → Text → Text
  | _, [] => []
  | skip + 1, _ :: t => replaceFrom pattern substitute skip t
  | 0, c :: t =>
      if startsWith pattern (c :: t) then
        substitute ++ replaceFrom pattern substitute (pattern.length - 1) t
      else
        c :: replaceFrom pattern substitute 0 t

/-- Replaces the occurrences of a pattern from left to right, without overlaps. The empty pattern
occurs before every character and at the end. -/
def replaceAll (pattern substitute t : Text) : Text :=
  if pattern.isEmpty then
    substitute ++ t.flatMap (fun c => c :: substitute)
  else
    replaceFrom pattern substitute 0 t

def joinWith (separator : Text) (parts : List Text) : Text := separator.intercalate parts

def joinLines (parts : List Text) : Text := joinWith ['\n'] parts

def lowerAscii (t : Text) : Text := t.map Char.toLower

def sameIgnoringCase (a b : Text) : Bool := lowerAscii a == lowerAscii b

def ofNat (n : Nat) : Text := Nat.toDigits 10 n

def toNat? (t : Text) : Option Nat :=
  if t.isEmpty || !t.all Char.isDigit then none
  else some (t.foldl (fun n c => 10 * n + (c.toNat - '0'.toNat)) 0)

def hexValue? (c : Char) : Option Nat :=
  if '0' ≤ c && c ≤ '9' then some (c.toNat - '0'.toNat)
  else if 'a' ≤ c && c ≤ 'f' then some (c.toNat - 'a'.toNat + 10)
  else if 'A' ≤ c && c ≤ 'F' then some (c.toNat - 'A'.toNat + 10)
  else none

/-- Whether a text comes before another one in the order of their encoded bytes, which is the order
by character codes. -/
def precedes : Text → Text → Bool
  | _, [] => false
  | [], _ :: _ => true
  | a :: as, b :: bs => a.toNat < b.toNat || (a == b && precedes as bs)

@[simp]
theorem after?_append (head rest : Text) : after? head (head ++ rest) = some rest := by
  induction head with
  | nil => rfl
  | cons c head ih =>
      show (if c == c then after? head (head ++ rest) else none) = some rest
      rw [if_pos (beq_self_eq_true c)]
      exact ih

@[simp]
theorem startsWith_append (head rest : Text) : startsWith head (head ++ rest) = true := by
  simp [startsWith, List.isPrefixOf_iff_prefix]

theorem precedes_trans {a b c : Text} (first : precedes a b) (second : precedes b c) :
    precedes a c := by
  induction a generalizing b c with
  | nil =>
      cases b with
      | nil => simp [precedes] at first
      | cons x b => cases c <;> simp_all [precedes]
  | cons x a ih =>
      cases b with
      | nil => simp [precedes] at first
      | cons y b =>
          cases c with
          | nil => simp [precedes] at second
          | cons z c =>
              simp only [precedes, Bool.or_eq_true, decide_eq_true_eq, Bool.and_eq_true,
                beq_iff_eq] at *
              rcases first with less | ⟨rfl, first⟩
              · rcases second with less' | ⟨rfl, second⟩
                · exact .inl (by omega)
                · exact .inl less
              · exact second.imp_right fun ⟨same, second⟩ => ⟨same, ih first second⟩

theorem precedes_irrefl (a : Text) : precedes a a = false := by
  induction a with
  | nil => rfl
  | cons x a ih => simp [precedes, ih]

theorem precedes_of_ne {a b : Text} (different : a ≠ b) (not : precedes a b = false) :
    precedes b a := by
  induction a generalizing b with
  | nil => cases b <;> simp_all [precedes]
  | cons x a ih =>
      cases b with
      | nil => rfl
      | cons y b =>
          by_cases same : x = y
          · subst same
            have rest : a ≠ b := fun equal => different (by rw [equal])
            simp_all [precedes]
          · have codes : x.toNat ≠ y.toNat := fun equal => same (Char.toNat_inj.mp equal)
            simp only [precedes, Bool.or_eq_false_iff, decide_eq_false_iff_not] at not
            simp only [precedes, Bool.or_eq_true, decide_eq_true_eq]
            exact .inl (by omega)

end Text

end DocblockSync
