import DocblockSync.Number.Power
import DocblockSync.Text.Basic
import DocblockSync.Toml.Table

/-! Strings, numbers, booleans, dates and times in TOML. Readers return what they have read and what
is left of the text. -/

namespace DocblockSync.Toml

open Text

def isBlank (c : Char) : Bool := c == ' ' || c == '\t'

def isPlain (c : Char) : Bool := c == '\t' || (32 ≤ c.toNat && c.toNat ≠ 127)

def valueIn? (base : Nat) (digits : Text) : Option Nat :=
  digits.foldlM (fun value c =>
    match hexValue? c with
    | some digit => if digit < base then some (base * value + digit) else none
    | none => none) 0

def charOfHex? (digits : Text) : Option Char :=
  match valueIn? 16 digits with
  | some code => if code.isValidChar then some (Char.ofNat code) else none
  | none => none

def shortEscape? (c : Char) : Option Char :=
  if c == '"' || c == '\\' then some c
  else if c == 'b' then some (Char.ofNat 8)
  else if c == 'f' then some (Char.ofNat 12)
  else if c == 'n' then some '\n'
  else if c == 'r' then some '\r'
  else if c == 't' then some '\t'
  else none

/-- Replaces the escapes of a string. Over several lines, a backslash at the end of a line takes all
blanks and line breaks behind it away. -/
def unescape (multiline : Bool) (t : Text) : Option Text :=
  match t with
  | [] => some []
  | '\\' :: 'u' :: a :: b :: c :: d :: rest =>
      match charOfHex? [a, b, c, d] with
      | some decoded => (unescape multiline rest).map (decoded :: ·)
      | none => none
  | '\\' :: 'U' :: a :: b :: c :: d :: e :: f :: g :: h :: rest =>
      match charOfHex? [a, b, c, d, e, f, g, h] with
      | some decoded => (unescape multiline rest).map (decoded :: ·)
      | none => none
  | '\\' :: c :: rest =>
      match shortEscape? c with
      | some decoded => (unescape multiline rest).map (decoded :: ·)
      | none =>
          if multiline && ((c :: rest).dropWhile isBlank).head? == some '\n' then
            unescape multiline ((c :: rest).dropWhile fun d => isBlank d || d == '\n')
          else none
  | c :: rest =>
      if c ≠ '\\' && (isPlain c || (multiline && c == '\n')) then
        (unescape multiline rest).map (c :: ·)
      else none
termination_by t.length
decreasing_by
  all_goals simp_wf
  all_goals try omega
  have shorter := (List.dropWhile_sublist (fun d => isBlank d || d == '\n')
    (l := c :: rest)).length_le
  simp only [List.length_cons] at shorter
  omega

/-- Cuts a string on one line at its closing quote; a backslash takes the next character along. -/
def cutQuoted? : Text → Option (Text × Text)
  | [] => none
  | '"' :: rest => some ([], rest)
  | '\\' :: c :: rest =>
      (cutQuoted? rest).map fun (content, behind) => ('\\' :: c :: content, behind)
  | c :: rest => (cutQuoted? rest).map fun (content, behind) => (c :: content, behind)

/-- Cuts a string over several lines at its three closing quotes. Of the quotes that follow, up to
two belong to the string. -/
def cutLong? (quote : Char) (escapes : Bool) : Text → Option (Text × Text)
  | a :: b :: c :: rest =>
      if escapes && a == '\\' then
        (cutLong? quote escapes (c :: rest)).map fun (content, behind) =>
          (a :: b :: content, behind)
      else if a == quote && b == quote && c == quote then
        let extra := (rest.takeWhile (· == quote)).take 2
        some (extra, rest.drop extra.length)
      else
        (cutLong? quote escapes (b :: c :: rest)).map fun (content, behind) =>
          (a :: content, behind)
  | _ => none

/-- The content of a string over several lines: line breaks count as line feeds, and one directly
behind the opening quotes is left out. -/
def longContent (content : Text) : Text :=
  dropHead ['\n'] (replaceAll ['\r', '\n'] ['\n'] content)

def readShortString? : Text → Option (Text × Text)
  | '"' :: rest => do
      let (content, behind) ← cutQuoted? rest
      return (← unescape false content, behind)
  | '\'' :: rest =>
      match rest.span (· != '\'') with
      | (content, _ :: behind) => if content.all isPlain then some (content, behind) else none
      | (_, []) => none
  | _ => none

def readString? : Text → Option (Text × Text)
  | '"' :: '"' :: '"' :: rest => do
      let (content, behind) ← cutLong? '"' true rest
      return (← unescape true (longContent content), behind)
  | '\'' :: '\'' :: '\'' :: rest => do
      let (content, behind) ← cutLong? '\'' false rest
      let content := longContent content
      if content.all fun c => isPlain c || c == '\n' then some (content, behind) else none
  | t => readShortString? t

def grouped? (isDigit : Char → Bool) (t : Text) : Option Text :=
  let groups := t.splitOn '_'
  if groups.all fun group => !group.isEmpty && group.all isDigit then some groups.flatten else none

def cutSign : Text → Bool × Text
  | '-' :: rest => (true, rest)
  | '+' :: rest => (false, rest)
  | t => (false, t)

def wholeDigits? (t : Text) : Option Text :=
  if t.head? == some '0' && t.length ≠ 1 then none else grouped? Char.isDigit t

def isHexDigit (c : Char) : Bool := (hexValue? c).isSome

def basedMagnitude? : Text → Option Nat
  | '0' :: 'x' :: rest => (grouped? isHexDigit rest).bind (valueIn? 16)
  | '0' :: 'o' :: rest => (grouped? isHexDigit rest).bind (valueIn? 8)
  | '0' :: 'b' :: rest => (grouped? isHexDigit rest).bind (valueIn? 2)
  | _ => none

def integer? (t : Text) : Option Int :=
  match basedMagnitude? t with
  | some magnitude => if magnitude < twoTo 63 then some magnitude else none
  | none => do
      let (negative, digits) := cutSign t
      let magnitude ← (wholeDigits? digits).bind (valueIn? 10)
      if negative then if magnitude ≤ twoTo 63 then some (-(magnitude : Int)) else none
      else if magnitude < twoTo 63 then some magnitude else none

/-- The least value that is too large for a float of 64 bits; half a unit above the largest one. -/
def floatBound : Nat := twoTo 1024 - twoTo 970

def exceedsFloat (digits : Nat) (exponent : Int) : Bool :=
  let size : Int := (Nat.toDigits 10 digits).length + exponent
  if digits == 0 || size < 300 then false
  else if size > 320 then true
  else if 0 ≤ exponent then floatBound ≤ digits * tenTo exponent.toNat
  else floatBound * tenTo (-exponent).toNat ≤ digits

def cutExponent (t : Text) : Text × Option Text :=
  match t.span fun c => c != 'e' && c != 'E' with
  | (mantissa, _ :: exponent) => (mantissa, some exponent)
  | (mantissa, []) => (mantissa, none)

def exponent? (t : Text) : Option Int := do
  let (negative, digits) := cutSign t
  let magnitude ← (grouped? Char.isDigit digits).bind (valueIn? 10)
  return if negative then -(magnitude : Int) else magnitude

/-- Whether a text is a float with a fraction or an exponent. A positive one must not be too large. -/
def isDecimalFloat (t : Text) : Bool :=
  let (negative, unsigned) := cutSign t
  let (mantissa, exponentText) := cutExponent unsigned
  let exponent := (exponentText.map exponent?).getD (some 0)
  match splitOnce? ['.'] mantissa with
  | some (whole, fraction) =>
      match wholeDigits? whole, grouped? Char.isDigit fraction, exponent with
      | some whole, some fraction, some exponent =>
          negative ||
            !exceedsFloat ((valueIn? 10 (whole ++ fraction)).getD 0) (exponent - fraction.length)
      | _, _, _ => false
  | none =>
      match wholeDigits? mantissa, exponentText, exponent with
      | some whole, some _, some exponent =>
          negative || !exceedsFloat ((valueIn? 10 whole).getD 0) exponent
      | _, _, _ => false

def isFloat (t : Text) : Bool :=
  let unsigned := (cutSign t).2
  unsigned == "inf".toList || unsigned == "nan".toList || isDecimalFloat t

def isWithin (least most : Nat) (tens ones : Char) : Bool :=
  match toNat? [tens, ones] with
  | some value => least ≤ value && value ≤ most
  | none => false

def isLeapYear (year : Nat) : Bool := (year % 4 == 0 && year % 100 != 0) || year % 400 == 0

def daysOf (year month : Nat) : Nat :=
  if month == 2 then if isLeapYear year then 29 else 28
  else if [4, 6, 9, 11].contains month then 30
  else 31

def afterDate? : Text → Option Text
  | a :: b :: c :: d :: '-' :: m :: n :: '-' :: x :: y :: rest =>
      match toNat? [a, b, c, d], toNat? [m, n], toNat? [x, y] with
      | some year, some month, some day =>
          if 1 ≤ month && month ≤ 12 && 1 ≤ day && day ≤ daysOf year month then some rest else none
      | _, _, _ => none
  | _ => none

def afterFraction? : Text → Option Text
  | '.' :: rest =>
      if (rest.takeWhile Char.isDigit).isEmpty then none
      else some (rest.dropWhile Char.isDigit)
  | t => some t

def afterTime? : Text → Option Text
  | h :: i :: ':' :: m :: n :: ':' :: s :: t :: rest =>
      if isWithin 0 23 h i && isWithin 0 59 m n && isWithin 0 60 s t then afterFraction? rest
      else none
  | _ => none

def isOffset : Text → Bool
  | [] => true
  | [z] => z == 'Z' || z == 'z'
  | [sign, h, i, ':', m, n] => (sign == '+' || sign == '-') && isWithin 0 23 h i && isWithin 0 59 m n
  | _ => false

def isZonedTime (t : Text) : Bool := (afterTime? t).any isOffset

def isMoment (t : Text) : Bool :=
  match afterDate? t with
  | some [] => true
  | some (mark :: time) => (mark == 'T' || mark == 't') && isZonedTime time
  | none => afterTime? t == some []

/-- Characters of booleans, numbers, dates and times. -/
def isWordChar (c : Char) : Bool := c.isAlphanum || ['_', '+', '-', '.', ':'].contains c

def word? (t : Text) : Option Value :=
  if t == "true".toList then some (.boolean true)
  else if t == "false".toList then some (.boolean false)
  else if isMoment t then some (.moment t)
  else if isFloat t then some (.float t)
  else (integer? t).map .integer

def readWord? (t : Text) : Option (Value × Text) :=
  let word := t.takeWhile isWordChar
  match t.dropWhile isWordChar with
  | ' ' :: c :: rest =>
      if afterDate? word == some [] && c.isDigit then
        let time := (c :: rest).takeWhile isWordChar
        if isZonedTime time then
          some (.moment (word ++ ' ' :: time), (c :: rest).dropWhile isWordChar)
        else none
      else (word? word).map fun value => (value, ' ' :: c :: rest)
  | behind => (word? word).map fun value => (value, behind)

end DocblockSync.Toml
