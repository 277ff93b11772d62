import DocblockSync.Number.Shortest
import DocblockSync.Text.Basic

/-! JSON values, read and written. Members keep the order in which they stand; of members with one
name the last value counts, in the place of the first. -/

namespace DocblockSync

open Text

inductive Json where
  | null
  | bool (value : Bool)
  /-- A number as it is written. -/
  | number (literal : Text)
  | string (value : Text)
  | array (items : List Json)
  | object (members : List (Text × Json))
  deriving Repr

namespace Json

def hexDigits (code : Nat) : Text :=
  [code / 4096, code / 256, code / 16, code].map fun digit => Nat.digitChar (digit % 16)

def escapeChar (c : Char) : Text :=
  if c == '"' then ['\\', '"']
  else if c == '\\' then ['\\', '\\']
  else if c.toNat == 8 then ['\\', 'b']
  else if c.toNat == 12 then ['\\', 'f']
  else if c == '\n' then ['\\', 'n']
  else if c == '\r' then ['\\', 'r']
  else if c == '\t' then ['\\', 't']
  else if c.toNat < 32 then ['\\', 'u'] ++ hexDigits c.toNat
  else [c]

def quote (t : Text) : Text := '"' :: t.flatMap escapeChar ++ ['"']

def boolText (value : Bool) : Text := if value then "true".toList else "false".toList

mutual

def compact : Json → Text
  | .null => "null".toList
  | .bool value => boolText value
  | .number literal => literal
  | .string value => quote value
  | .array items => '[' :: joinWith [','] (compactItems items) ++ [']']
  | .object members => '\x7b' :: joinWith [','] (compactMembers members) ++ ['\x7d']

def compactItems : List Json → List Text
  | [] => []
  | item :: rest => item.compact :: compactItems rest

def compactMembers : List (Text × Json) → List Text
  | [] => []
  | (name, value) :: rest => (quote name ++ ':' :: value.compact) :: compactMembers rest

end

def newline (level : Nat) : Text := '\n' :: List.replicate (2 * level) ' '

/-- Entries in brackets, each on a line of its own one level further in. -/
def bracketed (level : Nat) (opening closing : Char) (entries : List Text) : Text :=
  if entries.isEmpty then [opening, closing]
  else
    opening :: newline (level + 1) ++ joinWith (',' :: newline (level + 1)) entries ++
      newline level ++ [closing]

mutual

def pretty (level : Nat) : Json → Text
  | .null => "null".toList
  | .bool value => boolText value
  | .number literal => literal
  | .string value => quote value
  | .array items => bracketed level '[' ']' (prettyItems (level + 1) items)
  | .object members => bracketed level '\x7b' '\x7d' (prettyMembers (level + 1) members)

def prettyItems (level : Nat) : List Json → List Text
  | [] => []
  | item :: rest => item.pretty level :: prettyItems level rest

def prettyMembers (level : Nat) : List (Text × Json) → List Text
  | [] => []
  | (name, value) :: rest =>
      (quote name ++ ": ".toList ++ value.pretty level) :: prettyMembers level rest

end

def isSpace (c : Char) : Bool := c == ' ' || c == '\t' || c == '\n' || c == '\r'

def skipSpace (t : Text) : Text := t.dropWhile isSpace

def readCode? : Text → Option (Nat × Text)
  | a :: b :: c :: d :: rest =>
      match hexValue? a, hexValue? b, hexValue? c, hexValue? d with
      | some a, some b, some c, some d => some (4096 * a + 256 * b + 16 * c + d, rest)
      | _, _, _, _ => none
  | _ => none

def isHighSurrogate (code : Nat) : Bool := 0xD800 ≤ code && code ≤ 0xDBFF

def isLowSurrogate (code : Nat) : Bool := 0xDC00 ≤ code && code ≤ 0xDFFF

def shortEscape? (c : Char) : Option Char :=
  if c == '"' || c == '\\' || c == '/' then some c
  else if c == 'b' then some (Char.ofNat 8)
  else if c == 'f' then some (Char.ofNat 12)
  else if c == 'n' then some '\n'
  else if c == 'r' then some '\r'
  else if c == 't' then some '\t'
  else none

def charOfSurrogates (high low : Nat) : Char :=
  Char.ofNat (0x10000 + 0x400 * (high - 0xD800) + (low - 0xDC00))

/-- Reads a character that is written as a code; surrogates come in pairs. -/
def readCoded? (t : Text) : Option (Char × Text) :=
  match readCode? t with
  | none => none
  | some (code, rest) =>
      if isHighSurrogate code then
        match rest with
        | '\\' :: 'u' :: second =>
            match readCode? second with
            | some (low, behind) =>
                if isLowSurrogate low then some (charOfSurrogates code low, behind) else none
            | none => none
        | _ => none
      else if isLowSurrogate code then none
      else some (Char.ofNat code, rest)

def readEscaped? : Text → Option (Char × Text)
  | [] => none
  | c :: rest => if c == 'u' then readCoded? rest else (shortEscape? c).map (·, rest)

theorem length_readCode? {t rest : Text} {code : Nat} (found : readCode? t = some (code, rest)) :
    rest.length < t.length := by
  match t with
  | a :: b :: c :: d :: behind =>
      rw [readCode?] at found
      split at found
      · simp only [Option.some.injEq, Prod.mk.injEq] at found
        rw [← found.2]
        simp only [List.length_cons]
        omega
      · simp at found
  | [] | [_] | [_, _] | [_, _, _] => simp [readCode?] at found

theorem length_readCoded? {t rest : Text} {c : Char} (found : readCoded? t = some (c, rest)) :
    rest.length < t.length := by
  unfold readCoded? at found
  split at found
  · simp at found
  next code behind coded =>
    have first := length_readCode? coded
    split at found
    · split at found
      next second =>
        split at found
        next low after lowCoded =>
          have last := length_readCode? lowCoded
          split at found
          · simp only [Option.some.injEq, Prod.mk.injEq] at found
            rw [← found.2]
            simp only [List.length_cons] at first
            omega
          · simp at found
        · simp at found
      · simp at found
    · split at found
      · simp at found
      · simp only [Option.some.injEq, Prod.mk.injEq] at found
        exact found.2 ▸ first

theorem length_readEscaped? {t rest : Text} {c : Char} (found : readEscaped? t = some (c, rest)) :
    rest.length < t.length := by
  match t with
  | [] => simp [readEscaped?] at found
  | d :: behind =>
      rw [readEscaped?] at found
      split at found
      · have := length_readCoded? found
        simp only [List.length_cons]
        omega
      · simp only [Option.map_eq_some_iff, Prod.mk.injEq] at found
        obtain ⟨_, _, _, same⟩ := found
        simp [← same]

/-- Reads a string behind its opening quote. Control characters must be escaped. -/
def readString? (t : Text) : Option (Text × Text) :=
  match t with
  | [] => none
  | c :: rest =>
      if c == '"' then some ([], rest)
      else if c == '\\' then
        match found : readEscaped? rest with
        | some (escaped, behind) =>
            have := length_readEscaped? found
            (readString? behind).map fun (value, behind) => (escaped :: value, behind)
        | none => none
      else if c.toNat < 32 then none
      else (readString? rest).map fun (value, behind) => (c :: value, behind)
termination_by t.length

def readDigits? (t : Text) : Option (Text × Text) :=
  let digits := t.takeWhile Char.isDigit
  if digits.isEmpty then none else some (digits, t.drop digits.length)

def readFraction? : Text → Option (Option Text × Text)
  | '.' :: rest => (readDigits? rest).map fun (digits, behind) => (some digits, behind)
  | t => some (none, t)

def cutSign : Text → Bool × Text
  | '-' :: rest => (true, rest)
  | '+' :: rest => (false, rest)
  | t => (false, t)

def readExponent? : Text → Option (Option Int × Text)
  | e :: rest =>
      if e == 'e' || e == 'E' then
        let (negative, rest) := cutSign rest
        (readDigits? rest).map fun (digits, behind) =>
          let magnitude : Int := (toNat? digits).getD 0
          (some (if negative then -magnitude else magnitude), behind)
      else some (none, e :: rest)
  | [] => some (none, [])

/-- Adds digits to a number as long as it stays below 2 ^ 64, and counts them. -/
def absorb (value : Nat) : Text → Nat × Nat
  | [] => (value, 0)
  | c :: rest =>
      let next := 10 * value + (c.toNat - '0'.toNat)
      if next < twoTo 64 then
        let (total, count) := absorb next rest
        (total, count + 1)
      else (value, 0)

def signed (negative : Bool) (t : Text) : Text := if negative then '-' :: t else t

/-- A number as it is written again: whole numbers of 64 bits as they are, all others as binary
numbers. Digits beyond 64 bits only count for the magnitude; none if it is too large. -/
def numberText? (negative : Bool) (whole : Text) (fraction : Option Text) (exponent : Option Int) :
    Option Text :=
  let (wholeValue, wholeCount) := absorb 0 whole
  let (value, fractionCount) := absorb wholeValue (fraction.getD [])
  let integral := fraction.isNone && exponent.isNone && wholeCount == whole.length
  if integral && (!negative || (0 < value && value ≤ twoTo 63)) then
    some (signed negative (ofNat value))
  else
    (Binary.ofScientific? value
      (exponent.getD 0 + (whole.length - wholeCount : Nat) - fractionCount)).map fun a =>
        signed negative a.text

/-- Reads a number: no digit before the point may follow a leading zero. -/
def readNumber? (t : Text) : Option (Json × Text) := do
  let (negative, unsigned) :=
    match t with
    | '-' :: rest => (true, rest)
    | t => (false, t)
  let (whole, behind) ← readDigits? unsigned
  if whole.length ≠ 1 && whole.head? == some '0' then none
  else do
    let (fraction, behind) ← readFraction? behind
    let (exponent, behind) ← readExponent? behind
    return (.number (← numberText? negative whole fraction exponent), behind)

def readWord? (word : String) (value : Json) (t : Text) : Option (Json × Text) :=
  (after? word.toList t).map fun behind => (value, behind)

/-- Adds a member, or replaces the value of one with the same name. -/
def addMember (members : List (Text × Json)) (name : Text) (value : Json) : List (Text × Json) :=
  if members.any fun member => member.1 == name then
    members.map fun member => if member.1 == name then (name, value) else member
  else members ++ [(name, value)]

def nestingLimit : Nat := 127

mutual

/-- Reads a value. `levels` counts the arrays and objects that may still be opened, and the fuel
bounds the number of steps. -/
def readValue : Nat → Nat → Text → Option (Json × Text)
  | 0, _, _ => none
  | fuel + 1, levels, t =>
      match skipSpace t with
      | [] => none
      | '"' :: rest => (readString? rest).map fun (value, behind) => (.string value, behind)
      | '[' :: rest =>
          match levels with
          | 0 => none
          | levels + 1 =>
              match skipSpace rest with
              | ']' :: behind => some (.array [], behind)
              | _ =>
                  (readItems fuel levels rest).map fun (items, behind) => (.array items, behind)
      | '\x7b' :: rest =>
          match levels with
          | 0 => none
          | levels + 1 =>
              match skipSpace rest with
              | '\x7d' :: behind => some (.object [], behind)
              | _ =>
                  (readMembers fuel levels [] rest).map fun (members, behind) =>
                    (.object members, behind)
      | 'n' :: rest => readWord? "null" .null ('n' :: rest)
      | 't' :: rest => readWord? "true" (.bool true) ('t' :: rest)
      | 'f' :: rest => readWord? "false" (.bool false) ('f' :: rest)
      | other => readNumber? other

def readItems : Nat → Nat → Text → Option (List Json × Text)
  | 0, _, _ => none
  | fuel + 1, levels, t => do
      let (item, behind) ← readValue fuel levels t
      match skipSpace behind with
      | ',' :: rest =>
          let (items, behind) ← readItems fuel levels rest
          return (item :: items, behind)
      | ']' :: rest => return ([item], rest)
      | _ => none

def readMembers : Nat → Nat → List (Text × Json) → Text → Option (List (Text × Json) × Text)
  | 0, _, _, _ => none
  | fuel + 1, levels, members, t =>
      match skipSpace t with
      | '"' :: rest => do
          let (name, behind) ← readString? rest
          match skipSpace behind with
          | ':' :: rest =>
              let (value, behind) ← readValue fuel levels rest
              let members := addMember members name value
              match skipSpace behind with
              | ',' :: rest => readMembers fuel levels members rest
              | '\x7d' :: rest => return (members, rest)
              | _ => none
          | _ => none
      | _ => none

end

def parse? (t : Text) : Option Json :=
  match readValue (t.length + 1) nestingLimit t with
  | some (value, behind) => if (skipSpace behind).isEmpty then some value else none
  | none => none

end Json

end DocblockSync
