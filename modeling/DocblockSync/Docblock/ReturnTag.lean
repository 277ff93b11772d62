import DocblockSync.Docblock.Model

/-! Return tags: `@return`, a type and an optional description. A plain union of names is read
first; any other type is a token that ends at a blank outside all brackets. -/

namespace DocblockSync.Docblock

open Text

def isNameChar (c : Char) : Bool := isWordChar c || c == '\\'

/-- As many `[]` as follow, and the rest. -/
def readBrackets : Text → Text × Text
  | '[' :: ']' :: t => let (brackets, rest) := readBrackets t; ('[' :: ']' :: brackets, rest)
  | t => ([], t)

def readSign (sign : Char) : Text → Text × Text
  | c :: t => if c == sign then ([c], t) else ([], c :: t)
  | [] => ([], [])

/-- A member of a union: an optional `?`, an optional backslash, a name and any number of `[]`. -/
def readMember? (t : Text) : Option (Text × Text) :=
  let (question, t) := readSign '?' t
  let (root, t) := readSign '\\' t
  match t with
  | c :: t =>
      if c.isAlpha || c == '_' then
        let (brackets, rest) := readBrackets (t.dropWhile isNameChar)
        some (question ++ root ++ c :: t.takeWhile isNameChar ++ brackets, rest)
      else none
  | [] => none

/-- Further members behind a first; `fuel` bounds their number. A bar without a member behind it
stays unread. -/
def readMembers : Nat → Text → Text × Text
  | fuel + 1, '|' :: t =>
      match readMember? t with
      | some (member, rest) =>
          let (members, rest) := readMembers fuel rest
          ('|' :: member ++ members, rest)
      | none => ([], '|' :: t)
  | _, t => ([], t)

def readPlainReturn? (t : Text) : Option (Text × Option Text) :=
  match readMember? t with
  | none => none
  | some (first, rest) =>
      let (others, rest) := readMembers t.length rest
      match rest with
      | [] => some (first ++ others, none)
      | c :: _ =>
          let description := trimStart rest
          if isBlank c && !description.isEmpty && description.all (· != '\n') then
            some (first ++ others, some (trim description))
          else none

/-- The leading type token: it ends at a blank outside all brackets. -/
def typeToken (depth : Int) : Text → Text
  | [] => []
  | c :: t =>
      if c == '<' || c == '\x7b' || c == '(' then c :: typeToken (depth + 1) t
      else if c == '>' || c == '\x7d' || c == ')' then c :: typeToken (depth - 1) t
      else if isBlank c && depth ≤ 0 then []
      else c :: typeToken depth t

/-- The type and the description of a return tag; none when it names no type. -/
def readReturn? (t : Text) : Option (Text × Option Text) :=
  match after? "@return".toList t with
  | none => none
  | some rest =>
      let body := trimStart rest
      if (rest.takeWhile isBlank).isEmpty || body.isEmpty then none
      else
        (readPlainReturn? body).orElse fun _ =>
          let type := typeToken 0 body
          some (type, nonempty? (trim (body.drop type.length)))

end DocblockSync.Docblock
