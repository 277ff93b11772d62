import DocblockSync.Toml.Scalar

/-! Reading TOML documents, line by line. -/

namespace DocblockSync.Toml

open Text

def skipBlanks (t : Text) : Text := t.dropWhile isBlank

def afterBreak? : Text → Option Text
  | '\n' :: rest => some rest
  | '\r' :: '\n' :: rest => some rest
  | _ => none

def skipComment : Text → Text
  | '#' :: rest => rest.dropWhile isPlain
  | t => t

def afterLine? (t : Text) : Option Text :=
  match skipComment (skipBlanks t) with
  | [] => some []
  | rest => afterBreak? rest

/-- Skips blanks, comments and line breaks; the fuel bounds their number. -/
def skipLayout : Nat → Text → Option Text
  | 0, t => some t
  | fuel + 1, t =>
      match skipBlanks t with
      | '#' :: rest => (afterBreak? (rest.dropWhile isPlain)).bind (skipLayout fuel)
      | '\n' :: rest => skipLayout fuel rest
      | '\r' :: rest => (afterBreak? ('\r' :: rest)).bind (skipLayout fuel)
      | rest => some rest

def isKeyChar (c : Char) : Bool := c.isAlphanum || c == '_' || c == '-'

def readKey? : Text → Option (Text × Text)
  | [] => none
  | c :: rest =>
      if c == '"' || c == '\'' then readShortString? (c :: rest)
      else
        let key := (c :: rest).takeWhile isKeyChar
        if key.isEmpty then none else some (key, (c :: rest).dropWhile isKeyChar)

/-- Reads keys with dots between them. The fuel bounds their number. -/
def readKeys? : Nat → Text → Option (List Text × Text)
  | 0, _ => none
  | fuel + 1, t => do
      let (key, behind) ← readKey? (skipBlanks t)
      match skipBlanks behind with
      | '.' :: rest =>
          let (keys, behind) ← readKeys? fuel rest
          return (key :: keys, behind)
      | rest => return ([key], rest)

/-- The number of keys that may stand in a row, and of arrays and inline tables within each other. -/
def nestingLimit : Nat := 79

mutual

/-- Reads a value. `levels` counts the arrays and inline tables that may still be opened, and the fuel
bounds the number of steps. -/
def readValue? : Nat → Nat → Text → Option (Value × Text)
  | 0, _, _ => none
  | _ + 1, _, [] => none
  | fuel + 1, levels, c :: rest =>
      if c == '"' || c == '\'' then
        (readString? (c :: rest)).map fun (value, behind) => (.string value, behind)
      else if c == '[' then
        match levels with
        | 0 => none
        | levels + 1 =>
            (readItems? fuel levels rest).map fun (items, behind) => (.array items, behind)
      else if c == '\x7b' then
        match levels with
        | 0 => none
        | levels + 1 =>
            match skipBlanks rest with
            | '\x7d' :: behind => some (.table .inlined [], behind)
            | _ =>
                (readPairs? fuel levels [] rest).map fun (members, behind) =>
                  (.table .inlined members, behind)
      else readWord? (c :: rest)

/-- Reads the items of an array up to its closing bracket; a comma may stand behind the last. -/
def readItems? : Nat → Nat → Text → Option (List Value × Text)
  | 0, _, _ => none
  | fuel + 1, levels, t => do
      match ← skipLayout t.length t with
      | ']' :: behind => return ([], behind)
      | start =>
          let (item, behind) ← readValue? fuel levels start
          match ← skipLayout behind.length behind with
          | ',' :: rest =>
              let (items, behind) ← readItems? fuel levels rest
              return (item :: items, behind)
          | ']' :: rest => return ([item], rest)
          | _ => none

def readPairs? : Nat → Nat → Members → Text → Option (Members × Text)
  | 0, _, _, _ => none
  | fuel + 1, levels, members, t => do
      let (keys, behind) ← readKeys? nestingLimit t
      match behind with
      | '=' :: rest =>
          let (value, behind) ← readValue? fuel levels (skipBlanks rest)
          let members ← members.add? value keys
          match skipBlanks behind with
          | ',' :: rest => readPairs? fuel levels members rest
          | '\x7d' :: rest => return (members, rest)
          | _ => none
      | _ => none

end

/-- A document read in part: its members, and the path of the table that the next line belongs to. -/
structure Reading where
  members : Members
  path : List Text

namespace Reading

def openWith? (reading : Reading) (openLast? : Text → Members → Option Members)
    (path : List Text) : Option Reading := do
  let last ← path.getLast?
  let members ← reading.members.inside? (openLast? last) path.dropLast
  return { members, path }

def readHeader? (reading : Reading) (openLast? : Text → Members → Option Members)
    (closing t : Text) : Option (Reading × Text) := do
  let (path, behind) ← readKeys? nestingLimit t
  let behind ← after? closing behind
  let behind ← afterLine? behind
  return (← reading.openWith? openLast? path, behind)

def readPair? (reading : Reading) (t : Text) : Option (Reading × Text) := do
  let (keys, behind) ← readKeys? nestingLimit t
  match behind with
  | '=' :: rest =>
      let (value, behind) ← readValue? t.length nestingLimit (skipBlanks rest)
      let behind ← afterLine? behind
      let members ← reading.members.inside? (Members.add? value keys) reading.path
      return ({ reading with members }, behind)
  | _ => none

def readLines? : Nat → Reading → Text → Option Members
  | 0, reading, t => if t.isEmpty then some reading.members else none
  | fuel + 1, reading, t =>
      match skipBlanks t with
      | [] => some reading.members
      | '[' :: '[' :: rest => do
          let (reading, behind) ← reading.readHeader? Members.openElement? [']', ']'] rest
          readLines? fuel reading behind
      | '[' :: rest => do
          let (reading, behind) ← reading.readHeader? Members.openTable? [']'] rest
          readLines? fuel reading behind
      | c :: rest =>
          if c == '#' || c == '\n' || c == '\r' then
            (afterLine? (c :: rest)).bind (readLines? fuel reading)
          else do
            let (reading, behind) ← reading.readPair? (c :: rest)
            readLines? fuel reading behind

end Reading

/-- Reads a whole document; a byte order mark at its start is skipped. -/
def parse? (t : Text) : Option Members :=
  let t := dropHead [Char.ofNat 0xFEFF] t
  Reading.readLines? t.length ⟨[], []⟩ t

end DocblockSync.Toml
