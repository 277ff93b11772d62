import DocblockSync.Text.Basic

/-! TOML values, and how tables come about. A table is opened by a header, implied by the header of a
table inside it, made by a dotted key, or written inline; each of them may only be extended in the way
it was made. -/

namespace DocblockSync.Toml

inductive Origin where
  | header
  | implied
  | dotted
  | inlined
  deriving Repr, DecidableEq

inductive Value where
  | string (value : Text)
  | boolean (value : Bool)
  | integer (value : Int)
  /-- A float as it is written. -/
  | float (literal : Text)
  /-- A date or time as it is written. -/
  | moment (literal : Text)
  | array (items : List Value)
  | table (origin : Origin) (members : List (Text × Value))
  /-- Tables under one name, each opened by a header of its own. -/
  | tables (elements : List (List (Text × Value)))
  deriving Repr

abbrev Members := List (Text × Value)

namespace Members

def has (members : Members) (key : Text) : Bool := members.any fun member => member.1 == key

def put (members : Members) (key : Text) (value : Value) : Members :=
  if members.has key then
    members.map fun member => if member.1 == key then (key, value) else member
  else members ++ [(key, value)]

/-- Adds a value under a dotted key. Tables that a header opened or that were written inline are
closed for dotted keys, and the last table on the way must itself come from a dotted key. -/
def add? (value : Value) : List Text → Members → Option Members
  | [], _ => none
  | [key], members => if members.has key then none else some (members.put key value)
  | key :: next :: rest, members =>
      match members.lookup key with
      | none =>
          (add? value (next :: rest) []).map fun inner => members.put key (.table .dotted inner)
      | some (.table origin inner) =>
          if origin == .dotted || (origin == .implied && !rest.isEmpty) then
            (add? value (next :: rest) inner).map fun inner => members.put key (.table origin inner)
          else none
      | some (.tables elements) =>
          match elements.getLast? with
          | some last =>
              if rest.isEmpty then none
              else
                (add? value (next :: rest) last).map fun last =>
                  members.put key (.tables (elements.dropLast ++ [last]))
          | none => none
      | some _ => none

/-- Changes the members of the table that a header names by its path; of tables under one name the
last counts. Tables that are missing on the way are implied. -/
def inside? (change : Members → Option Members) : List Text → Members → Option Members
  | [], members => change members
  | key :: rest, members =>
      match members.lookup key with
      | none => (inside? change rest []).map fun inner => members.put key (.table .implied inner)
      | some (.table origin inner) =>
          if origin == .inlined then none
          else (inside? change rest inner).map fun inner => members.put key (.table origin inner)
      | some (.tables elements) =>
          match elements.getLast? with
          | some last =>
              (inside? change rest last).map fun last =>
                members.put key (.tables (elements.dropLast ++ [last]))
          | none => none
      | some _ => none

def openTable? (key : Text) (members : Members) : Option Members :=
  match members.lookup key with
  | none => some (members.put key (.table .header []))
  | some (.table .implied inner) => some (members.put key (.table .header inner))
  | some _ => none

def openElement? (key : Text) (members : Members) : Option Members :=
  match members.lookup key with
  | none => some (members.put key (.tables [[]]))
  | some (.tables elements) => some (members.put key (.tables (elements ++ [[]])))
  | some _ => none

end Members

end DocblockSync.Toml
