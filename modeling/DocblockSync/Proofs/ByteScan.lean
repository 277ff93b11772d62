import DocblockSync.Proofs.Octets
import DocblockSync.Settings.Scanner

/-! The scan for settings by byte offsets. It reads single bytes of the text and cuts slices out of
it; a byte past the end, and a slice that leaves the text or cuts a character, are faults. Every turn
that comes to its end moves the offset forward, so the scan ends on every text. -/

namespace DocblockSync.Settings

open Text

/-- What a scan by offsets must not ask for. -/
inductive Fault where
  | byte (offset : Nat)
  | slice (start stop : Nat)
  deriving Repr, DecidableEq

def byteAt (t : Text) (offset : Nat) : Except Fault Char :=
  match (octets t)[offset]? with
  | some byte => .ok byte
  | none => .error (.byte offset)

def slice (t : Text) (start stop : Nat) : Except Fault Text :=
  if start ≤ stop ∧ stop ≤ byteLength t ∧ isBoundary start t = true ∧ isBoundary stop t = true then
    .ok (sliceBytes start stop t)
  else .error (.slice start stop)

theorem lt_length_of_getElem? {bytes : Text} {offset : Nat} {byte : Char}
    (found : bytes[offset]? = some byte) : offset < bytes.length :=
  (List.getElem?_eq_some_iff.1 found).1

def skipWhile (p : Char → Bool) (t : Text) (offset : Nat) : Nat :=
  match _found : (octets t)[offset]? with
  | some byte => if p byte then skipWhile p t (offset + 1) else offset
  | none => offset
termination_by (octets t).length - offset
decreasing_by
  have := lt_length_of_getElem? _found
  omega

/-- The offset of the quote that closes a string. A backslash hides the byte after it. -/
def closingOffset (quote : Char) (t : Text) (offset : Nat) : Nat :=
  match _found : (octets t)[offset]? with
  | some byte =>
      if byte == quote then offset
      else if byte == '\\' then closingOffset quote t (offset + 2)
      else closingOffset quote t (offset + 1)
  | none => offset
termination_by (octets t).length - offset
decreasing_by
  all_goals
    have := lt_length_of_getElem? _found
    omega

def tokenAt? (t : Text) (offset : Nat) : Option (Char × Nat) :=
  (octets t)[skipWhile isAsciiBlank t offset]?.map fun byte =>
    (byte, skipWhile isAsciiBlank t offset + 1)

/-- The literal between two offsets, the second that of its quote, with the offset behind the
parenthesis that follows. -/
def literalBetween (quote : Char) (t : Text) (start closing : Nat) :
    Except Fault (Option (Text × Nat)) :=
  if closing < (octets t).length then do
    let content ← slice t start closing
    if quote == '"' && content.any (· == '$') then return none
    else
      match tokenAt? t (closing + 1) with
      | some (')', behind) => return some (unescape quote content, behind)
      | _ => return none
  else .ok none

def argumentAt (t : Text) (offset : Nat) : Except Fault (Option (Text × Nat)) :=
  match tokenAt? t offset with
  | some (quote, start) =>
      if isQuote quote then literalBetween quote t start (closingOffset quote t start) else .ok none
  | none => .ok none

/-- Reads a parenthesised literal at an offset and returns its text and the offset behind the
parenthesis. -/
def literalCallAt (t : Text) (offset : Nat) : Except Fault (Option (Text × Nat)) :=
  match tokenAt? t offset with
  | some ('(', inside) => argumentAt t inside
  | _ => .ok none

def addName (names : List Text) (name : Text) : List Text :=
  if names.contains name then names else names ++ [name]

/-- A place in the scan by offsets, with the settings found so far. -/
structure ScanState where
  mode : Mode
  offset : Nat
  names : List Text
  deriving Repr, DecidableEq

namespace ScanState

def start : ScanState := ⟨.code, 0, []⟩

def pass (state : ScanState) (mode : Mode) (count : Nat) : ScanState :=
  { state with mode := mode, offset := state.offset + count }

def resume (state : ScanState) (offset : Nat) : ScanState :=
  { state with mode := .code, offset := offset }

def afterDollar (t : Text) (state : ScanState) : Except Fault Bool :=
  if 0 < state.offset then (byteAt t (state.offset - 1)).map (· == '$') else .ok false

/-- The turn at an identifier, which goes on behind it or, when it is a fetching call with a literal,
behind its arguments. -/
def identifierTurn (isFetch : Text → Bool) (t : Text) (state : ScanState) (stop : Nat) :
    Except Fault ScanState := do
  if ← state.afterDollar t then return state.resume stop
  else
    let identifier ← slice t state.offset stop
    if isFetch identifier then
      match ← literalCallAt t stop with
      | some (name, behind) =>
          return { state.resume behind with names := addName state.names name }
      | none => return state.resume stop
    else return state.resume stop

def turnOn (isFetch : Text → Bool) (t : Text) (state : ScanState) (byte : Char)
    (after : Option Char) : Except Fault ScanState :=
  match state.mode with
  | .lineComment =>
      if byte == '\n' || (byte == '?' && after == some '>') then .ok (state.pass .code 1)
      else .ok (state.pass .lineComment 1)
  | .blockComment =>
      if byte == '*' && after == some '/' then .ok (state.pass .code 2)
      else .ok (state.pass .blockComment 1)
  | .quoted quote =>
      if byte == '\\' then .ok (state.pass (.quoted quote) 2)
      else .ok (state.pass (if byte == quote then .code else .quoted quote) 1)
  | .code =>
      if byte == '/' && after == some '/' then .ok (state.pass .lineComment 2)
      else if byte == '#' && after != some '[' then .ok (state.pass .lineComment 1)
      else if byte == '/' && after == some '*' then .ok (state.pass .blockComment 2)
      else if isQuote byte then .ok (state.pass (.quoted byte) 1)
      else if isIdentStart byte then
        state.identifierTurn isFetch t (skipWhile isIdentChar t state.offset)
      else .ok (state.pass .code 1)

def turn (isFetch : Text → Bool) (t : Text) (state : ScanState) : Except Fault ScanState := do
  let byte ← byteAt t state.offset
  state.turnOn isFetch t byte (octets t)[state.offset + 1]?

end ScanState

theorem le_skipWhile (p : Char → Bool) (t : Text) (offset : Nat) : offset ≤ skipWhile p t offset := by
  fun_induction skipWhile p t offset with
  | case1 offset byte found belongs ih => exact Nat.le_of_succ_le ih
  | case2 => exact Nat.le_refl _
  | case3 => exact Nat.le_refl _

theorem le_closingOffset (quote : Char) (t : Text) (offset : Nat) :
    offset ≤ closingOffset quote t offset := by
  fun_induction closingOffset quote t offset with
  | case1 => exact Nat.le_refl _
  | case2 offset byte found other escape ih => omega
  | case3 offset byte found other plain ih => omega
  | case4 => exact Nat.le_refl _

theorem exists_of_bind_eq_ok {α β : Type} {first : Except Fault α} {rest : α → Except Fault β}
    {result : β} (done : first >>= rest = .ok result) :
    ∃ value, first = .ok value ∧ rest value = .ok result := by
  cases first with
  | error fault => cases done
  | ok value => exact ⟨value, rfl, done⟩

theorem lt_of_tokenAt? {t : Text} {offset behind : Nat} {byte : Char}
    (found : tokenAt? t offset = some (byte, behind)) : offset < behind := by
  obtain ⟨other, -, same⟩ := Option.map_eq_some_iff.1 found
  obtain ⟨-, rfl⟩ := Prod.mk.inj same
  exact Nat.lt_succ_of_le (le_skipWhile isAsciiBlank t offset)

theorem lt_of_literalBetween {quote : Char} {t name : Text} {start closing behind : Nat}
    (found : literalBetween quote t start closing = .ok (some (name, behind))) :
    closing < behind := by
  unfold literalBetween at found
  split at found
  case isFalse => cases found
  obtain ⟨content, -, found⟩ := exists_of_bind_eq_ok found
  split at found
  case isTrue => cases found
  split at found
  case h_2 => cases found
  next last =>
  cases found
  exact Nat.lt_of_succ_lt (lt_of_tokenAt? last)

theorem lt_of_argumentAt {t name : Text} {offset behind : Nat}
    (found : argumentAt t offset = .ok (some (name, behind))) : offset < behind := by
  unfold argumentAt at found
  split at found
  case h_2 => cases found
  next quote start first =>
  split at found
  case isFalse => cases found
  have toStart := lt_of_tokenAt? first
  have toClosing := le_closingOffset quote t start
  have toBehind := lt_of_literalBetween found
  omega

theorem lt_of_literalCallAt {t name : Text} {offset behind : Nat}
    (found : literalCallAt t offset = .ok (some (name, behind))) : offset < behind := by
  unfold literalCallAt at found
  split at found
  case h_2 => cases found
  next opening => exact Nat.lt_trans (lt_of_tokenAt? opening) (lt_of_argumentAt found)

theorem lt_skipWhile {p : Char → Bool} {t : Text} {offset : Nat} {byte : Char}
    (found : (octets t)[offset]? = some byte) (belongs : p byte = true) :
    offset < skipWhile p t offset := by
  rw [skipWhile, found]
  simp only [belongs, if_true]
  exact le_skipWhile p t (offset + 1)

theorem byteAt_eq_ok_iff {t : Text} {offset : Nat} {byte : Char} :
    byteAt t offset = .ok byte ↔ (octets t)[offset]? = some byte := by
  unfold byteAt
  split <;> simp_all

namespace ScanState

variable {isFetch : Text → Bool} {t : Text} {state next : ScanState}

theorem lt_of_identifierTurn {stop : Nat} (onward : state.offset < stop)
    (done : state.identifierTurn isFetch t stop = .ok next) : state.offset < next.offset := by
  obtain ⟨dollar, -, done⟩ := exists_of_bind_eq_ok done
  split at done
  · cases done
    exact onward
  · obtain ⟨identifier, -, done⟩ := exists_of_bind_eq_ok done
    split at done
    · obtain ⟨call, literal, done⟩ := exists_of_bind_eq_ok done
      split at done
      · cases done
        exact Nat.lt_trans onward (lt_of_literalCallAt literal)
      · cases done
        exact onward
    · cases done
      exact onward

theorem lt_pass (state : ScanState) (mode : Mode) (count : Nat) :
    state.offset < (state.pass mode (count + 1)).offset := Nat.lt_add_of_pos_right (Nat.succ_pos _)

theorem lt_of_turn (done : state.turn isFetch t = .ok next) : state.offset < next.offset := by
  obtain ⟨byte, found, done⟩ := exists_of_bind_eq_ok done
  unfold turnOn at done
  split at done
  · split at done <;> cases done <;> exact lt_pass _ _ _
  · split at done <;> cases done <;> exact lt_pass _ _ _
  · split at done <;> cases done <;> exact lt_pass _ _ _
  · split_ifs at done with line hash block quote starts
    · cases done; exact lt_pass _ _ _
    · cases done; exact lt_pass _ _ _
    · cases done; exact lt_pass _ _ _
    · cases done; exact lt_pass _ _ _
    · have belongs : isIdentChar byte = true := by rw [isIdentChar, starts, Bool.true_or]
      exact lt_of_identifierTurn (lt_skipWhile (byteAt_eq_ok_iff.1 found) belongs) done
    · cases done; exact lt_pass _ _ _

end ScanState

def scanFrom (isFetch : Text → Bool) (t : Text) (state : ScanState) : Except Fault (List Text) :=
  if state.offset < (octets t).length then
    match _done : state.turn isFetch t with
    | .ok next => scanFrom isFetch t next
    | .error fault => .error fault
  else .ok state.names
termination_by (octets t).length - state.offset
decreasing_by
  have := ScanState.lt_of_turn _done
  omega

def byteScan (functions : List Text) (code : Text) : Except Fault (List Text) :=
  scanFrom (isFetchCall functions) code .start

inductive Visits (isFetch : Text → Bool) (t : Text) : ScanState → Prop
  | start : Visits isFetch t .start
  | turn {state next : ScanState} : Visits isFetch t state →
      state.offset < (octets t).length → state.turn isFetch t = .ok next → Visits isFetch t next

end DocblockSync.Settings
