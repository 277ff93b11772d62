import DocblockSync.Proofs.ByteLiterals
import DocblockSync.Proofs.PlainScan
import Mathlib.Data.List.Induction

/-! The scan by byte offsets is safe and finds what the scan of characters finds. Its states keep
company with the cursors of that scan: in code they stand on a boundary, and elsewhere at most within
a character that the cursor has passed already, whose remaining bytes mean nothing to any mode. -/

namespace DocblockSync.Settings

open Text

theorem foldl_addName (names : List Text) : names.foldl addName [] = names.eraseDups := by
  induction names using List.reverseRecOn with
  | nil => rfl
  | append_singleton names name ih =>
      rw [List.foldl_append, ih, List.foldl_cons, List.foldl_nil, List.eraseDups_append, addName,
        List.removeAll]
      by_cases known : name ∈ names
      · simp [known]
      · simp [known, List.eraseDups_cons]

/-- An offset at the text ahead of a cursor or, outside of code, at the rest of the character before
that text. -/
def IsAt (t : Text) (cursor : Cursor) (offset : Nat) : Prop :=
  IsAhead t offset cursor.ahead ∨
    (cursor.mode ≠ .code ∧ ∃ pending, AreWide pending ∧
      (octets t).drop offset = pending ++ octets cursor.ahead)

theorem IsAt.isAhead_of_code {t : Text} {cursor : Cursor} {offset : Nat} (place : IsAt t cursor offset)
    (code : cursor.mode = .code) : IsAhead t offset cursor.ahead :=
  place.resolve_right fun other => other.1 code

theorem IsAt.cases {t : Text} {cursor : Cursor} {offset : Nat} (place : IsAt t cursor offset)
    (tracks : Tracks t cursor) (more : offset < byteLength t) :
    (∃ c rest, cursor.ahead = c :: rest ∧ IsAhead t offset (c :: rest)) ∨
      (cursor.mode ≠ .code ∧ ∃ byte pending, isAscii byte = false ∧ AreWide pending ∧
        (octets t).drop offset = byte :: (pending ++ octets cursor.ahead)) := by
  have boundary : IsAhead t offset cursor.ahead →
      ∃ c rest, cursor.ahead = c :: rest ∧ IsAhead t offset (c :: rest) := by
    intro stands
    cases ahead : cursor.ahead with
    | nil =>
        have size := stands.add_byteLength
        rw [ahead, byteLength_nil] at size
        omega
    | cons c rest => exact ⟨c, rest, rfl, ahead ▸ stands⟩
  rcases place with stands | ⟨outside, pending, wide, bytes⟩
  · exact .inl (boundary stands)
  · cases pending with
    | nil =>
        obtain ⟨read, same, -⟩ := tracks
        have size := congrArg List.length bytes
        have whole := congrArg byteLength same
        rw [List.length_drop, length_octets, List.nil_append, length_octets] at size
        rw [byteLength_append] at whole
        exact .inl (boundary ⟨read, same, by omega⟩)
    | cons byte pending =>
        obtain ⟨here, later⟩ := List.forall_mem_cons.1 wide
        exact .inr ⟨outside, byte, pending, here, later, bytes⟩

/-- A state of the scan by offsets and a cursor of the scan of characters keep company: they stand at
the same place, and from there on the names found come out the same in the end. -/
structure Accompanies (isFetch : Text → Bool) (t : Text) (found : List Text) (state : ScanState)
    (cursor : Cursor) : Prop where
  mode : state.mode = cursor.mode
  tracks : Tracks t cursor
  place : IsAt t cursor state.offset
  names : (callsFrom isFetch cursor).foldl addName state.names = found

variable {isFetch : Text → Bool} {t : Text} {found : List Text} {state next : ScanState}
  {cursor : Cursor}

theorem Accompanies.lexed (together : Accompanies isFetch t found state cursor)
    (silent : callAt? isFetch cursor = none) {goal : Cursor} (turned : lexTurn cursor = goal)
    (names : next.names = state.names) (mode : next.mode = goal.mode)
    (place : IsAt t goal next.offset) : Accompanies isFetch t found next goal where
  mode := mode
  tracks := turned ▸ together.tracks.turn
  place := place
  names := by rw [names, ← turned, ← callsFrom_lexTurn silent, together.names]

theorem Accompanies.passed (together : Accompanies isFetch t found state cursor)
    (silent : callAt? isFetch cursor = none) {mode : Mode} {dollar : Bool} {rest : Text}
    {count : Nat} (turned : lexTurn cursor = ⟨mode, dollar, rest⟩)
    (place : IsAt t ⟨mode, dollar, rest⟩ (state.offset + count)) :
    ∃ goal, Accompanies isFetch t found (state.pass mode count) goal :=
  ⟨_, together.lexed silent turned rfl rfl place⟩

theorem callAt?_of_outside (outside : cursor.mode ≠ .code) : callAt? isFetch cursor = none := by
  unfold callAt?
  split
  · exact absurd rfl outside
  · rfl

theorem turn_eq {byte : Char} (here : (octets t)[state.offset]? = some byte) :
    state.turn isFetch t = state.turnOn isFetch t byte (octets t)[state.offset + 1]? := by
  rw [ScanState.turn, byteAt_eq_ok_iff.2 here]
  rfl

theorem beq_head?_octets {x : Char} (ascii : isAscii x = true) (rest : Text) :
    ((octets rest).head? == some x) = (rest.head? == some x) := by
  rw [Bool.eq_iff_iff, beq_iff_eq, beq_iff_eq, head?_octets_eq_some_iff ascii]

theorem bne_head?_octets {x : Char} (ascii : isAscii x = true) (rest : Text) :
    ((octets rest).head? != some x) = (rest.head? != some x) := by
  rw [bne, bne, beq_head?_octets ascii]

theorem turnOn_wide {byte : Char} {after : Option Char} (wide : isAscii byte = false)
    (outside : state.mode ≠ .code)
    (quoted : ∀ quote, state.mode = .quoted quote → isQuote quote = true) :
    state.turnOn isFetch t byte after = .ok (state.pass state.mode 1) := by
  have differs : ∀ x, isAscii x = true → (byte == x) = false :=
    fun x ascii => beq_eq_false_iff_ne.2 (ne_of_isAscii wide ascii)
  unfold ScanState.turnOn
  split
  · next mode => simp [differs '\n' rfl, differs '?' rfl, mode]
  · next mode => simp [differs '*' rfl, mode]
  · next quote mode =>
      simp [differs '\\' rfl, differs quote (isAscii_of_isQuote (quoted quote mode)), mode]
  · next mode => exact absurd mode outside

theorem lexTurn_wide {mode : Mode} {dollar : Bool} {c : Char} {rest : Text}
    (wide : isAscii c = false) (outside : mode ≠ .code)
    (quoted : ∀ quote, mode = .quoted quote → isQuote quote = true) :
    lexTurn ⟨mode, dollar, c :: rest⟩ = ⟨mode, false, rest⟩ := by
  have differs : ∀ x, isAscii x = true → (c == x) = false :=
    fun x ascii => beq_eq_false_iff_ne.2 (ne_of_isAscii wide ascii)
  cases mode with
  | code => exact absurd rfl outside
  | lineComment => simp [lexTurn, differs '\n' rfl, differs '?' rfl]
  | blockComment => simp [lexTurn, differs '*' rfl]
  | quoted quote =>
      simp [lexTurn, differs '\\' rfl, differs quote (isAscii_of_isQuote (quoted quote rfl))]

theorem Accompanies.turn_wide (together : Accompanies isFetch t found state cursor)
    (outside : cursor.mode ≠ .code) {byte : Char} {pending : Text} (wide : isAscii byte = false)
    (later : AreWide pending)
    (bytes : (octets t).drop state.offset = byte :: (pending ++ octets cursor.ahead)) :
    ∃ next, state.turn isFetch t = .ok next ∧ Accompanies isFetch t found next cursor := by
  have here : (octets t)[state.offset]? = some byte := by rw [← List.head?_drop, bytes]; rfl
  have onward : (octets t).drop (state.offset + 1) = pending ++ octets cursor.ahead := by
    rw [← List.tail_drop, bytes]
    rfl
  obtain ⟨-, -, -, quoted⟩ := together.tracks
  refine ⟨state.pass state.mode 1, ?_, together.mode, together.tracks,
    .inr ⟨outside, pending, later, onward⟩, together.names⟩
  rw [turn_eq here]
  exact turnOn_wide wide (together.mode ▸ outside) (together.mode ▸ quoted)

theorem isAhead_tail {rest : Text} {x : Char} {offset : Nat} (stands : IsAhead t offset rest)
    (ascii : isAscii x = true) (head : (rest.head? == some x) = true) :
    IsAhead t (offset + 1) rest.tail := by
  rw [eq_cons_tail_of_head? head] at stands
  exact stands.next ascii

theorem Accompanies.turn_ascii {mode : Mode} {dollar : Bool} {c : Char} {rest : Text}
    (together : Accompanies isFetch t found state ⟨mode, dollar, c :: rest⟩)
    (outside : mode ≠ .code) (stands : IsAhead t state.offset (c :: rest))
    (ascii : isAscii c = true) :
    ∃ next, state.turn isFetch t = .ok next ∧ ∃ goal, Accompanies isFetch t found next goal := by
  have here : (octets t)[state.offset]? = some c := stands.byte ascii
  have one := stands.next ascii
  have silent : callAt? isFetch ⟨mode, dollar, c :: rest⟩ = none := callAt?_of_outside outside
  have same : state.mode = mode := together.mode
  rw [turn_eq here, one.getElem?, ScanState.turnOn, same]
  cases mode with
  | code => exact absurd rfl outside
  | lineComment =>
      simp only [beq_head?_octets (x := '>') rfl]
      by_cases ends : (c == '\n' || (c == '?' && rest.head? == some '>')) = true
      · exact ⟨_, if_pos ends, together.passed silent (by rw [lexTurn, if_pos ends]) (.inl one)⟩
      · exact ⟨_, if_neg ends, together.passed silent (by rw [lexTurn, if_neg ends]) (.inl one)⟩
  | blockComment =>
      simp only [beq_head?_octets (x := '/') rfl]
      by_cases ends : (c == '*' && rest.head? == some '/') = true
      · have two := isAhead_tail one (x := '/') rfl (Bool.and_eq_true_iff.1 ends).2
        have turned : lexTurn ⟨.blockComment, dollar, c :: rest⟩ = ⟨.code, false, rest.tail⟩ := by
          rw [lexTurn, if_pos ends]
        exact ⟨_, if_pos ends, together.passed silent turned (.inl two)⟩
      · exact ⟨_, if_neg ends, together.passed silent (by rw [lexTurn, if_neg ends]) (.inl one)⟩
  | quoted quote =>
      by_cases escape : (c == '\\') = true
      · -- the byte that is hidden may be the first of several
        obtain ⟨pending, hidden, wide⟩ := exists_tail_octets rest
        have two : (octets t).drop (state.offset + 2) = pending ++ octets rest.tail := by
          rw [← List.tail_drop, one.drop_octets, hidden]
        have turned : lexTurn ⟨.quoted quote, dollar, c :: rest⟩ =
            ⟨.quoted quote, false, rest.tail⟩ := by rw [lexTurn, if_pos escape]
        exact ⟨_, if_pos escape,
          together.passed silent turned (.inr ⟨outside, pending, wide, two⟩)⟩
      · exact ⟨_, if_neg escape, together.passed silent (by rw [lexTurn, if_neg escape]) (.inl one)⟩

theorem Accompanies.turn_code {dollar : Bool} {c : Char} {rest : Text}
    (together : Accompanies isFetch t found state ⟨.code, dollar, c :: rest⟩)
    (other : isIdentStart c = false) :
    ∃ next, state.turn isFetch t = .ok next ∧ ∃ goal, Accompanies isFetch t found next goal := by
  have ascii : isAscii c = true := by
    by_contra wide
    rw [isIdentStart_of_wide (Bool.eq_false_iff.2 wide)] at other
    cases other
  have stands : IsAhead t state.offset (c :: rest) := together.place.isAhead_of_code rfl
  have here : (octets t)[state.offset]? = some c := stands.byte ascii
  have one := stands.next ascii
  have silent : callAt? isFetch ⟨.code, dollar, c :: rest⟩ = none := callAt?_of_not_isIdentStart other
  have same : state.mode = .code := together.mode
  rw [turn_eq here, one.getElem?, ScanState.turnOn, same]
  simp only [beq_head?_octets (x := '/') rfl, beq_head?_octets (x := '*') rfl,
    bne_head?_octets (x := '[') rfl]
  by_cases line : (c == '/' && rest.head? == some '/') = true
  · have two := isAhead_tail one (x := '/') rfl (Bool.and_eq_true_iff.1 line).2
    have turned : lexTurn ⟨.code, dollar, c :: rest⟩ = ⟨.lineComment, false, rest.tail⟩ := by
      rw [lexTurn, if_pos line]
    exact ⟨_, if_pos line, together.passed silent turned (.inl two)⟩
  by_cases block : (c == '/' && rest.head? == some '*') = true
  · have two := isAhead_tail one (x := '*') rfl (Bool.and_eq_true_iff.1 block).2
    have turned : lexTurn ⟨.code, dollar, c :: rest⟩ = ⟨.blockComment, false, rest.tail⟩ := by
      rw [lexTurn, if_neg line, if_pos block]
    have noHash : ¬(c == '#' && rest.head? != some '[') = true := by
      obtain rfl := beq_iff_eq.1 (Bool.and_eq_true_iff.1 block).1
      simp
    rw [if_neg line, if_neg noHash]
    exact ⟨_, if_pos block, together.passed silent turned (.inl two)⟩
  rw [if_neg line]
  by_cases hash : (c == '#' && rest.head? != some '[') = true
  · exact ⟨_, if_pos hash, together.passed silent
      (by rw [lexTurn, if_neg line, if_neg block, if_pos hash]) (.inl one)⟩
  rw [if_neg hash, if_neg block]
  by_cases quote : isQuote c = true
  · exact ⟨_, if_pos quote, together.passed silent
      (by rw [lexTurn, if_neg line, if_neg block, if_neg hash, if_pos quote]) (.inl one)⟩
  have plain : ¬isIdentStart c = true := Bool.eq_false_iff.1 other
  rw [if_neg quote, if_neg plain]
  exact ⟨_, rfl, together.passed silent
    (by rw [lexTurn, if_neg line, if_neg block, if_neg hash, if_neg quote, if_neg plain]) (.inl one)⟩

theorem afterDollar_eq {dollar : Bool} {ahead : Text} (stands : IsAhead t state.offset ahead)
    (tracks : Tracks t ⟨.code, dollar, ahead⟩) : state.afterDollar t = .ok dollar := by
  obtain ⟨read, same, isDollar, -⟩ := tracks
  obtain ⟨front, cut, size⟩ := stands
  obtain rfl : front = read := List.append_cancel_right (cut.symm.trans same)
  have sign := isDollar rfl
  rcases List.eq_nil_or_concat front with rfl | ⟨start, last, rfl⟩
  · have undollared : dollar = false := by simpa using sign
    rw [ScanState.afterDollar, if_neg (by rw [← size]; decide), undollared]
  · rw [List.concat_eq_append] at *
    have some : octets (start ++ [last]) ≠ [] := by simp [charOctets_ne_nil]
    obtain ⟨byte, ends⟩ : ∃ byte, (octets (start ++ [last])).getLast? = Option.some byte :=
      ⟨_, List.getLast?_eq_some_getLast some⟩
    have before : 0 < state.offset := by
      rw [← size, ← length_octets]
      exact List.length_pos_iff.2 some
    have here : (octets t)[state.offset - 1]? = Option.some byte := by
      rw [cut, octets_append, List.getElem?_append_left (by rw [length_octets]; omega), ← size,
        ← length_octets, ← List.getLast?_eq_getElem?, ends]
    rw [ScanState.afterDollar, if_pos before, byteAt_eq_ok_iff.2 here]
    have same : (byte == '$') = dollar := by
      rw [Bool.eq_iff_iff, sign, ← getLast?_octets_eq_some_iff rfl, ends, beq_iff_eq,
        Option.some.injEq]
    rw [Except.map, same]

theorem Accompanies.turn_identifier {dollar : Bool} {c : Char} {rest : Text}
    (together : Accompanies isFetch t found state ⟨.code, dollar, c :: rest⟩)
    (starts : isIdentStart c = true) :
    ∃ next, state.identifierTurn isFetch t (skipWhile isIdentChar t state.offset) = .ok next ∧
      ∃ goal, Accompanies isFetch t found next goal := by
  have stands : IsAhead t state.offset (c :: rest) := together.place.isAhead_of_code rfl
  have belongs : isIdentChar c = true := by rw [isIdentChar, starts, Bool.true_or]
  have onward := stands.skipWhile isUniform_isIdentChar
  rw [List.dropWhile_cons_of_pos belongs] at onward
  have identifier : slice t state.offset (skipWhile isIdentChar t state.offset) =
      .ok (c :: rest.takeWhile isIdentChar) := by
    have parts : IsAhead t state.offset
        ((c :: rest.takeWhile isIdentChar) ++ rest.dropWhile isIdentChar) := by
      rwa [List.cons_append, List.takeWhile_append_dropWhile]
    rw [stands.skipWhile_eq isUniform_isIdentChar, List.takeWhile_cons_of_pos belongs]
    exact parts.slice_eq_ok
  generalize skipWhile isIdentChar t state.offset = stop at onward identifier
  have goesOn : callAt? isFetch ⟨.code, dollar, c :: rest⟩ = none →
      ∃ goal, Accompanies isFetch t found (state.resume stop) goal := fun silent =>
    ⟨_, together.lexed silent (lexTurn_identifier starts) rfl rfl (.inl onward)⟩
  rw [ScanState.identifierTurn, afterDollar_eq stands together.tracks]
  cases dollar with
  | true => exact ⟨_, rfl, goesOn rfl⟩
  | false =>
      simp only [bind, Except.bind, identifier]
      cases fetches : isFetch (c :: rest.takeWhile isIdentChar) with
      | false => exact ⟨_, rfl, goesOn (by simp [callAt?, fetches])⟩
      | true =>
          obtain ⟨call, read, alike⟩ := literalCallAt_alike onward
          have same : callAt? isFetch ⟨.code, false, c :: rest⟩ =
              literalCall? (rest.dropWhile isIdentChar) := by simp [callAt?, starts, fetches]
          simp only [read, if_true]
          generalize literalCall? (rest.dropWhile isIdentChar) = literal at alike same
          cases alike with
          | none => exact ⟨_, rfl, goesOn same⟩
          | @some name behind last there =>
              have jumped : scanTurn isFetch ⟨.code, false, c :: rest⟩ = ⟨.code, false, behind⟩ := by
                rw [scanTurn, same]
              have tracks := (passes_scanTurn isFetch _).reaches.tracks together.tracks.turn
              have names := together.names
              rw [callsFrom_of_call same, List.foldl_cons] at names
              exact ⟨_, rfl, ⟨.code, false, behind⟩, rfl, jumped ▸ tracks, .inl there, names⟩

theorem turnOn_identifier {byte : Char} {after : Option Char} (code : state.mode = .code)
    (starts : isIdentStart byte = true) :
    state.turnOn isFetch t byte after =
      state.identifierTurn isFetch t (skipWhile isIdentChar t state.offset) := by
  have slash : byte ≠ '/' := by rintro rfl; exact absurd starts (by decide)
  have hash : byte ≠ '#' := by rintro rfl; exact absurd starts (by decide)
  simp [ScanState.turnOn, code, slash, hash, not_isQuote_of_isIdentStart starts, starts]

theorem exists_identStart_byte {c : Char} {rest : Text} {offset : Nat}
    (stands : IsAhead t offset (c :: rest)) (starts : isIdentStart c = true) :
    ∃ byte, (octets t)[offset]? = some byte ∧ isIdentStart byte = true := by
  cases ascii : isAscii c with
  | true => exact ⟨c, stands.byte ascii, starts⟩
  | false =>
      obtain ⟨byte, more, bytes⟩ := List.exists_cons_of_ne_nil (charOctets_ne_nil c)
      refine ⟨byte, ?_, isIdentStart_of_wide (areWide_charOctets ascii byte ?_)⟩
      · rw [stands.getElem?, octets_cons, bytes]
        rfl
      · rw [bytes]
        exact List.mem_cons_self

theorem Accompanies.turn (together : Accompanies isFetch t found state cursor)
    (more : state.offset < byteLength t) :
    ∃ next, state.turn isFetch t = .ok next ∧ ∃ goal, Accompanies isFetch t found next goal := by
  obtain ⟨-, -, -, quoted⟩ := together.tracks
  rcases together.place.cases together.tracks more with
    ⟨c, rest, ahead, stands⟩ | ⟨outside, byte, pending, wide, later, bytes⟩
  · obtain ⟨mode, dollar, _⟩ := cursor
    obtain rfl : _ = c :: rest := ahead
    by_cases code : mode = .code
    · subst code
      cases starts : isIdentStart c with
      | true =>
          obtain ⟨byte, here, identifier⟩ := exists_identStart_byte stands starts
          rw [turn_eq here, turnOn_identifier together.mode identifier]
          exact together.turn_identifier starts
      | false => exact together.turn_code starts
    · cases ascii : isAscii c with
      | true => exact together.turn_ascii code stands ascii
      | false =>
          -- the cursor goes past the whole character, the state past its first byte
          have onward := together.lexed (callAt?_of_outside code) (lexTurn_wide ascii code quoted)
            rfl together.mode (.inr ⟨code, _, areWide_charOctets ascii, stands.drop_octets⟩)
          obtain ⟨byte, pending, bytes⟩ := List.exists_cons_of_ne_nil (charOctets_ne_nil c)
          obtain ⟨wide, later⟩ := List.forall_mem_cons.1 (bytes ▸ areWide_charOctets ascii)
          obtain ⟨next, moved, still⟩ := onward.turn_wide code wide later
            (by rw [stands.drop_octets, octets_cons, bytes]; rfl)
          exact ⟨next, moved, _, still⟩
  · obtain ⟨next, moved, still⟩ := together.turn_wide outside wide later bytes
    exact ⟨next, moved, cursor, still⟩

theorem accompanies_start (isFetch : Text → Bool) (t : Text) :
    Accompanies isFetch t (calls isFetch .code false t).eraseDups .start (.start t) where
  mode := rfl
  tracks := tracks_start t
  place := .inl (isAhead_start t)
  names := foldl_addName _

theorem Accompanies.done (together : Accompanies isFetch t found state cursor)
    (past : byteLength t ≤ state.offset) : state.names = found := by
  have bytes : ∃ pending, (octets t).drop state.offset = pending ++ octets cursor.ahead := by
    rcases together.place with stands | ⟨-, pending, -, bytes⟩
    · exact ⟨[], stands.drop_octets⟩
    · exact ⟨pending, bytes⟩
  obtain ⟨pending, left⟩ := bytes
  rw [List.drop_eq_nil_of_le (by rwa [length_octets])] at left
  have size : byteLength cursor.ahead = 0 := by
    rw [← length_octets, (List.append_eq_nil_iff.1 left.symm).2, List.length_nil]
  have ended : cursor.ahead = [] := by
    cases ahead : cursor.ahead with
    | nil => rfl
    | cons c rest =>
        have positive := c.utf8Size_pos
        rw [ahead, byteLength_cons] at size
        omega
  have names := together.names
  rwa [callsFrom, ended, calls, List.foldl_nil] at names

theorem Accompanies.scanFrom_eq (together : Accompanies isFetch t found state cursor) :
    scanFrom isFetch t state = .ok found := by
  induction left : byteLength t - state.offset using Nat.strongRecOn generalizing state cursor with
  | _ left ih =>
      rw [scanFrom.eq_def, length_octets]
      by_cases more : state.offset < byteLength t
      · obtain ⟨next, moved, goal, onward⟩ := together.turn more
        have further := ScanState.lt_of_turn moved
        rw [if_pos more]
        split
        · next other same =>
            obtain rfl := Except.ok.inj (moved.symm.trans same)
            exact ih _ (by omega) onward rfl
        · next fault same => exact absurd (moved.symm.trans same) (by simp)
      · rw [if_neg more, together.done (Nat.le_of_not_lt more)]

theorem Visits.accompanied (visits : Visits isFetch t state) :
    ∃ cursor, Accompanies isFetch t (calls isFetch .code false t).eraseDups state cursor := by
  induction visits with
  | start => exact ⟨_, accompanies_start isFetch t⟩
  | turn _ more moved ih =>
      obtain ⟨cursor, together⟩ := ih
      obtain ⟨next, same, goal, onward⟩ := together.turn (by rwa [← length_octets])
      obtain rfl := Except.ok.inj (same.symm.trans moved)
      exact ⟨goal, onward⟩

/-- The scan by byte offsets is safe on every text: in every state that it comes to, it stands on a
boundary whenever it is in code, and while bytes are left the next turn reads no byte and cuts no
slice that it must not and moves the offset forward. So it ends, and it finds the same settings as
the scan of characters. -/
theorem byte_scan_safe (functions : List Text) (t : Text) :
    (∀ state, Visits (isFetchCall functions) t state →
      (state.mode = .code → isBoundary state.offset t = true) ∧
      (state.offset < byteLength t →
        ∃ next, state.turn (isFetchCall functions) t = .ok next ∧ state.offset < next.offset)) ∧
    byteScan functions t = .ok (scan functions t) := by
  constructor
  · intro state visits
    obtain ⟨cursor, together⟩ := visits.accompanied
    constructor
    · intro code
      exact (together.place.isAhead_of_code (together.mode ▸ code)).isBoundary
    · intro more
      obtain ⟨next, moved, -⟩ := together.turn more
      exact ⟨next, moved, ScanState.lt_of_turn moved⟩
  · exact (accompanies_start _ t).scanFrom_eq

end DocblockSync.Settings
