import DocblockSync.Proofs.ByteScan
import DocblockSync.Proofs.ScannerTurns

/-! Literal calls read by byte offsets. From a boundary, blanks and identifiers end on a boundary, and
so does a string: a backslash may hide the first byte of a character only, but the rest of it lies
beyond ASCII and is neither a quote nor a backslash. What is cut out of the text is therefore what
the reader of characters cuts out, and both go on at the same place. -/

namespace DocblockSync.Settings

open Text

theorem isAscii_of_isQuote {quote : Char} (isQuoted : isQuote quote = true) :
    isAscii quote = true := by
  simp only [isQuote, Bool.or_eq_true, beq_iff_eq] at isQuoted
  rcases isQuoted with code | rfl
  · rw [isAscii, code]
    rfl
  · rfl

theorem isUniform_isAsciiBlank : IsUniform isAsciiBlank := by
  have outside : ∀ c, isAscii c = false → isAsciiBlank c = false := by
    intro c wide
    by_contra blank
    simp only [isAsciiBlank, Bool.or_eq_true, beq_iff_eq, Bool.not_eq_false] at blank
    rcases blank with (((rfl | rfl) | rfl) | rfl) | rfl <;> cases wide
  exact isUniform_of_wide outside

theorem isIdentStart_of_wide {c : Char} (wide : isAscii c = false) : isIdentStart c = true := by
  rw [isAscii, decide_eq_false_iff_not, Nat.not_lt] at wide
  rw [isIdentStart, decide_eq_true wide, Bool.or_true]

theorem isUniform_isIdentChar : IsUniform isIdentChar :=
  isUniform_of_wide fun c wide => by rw [isIdentChar, isIdentStart_of_wide wide, Bool.true_or]

theorem skipWhile_eq (p : Char → Bool) (t : Text) (offset : Nat) :
    skipWhile p t offset = offset + (((octets t).drop offset).takeWhile p).length := by
  fun_induction skipWhile p t offset with
  | case1 offset byte found belongs ih =>
      have inside := lt_length_of_getElem? found
      rw [List.drop_eq_getElem_cons inside, List.takeWhile_cons_of_pos, List.length_cons, ih]
      · omega
      · rw [(List.getElem?_eq_some_iff.1 found).2]
        exact belongs
  | case2 offset byte found other =>
      have inside := lt_length_of_getElem? found
      rw [List.drop_eq_getElem_cons inside, List.takeWhile_cons_of_neg, List.length_nil]
      · rfl
      · rw [(List.getElem?_eq_some_iff.1 found).2]
        exact other
  | case3 offset missing =>
      rw [List.drop_eq_nil_of_le (List.getElem?_eq_none_iff.1 missing)]
      rfl

end DocblockSync.Settings

namespace DocblockSync.Text.IsAhead

open Settings

variable {t ahead : Text} {offset : Nat}

theorem skipWhile_eq {p : Char → Bool} (uniform : IsUniform p) (stands : IsAhead t offset ahead) :
    skipWhile p t offset = offset + byteLength (ahead.takeWhile p) := by
  rw [Settings.skipWhile_eq, stands.drop_octets, takeWhile_octets uniform, length_octets]

theorem skipWhile {p : Char → Bool} (uniform : IsUniform p) (stands : IsAhead t offset ahead) :
    IsAhead t (skipWhile p t offset) (ahead.dropWhile p) := by
  rw [stands.skipWhile_eq uniform]
  exact behind (by rwa [List.takeWhile_append_dropWhile])

theorem slice_eq_ok {middle rest : Text} (stands : IsAhead t offset (middle ++ rest)) :
    Settings.slice t offset (offset + byteLength middle) = .ok middle := by
  have fits : offset + byteLength middle ≤ byteLength t := by
    rw [← stands.behind.add_byteLength]
    omega
  rw [Settings.slice, if_pos ⟨Nat.le_add_right _ _, fits, stands.isBoundary, stands.behind.isBoundary⟩,
    stands.slice]

theorem exists_tokenAt? {x : Char} {rest : Text} (ascii : isAscii x = true)
    (stands : IsAhead t offset ahead) (found : ahead.dropWhile isAsciiBlank = x :: rest) :
    ∃ stop, tokenAt? t offset = some (x, stop) ∧ IsAhead t stop rest := by
  have there := stands.skipWhile isUniform_isAsciiBlank
  rw [found] at there
  refine ⟨_, ?_, there.next ascii⟩
  rw [tokenAt?, there.byte ascii, Option.map_some]

theorem exists_of_tokenAt? {x : Char} {stop : Nat} (ascii : isAscii x = true)
    (stands : IsAhead t offset ahead) (found : tokenAt? t offset = some (x, stop)) :
    ∃ rest, ahead.dropWhile isAsciiBlank = x :: rest ∧ IsAhead t stop rest := by
  have there := stands.skipWhile isUniform_isAsciiBlank
  obtain ⟨byte, first, same⟩ := Option.map_eq_some_iff.1 found
  obtain ⟨rfl, rfl⟩ := Prod.mk.inj same
  rw [there.getElem?, head?_octets_eq_some_iff ascii] at first
  obtain ⟨rest, split⟩ := List.head?_eq_some_iff.1 first
  rw [split] at there
  exact ⟨rest, split, there.next ascii⟩

end DocblockSync.Text.IsAhead

namespace DocblockSync.Settings

open Text

variable {isFetch : Text → Bool} {t ahead : Text} {offset : Nat}

theorem eq_of_readQuoted? {quote : Char} {t content rest : Text}
    (read : readQuoted? quote t = some (content, rest)) : t = content ++ quote :: rest := by
  fun_induction readQuoted? quote t generalizing content rest with
  | case1 => cases read
  | case2 => cases read
  | case3 c t ih =>
      obtain ⟨⟨inner, after⟩, found, same⟩ := Option.map_eq_some_iff.1 read
      cases same
      rw [ih found]
      rfl
  | case4 c t final escape ends =>
      cases read
      rw [beq_iff_eq.1 ends]
      rfl
  | case5 c t final escape goesOn ih =>
      obtain ⟨⟨inner, after⟩, found, same⟩ := Option.map_eq_some_iff.1 read
      cases same
      rw [ih found]
      rfl

theorem closingOffset_of_byte {quote byte : Char} (found : (octets t)[offset]? = some byte) :
    closingOffset quote t offset =
      if byte == quote then offset
      else if byte == '\\' then closingOffset quote t (offset + 2)
      else closingOffset quote t (offset + 1) := by
  rw [closingOffset.eq_def]
  split
  · next other same =>
      obtain rfl := Option.some.inj (found.symm.trans same)
      rfl
  · next missing => exact absurd (found.symm.trans missing) (by simp)

theorem closingOffset_wide {quote : Char} (ascii : isAscii quote = true) {pending more : Text}
    (wide : AreWide pending) (bytes : (octets t).drop offset = pending ++ more) :
    closingOffset quote t offset = closingOffset quote t (offset + pending.length) := by
  induction pending generalizing offset with
  | nil => rfl
  | cons byte pending ih =>
      obtain ⟨here, later⟩ := List.forall_mem_cons.1 wide
      have found : (octets t)[offset]? = some byte := by rw [← List.head?_drop, bytes]; rfl
      have next : (octets t).drop (offset + 1) = pending ++ more := by
        rw [← List.tail_drop, bytes]
        rfl
      have other : ¬(byte == quote) = true := by simpa using ne_of_isAscii here ascii
      have plain : ¬(byte == '\\') = true := by simpa using ne_of_isAscii here (x := '\\') rfl
      rw [closingOffset_of_byte found, if_neg other, if_neg plain, ih later next, List.length_cons]
      congr 1
      omega

section Strings

variable {quote : Char} (isQuoted : isQuote quote = true)

include isQuoted

theorem not_beq_backslash : ¬('\\' == quote) = true := by
  rw [beq_iff_eq]
  rintro rfl
  exact absurd isQuoted (by decide)

theorem closingOffset_escape {c : Char} {rest : Text}
    (stands : IsAhead t offset ('\\' :: c :: rest)) :
    closingOffset quote t offset = closingOffset quote t (offset + byteLength ['\\', c]) := by
  have found : (octets t)[offset]? = some '\\' := stands.byte rfl
  obtain ⟨pending, hidden, wide⟩ := exists_tail_octets (c :: rest)
  have bytes : (octets t).drop (offset + 2) = pending ++ octets rest := by
    rw [← List.tail_drop, (stands.next rfl).drop_octets, hidden, List.tail_cons]
  have size := congrArg List.length hidden
  have positive := c.utf8Size_pos
  rw [List.length_tail, length_octets, List.length_append, length_octets, List.tail_cons,
    byteLength_cons] at size
  have whole : byteLength ['\\', c] = 2 + pending.length := by
    change 1 + (c.utf8Size + 0) = 2 + pending.length
    omega
  rw [closingOffset_of_byte found, if_neg (not_beq_backslash isQuoted),
    if_pos (beq_self_eq_true _),
    closingOffset_wide (isAscii_of_isQuote isQuoted) wide bytes, whole, Nat.add_assoc]

theorem closingOffset_plain {c : Char} {rest : Text} (stands : IsAhead t offset (c :: rest))
    (other : ¬(c == quote) = true) (plain : ¬(c == '\\') = true) :
    closingOffset quote t offset = closingOffset quote t (offset + byteLength [c]) := by
  cases ascii : isAscii c with
  | true =>
      have found : (octets t)[offset]? = some c := stands.byte ascii
      have size : byteLength [c] = 1 := isAscii_iff.1 ascii
      rw [closingOffset_of_byte found, if_neg other, if_neg plain, size]
  | false =>
      have size : byteLength [c] = (charOctets c).length := (length_charOctets c).symm
      rw [closingOffset_wide (isAscii_of_isQuote isQuoted) (areWide_charOctets ascii)
        stands.drop_octets, size]

theorem closingOffset_of_read {quoted content rest : Text} (stands : IsAhead t offset quoted)
    (read : readQuoted? quote quoted = some (content, rest)) :
    closingOffset quote t offset = offset + byteLength content := by
  fun_induction readQuoted? quote quoted generalizing offset content rest with
  | case1 => cases read
  | case2 => cases read
  | case3 c quoted ih =>
      obtain ⟨⟨inner, after⟩, found, same⟩ := Option.map_eq_some_iff.1 read
      cases same
      have onward : IsAhead t (offset + byteLength ['\\', c]) quoted := stands.behind
      rw [closingOffset_escape isQuoted stands, ih onward found, Nat.add_assoc, ← byteLength_append]
      rfl
  | case4 c quoted final escape ends =>
      cases read
      obtain rfl := beq_iff_eq.1 ends
      have found : (octets t)[offset]? = some c := stands.byte (isAscii_of_isQuote isQuoted)
      rw [closingOffset_of_byte found, if_pos ends]
      rfl
  | case5 c quoted final escape goesOn ih =>
      obtain ⟨⟨inner, after⟩, found, same⟩ := Option.map_eq_some_iff.1 read
      cases same
      have onward : IsAhead t (offset + byteLength [c]) quoted := stands.behind
      rw [closingOffset_plain isQuoted stands goesOn (not_backslash final escape),
        ih onward found, Nat.add_assoc, ← byteLength_append]
      rfl

theorem le_closingOffset_of_unread {quoted : Text} (stands : IsAhead t offset quoted)
    (unread : readQuoted? quote quoted = none) : byteLength t ≤ closingOffset quote t offset := by
  fun_induction readQuoted? quote quoted generalizing offset with
  | case1 =>
      rw [← stands.add_byteLength]
      exact le_closingOffset quote t offset
  | case2 =>
      have found : (octets t)[offset]? = some '\\' := stands.byte rfl
      have past := le_closingOffset quote t (offset + 2)
      rw [closingOffset_of_byte found, if_neg (not_beq_backslash isQuoted),
        if_pos (beq_self_eq_true _),
        ← stands.add_byteLength]
      change offset + 1 ≤ _
      omega
  | case3 c quoted ih =>
      rw [closingOffset_escape isQuoted stands]
      exact ih stands.behind (Option.map_eq_none_iff.1 unread)
  | case4 => cases unread
  | case5 c quoted final escape goesOn ih =>
      rw [closingOffset_plain isQuoted stands goesOn (not_backslash final escape)]
      exact ih stands.behind (Option.map_eq_none_iff.1 unread)

end Strings

/-- A literal read by offsets, and one read on the text ahead: both the same or none. -/
inductive ReadsAlike (t : Text) : Option (Text × Text) → Option (Text × Nat) → Prop
  | none : ReadsAlike t none none
  | some {name behind : Text} {stop : Nat} :
      IsAhead t stop behind → ReadsAlike t (some (name, behind)) (some (name, stop))

def argument? (t : Text) : Option (Text × Text) :=
  match t.dropWhile isAsciiBlank with
  | quote :: quoted =>
      if isQuote quote then
        match readQuoted? quote quoted with
        | some (content, rest) =>
            if quote == '"' && content.any (· == '$') then none
            else
              match rest.dropWhile isAsciiBlank with
              | ')' :: behind => some (unescape quote content, behind)
              | _ => none
        | none => none
      else none
  | [] => none

theorem literalCall?_eq (t : Text) :
    literalCall? t =
      match t.dropWhile isAsciiBlank with
      | '(' :: inside => argument? inside
      | _ => none := rfl

theorem literalBetween_of_unread {quote : Char} {quoted : Text} (isQuoted : isQuote quote = true)
    (stands : IsAhead t offset quoted) (unread : readQuoted? quote quoted = none) :
    literalBetween quote t offset (closingOffset quote t offset) = .ok none := by
  rw [literalBetween, if_neg]
  rw [length_octets, Nat.not_lt]
  exact le_closingOffset_of_unread isQuoted stands unread

theorem literalBetween_of_read {quote : Char} {quoted content rest : Text}
    (isQuoted : isQuote quote = true) (stands : IsAhead t offset quoted)
    (read : readQuoted? quote quoted = some (content, rest)) :
    ∃ stop, IsAhead t stop rest ∧
      literalBetween quote t offset (closingOffset quote t offset) =
        if quote == '"' && content.any (· == '$') then .ok none
        else
          match tokenAt? t stop with
          | some (')', behind) => .ok (some (unescape quote content, behind))
          | _ => .ok none := by
  have whole := eq_of_readQuoted? read
  have closing := closingOffset_of_read isQuoted stands read
  rw [whole] at stands
  have behind := stands.behind
  have inside : offset + byteLength content < (octets t).length := by
    have positive := quote.utf8Size_pos
    rw [length_octets, ← behind.add_byteLength, byteLength_cons]
    omega
  refine ⟨offset + byteLength content + 1, behind.next (isAscii_of_isQuote isQuoted), ?_⟩
  rw [closing, literalBetween, if_pos inside, stands.slice_eq_ok]
  rfl

theorem closing_alike (stands : IsAhead t offset ahead) (name : Text) :
    ∃ call, (match tokenAt? t offset with
        | some (')', behind) => Except.ok (some (name, behind))
        | _ => Except.ok none : Except Fault (Option (Text × Nat))) = .ok call ∧
      ReadsAlike t
        (match ahead.dropWhile isAsciiBlank with
          | ')' :: behind => some (name, behind)
          | _ => none) call := by
  split
  · next stop token =>
      obtain ⟨behind, closed, onward⟩ := stands.exists_of_tokenAt? rfl token
      rw [closed]
      exact ⟨some (name, stop), rfl, .some onward⟩
  · next unclosed =>
      refine ⟨none, rfl, ?_⟩
      split
      · next behind closed =>
          obtain ⟨stop, token, -⟩ := stands.exists_tokenAt? rfl closed
          exact absurd token (unclosed stop)
      · exact .none

theorem argument?_eq_none (stands : IsAhead t offset ahead)
    (plain : ∀ quote stop, tokenAt? t offset = some (quote, stop) → isQuote quote = false) :
    argument? ahead = none := by
  unfold argument?
  split
  · next quote quoted first =>
      cases isQuoted : isQuote quote with
      | false => rfl
      | true =>
          obtain ⟨stop, token, -⟩ := stands.exists_tokenAt? (isAscii_of_isQuote isQuoted) first
          rw [plain quote stop token] at isQuoted
          cases isQuoted
  · rfl

theorem argumentAt_alike (stands : IsAhead t offset ahead) :
    ∃ call, argumentAt t offset = .ok call ∧ ReadsAlike t (argument? ahead) call := by
  unfold argumentAt
  split
  · next quote start token =>
      split
      · next isQuoted =>
          obtain ⟨quoted, first, onward⟩ :=
            stands.exists_of_tokenAt? (isAscii_of_isQuote isQuoted) token
          simp only [argument?, first, isQuoted, if_true]
          cases read : readQuoted? quote quoted with
          | none => exact ⟨none, literalBetween_of_unread isQuoted onward read, .none⟩
          | some parts =>
              obtain ⟨content, rest⟩ := parts
              obtain ⟨stop, after, between⟩ := literalBetween_of_read isQuoted onward read
              rw [between]
              by_cases interpolated : (quote == '"' && content.any (· == '$')) = true
              · simp only [if_pos interpolated]
                exact ⟨none, rfl, .none⟩
              · simp only [if_neg interpolated]
                exact closing_alike after (unescape quote content)
      · next other =>
          rw [argument?_eq_none stands fun found stop same => ?_]
          · exact ⟨none, rfl, .none⟩
          · rw [token] at same
            cases same
            exact Bool.eq_false_iff.2 other
  · next missing =>
      rw [argument?_eq_none stands fun found stop same => absurd (missing.symm.trans same) (by simp)]
      exact ⟨none, rfl, .none⟩

/-- Reading a literal call by offsets never fails, and reads what the text has. -/
theorem literalCallAt_alike (stands : IsAhead t offset ahead) :
    ∃ call, literalCallAt t offset = .ok call ∧ ReadsAlike t (literalCall? ahead) call := by
  rw [literalCall?_eq]
  unfold literalCallAt
  split
  · next inside token =>
      obtain ⟨text, opened, within⟩ := stands.exists_of_tokenAt? rfl token
      rw [opened]
      exact argumentAt_alike within
  · next unopened =>
      refine ⟨none, rfl, ?_⟩
      split
      · next text opened =>
          obtain ⟨inside, token, -⟩ := stands.exists_tokenAt? rfl opened
          exact absurd token (unopened inside)
      · exact .none

end DocblockSync.Settings
