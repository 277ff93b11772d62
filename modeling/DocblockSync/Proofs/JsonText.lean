import DocblockSync.Json
import Mathlib.Data.List.Basic

/-! Reading JSON that has been written. A string is read back from its escaped form whatever follows
the closing quote, and an object of strings with different names from its indented form; of the
members that are read, each name occurs once. -/

namespace DocblockSync.Json

open Text

theorem hexValue?_digitChar : ∀ digit < 16, hexValue? (Nat.digitChar digit) = some digit := by
  decide

theorem readCode?_hexDigits {code : Nat} (small : code < 65536) (rest : Text) :
    readCode? (hexDigits code ++ rest) = some (code, rest) := by
  have digit : ∀ n, hexValue? (Nat.digitChar (n % 16)) = some (n % 16) :=
    fun n => hexValue?_digitChar _ (Nat.mod_lt _ (by decide))
  simp only [hexDigits, List.map_cons, List.map_nil, List.cons_append, List.nil_append, readCode?,
    digit, Option.some.injEq, Prod.mk.injEq, and_true]
  omega

theorem readEscaped?_control {c : Char} (control : c.toNat < 32) (rest : Text) :
    readEscaped? ('u' :: (hexDigits c.toNat ++ rest)) = some (c, rest) := by
  have high : isHighSurrogate c.toNat = false := by
    rw [isHighSurrogate, Bool.and_eq_false_iff, decide_eq_false_iff_not]
    exact .inl (by omega)
  have low : isLowSurrogate c.toNat = false := by
    rw [isLowSurrogate, Bool.and_eq_false_iff, decide_eq_false_iff_not]
    exact .inl (by omega)
  rw [readEscaped?, if_pos (by decide), readCoded?, readCode?_hexDigits (by omega)]
  simp [high, low]

theorem readString?_backslash {c : Char} {escaped behind : Text}
    (read : readEscaped? escaped = some (c, behind)) :
    readString? ('\\' :: escaped) =
      (readString? behind).map fun (value, rest) => (c :: value, rest) := by
  rw [readString?, if_neg (by decide), if_pos (by decide)]
  split
  · next found =>
      rw [read, Option.some.injEq, Prod.mk.injEq] at found
      rw [found.1, found.2]
  · next found =>
      rw [read] at found
      cases found

theorem readString?_plain {c : Char} (quote : c ≠ '"') (backslash : c ≠ '\\')
    (printed : ¬c.toNat < 32) (t : Text) :
    readString? (c :: t) = (readString? t).map fun (value, rest) => (c :: value, rest) := by
  rw [readString?, if_neg (by simpa using quote), if_neg (by simpa using backslash),
    if_neg printed]

theorem readString?_escapeChar (c : Char) (t : Text) :
    readString? (escapeChar c ++ t) =
      (readString? t).map fun (value, rest) => (c :: value, rest) := by
  -- A code stands for one character only.
  have only : ∀ code, (c.toNat == code) = true → c = Char.ofNat code := by
    intro code same
    rw [← Char.ofNat_toNat c, beq_iff_eq.1 same]
  unfold escapeChar
  split
  · next same => exact readString?_backslash (by rw [beq_iff_eq.1 same]; rfl)
  split
  · next same => exact readString?_backslash (by rw [beq_iff_eq.1 same]; rfl)
  split
  · next same => exact readString?_backslash (by rw [only _ same]; rfl)
  split
  · next same => exact readString?_backslash (by rw [only _ same]; rfl)
  split
  · next same => exact readString?_backslash (by rw [beq_iff_eq.1 same]; rfl)
  split
  · next same => exact readString?_backslash (by rw [beq_iff_eq.1 same]; rfl)
  split
  · next same => exact readString?_backslash (by rw [beq_iff_eq.1 same]; rfl)
  split
  · next control => exact readString?_backslash (readEscaped?_control control t)
  · next quote backslash _ _ _ _ _ printed =>
      exact readString?_plain (by simpa using quote) (by simpa using backslash) printed t

theorem readString?_escaped (t rest : Text) :
    readString? (t.flatMap escapeChar ++ '"' :: rest) = some (t, rest) := by
  induction t with
  | nil => rw [List.flatMap_nil, List.nil_append, readString?, if_pos (by decide)]
  | cons c t ih =>
      rw [List.flatMap_cons, List.append_assoc, readString?_escapeChar, ih]
      rfl

theorem quote_append (t rest : Text) :
    quote t ++ rest = '"' :: (t.flatMap escapeChar ++ '"' :: rest) := by
  simp [quote]

theorem skipSpace_append {blanks : Text} (blank : ∀ c ∈ blanks, isSpace c = true) (t : Text) :
    skipSpace (blanks ++ t) = skipSpace t :=
  List.dropWhile_append_of_pos blank

theorem skipSpace_cons {c : Char} (solid : isSpace c = false) (t : Text) :
    skipSpace (c :: t) = c :: t :=
  List.dropWhile_cons_of_neg (by simp [solid])

theorem isSpace_newline (level : Nat) : ∀ c ∈ newline level, isSpace c = true := by
  intro c member
  rcases List.mem_cons.1 member with rfl | later
  · decide
  · rw [List.eq_of_mem_replicate later]
    decide

theorem readValue_string (fuel levels : Nat) (value rest : Text) :
    readValue (fuel + 1) levels (' ' :: (quote value ++ rest)) = some (.string value, rest) := by
  have start : skipSpace (' ' :: (quote value ++ rest)) = quote value ++ rest := by
    rw [← List.singleton_append, skipSpace_append (by simp [isSpace]), quote_append,
      skipSpace_cons (by decide)]
  rw [readValue, start, quote_append]
  simp only [readString?_escaped, Option.map_some]

def memberText (member : Text × Text) : Text := quote member.1 ++ ": ".toList ++ quote member.2

def stringMember (member : Text × Text) : Text × Json := (member.1, .string member.2)

theorem prettyMembers_strings (level : Nat) (entries : List (Text × Text)) :
    prettyMembers level (entries.map stringMember) = entries.map memberText := by
  induction entries with
  | nil => rfl
  | cons entry rest ih =>
      rw [List.map_cons, stringMember, prettyMembers, ih, pretty]
      rfl

theorem addMember_of_new {members : List (Text × Json)} {name : Text}
    (new : name ∉ members.map Prod.fst) (value : Json) :
    addMember members name value = members ++ [(name, value)] := by
  rw [addMember, if_neg]
  intro taken
  obtain ⟨member, listed, same⟩ := List.any_eq_true.1 taken
  exact new (List.mem_map.2 ⟨member, listed, beq_iff_eq.1 same⟩)

def membersEnd (rest : Text) : List (Text × Text) → Text
  | [] => newline 0 ++ '\x7d' :: rest
  | entry :: entries => ',' :: (newline 1 ++ (memberText entry ++ membersEnd rest entries))

theorem joinWith_memberText (entry : Text × Text) (entries : List (Text × Text)) (rest : Text) :
    joinWith (',' :: newline 1) ((entry :: entries).map memberText) ++
        (newline 0 ++ '\x7d' :: rest) =
      memberText entry ++ membersEnd rest entries := by
  induction entries generalizing entry with
  | nil => simp [joinWith, membersEnd]
  | cons next entries ih =>
      rw [membersEnd, ← ih next]
      simp [joinWith]

theorem readMembers_one (fuel levels : Nat) (members : List (Text × Json)) (entry : Text × Text)
    (behind : Text) :
    readMembers (fuel + 2) levels members (newline 1 ++ (memberText entry ++ behind)) =
      match skipSpace behind with
      | ',' :: rest => readMembers (fuel + 1) levels (addMember members entry.1 (.string entry.2)) rest
      | '\x7d' :: rest => some (addMember members entry.1 (.string entry.2), rest)
      | _ => none := by
  have text : memberText entry ++ behind =
      quote entry.1 ++ (':' :: (' ' :: (quote entry.2 ++ behind))) := by
    simp [memberText]
  have start : skipSpace (newline 1 ++ (memberText entry ++ behind)) =
      '"' :: (entry.1.flatMap escapeChar ++ '"' :: (':' :: (' ' :: (quote entry.2 ++ behind)))) := by
    rw [skipSpace_append (isSpace_newline 1), text, quote_append, skipSpace_cons (by decide)]
  rw [readMembers, start]
  simp only [readString?_escaped, Option.bind_eq_bind, Option.bind_some,
    skipSpace_cons (show isSpace ':' = false by decide), readValue_string]
  rfl

theorem readMembers_strings (levels : Nat) (rest : Text) (entry : Text × Text)
    (entries : List (Text × Text)) (members : List (Text × Json))
    (new : (members.map Prod.fst ++ (entry :: entries).map Prod.fst).Nodup) {fuel : Nat}
    (enough : entries.length < fuel) :
    readMembers (fuel + 1) levels members
        (newline 1 ++ (memberText entry ++ membersEnd rest entries)) =
      some (members ++ (entry :: entries).map stringMember, rest) := by
  induction entries generalizing entry members fuel with
  | nil =>
      obtain ⟨fuel, rfl⟩ : ∃ less, fuel = less + 1 := ⟨fuel - 1, by omega⟩
      have fresh : entry.1 ∉ members.map Prod.fst :=
        fun taken => (List.nodup_append.1 new).2.2 _ taken _ List.mem_cons_self rfl
      rw [readMembers_one, addMember_of_new fresh, membersEnd,
        skipSpace_append (isSpace_newline 0), skipSpace_cons (by decide)]
      rfl
  | cons next entries ih =>
      rw [List.length_cons] at enough
      obtain ⟨fuel, rfl⟩ : ∃ less, fuel = less + 1 := ⟨fuel - 1, by omega⟩
      have fresh : entry.1 ∉ members.map Prod.fst :=
        fun taken => (List.nodup_append.1 new).2.2 _ taken _ List.mem_cons_self rfl
      have grown : ((members ++ [(entry.1, Json.string entry.2)]).map Prod.fst ++
          (next :: entries).map Prod.fst).Nodup := by
        simpa using new
      have further := ih next _ grown (show entries.length < fuel by omega)
      rw [readMembers_one, addMember_of_new fresh, membersEnd, skipSpace_cons (by decide)]
      simp only [further]
      simp [stringMember]

theorem length_le_joinWith (entries : List (Text × Text)) (separator : Text) :
    entries.length ≤ (joinWith separator (entries.map memberText)).length := by
  induction entries with
  | nil => simp
  | cons entry entries ih =>
      have some : 1 ≤ (memberText entry).length := by simp [memberText, quote]
      cases entries with
      | nil => simpa [joinWith] using some
      | cons next entries =>
          simp only [joinWith, List.map_cons, List.intercalate_cons_cons, List.length_append,
            List.length_cons] at ih ⊢
          omega

theorem pretty_strings_cons (entry : Text × Text) (entries : List (Text × Text)) :
    (object ((entry :: entries).map stringMember)).pretty 0 ++ ['\n'] =
      '\x7b' :: (newline 1 ++ (memberText entry ++ membersEnd ['\n'] entries)) := by
  rw [pretty, prettyMembers_strings, bracketed, if_neg (by simp), ← joinWith_memberText]
  simp

/-- An object of strings under different names is read back from its indented form. -/
theorem parse?_pretty_strings {entries : List (Text × Text)}
    (distinct : (entries.map Prod.fst).Nodup) :
    parse? ((object (entries.map stringMember)).pretty 0 ++ ['\n']) =
      some (.object (entries.map stringMember)) := by
  cases entries with
  | nil => rfl
  | cons entry entries =>
      have size : entries.length <
          (newline 1 ++ (memberText entry ++ membersEnd ['\n'] entries)).length := by
        have count := length_le_joinWith (entry :: entries) (',' :: newline 1)
        rw [← joinWith_memberText]
        simp only [List.length_append, List.length_cons] at count ⊢
        omega
      have start : skipSpace (newline 1 ++ (memberText entry ++ membersEnd ['\n'] entries)) =
          '"' :: (entry.1.flatMap escapeChar ++ '"' ::
            (": ".toList ++ quote entry.2 ++ membersEnd ['\n'] entries)) := by
        rw [skipSpace_append (isSpace_newline 1), memberText, List.append_assoc, List.append_assoc,
          quote_append, skipSpace_cons (by decide), List.append_assoc]
      have read := readMembers_strings 126 ['\n'] entry entries [] (by simpa using distinct) size
      rw [parse?, pretty_strings_cons, List.length_cons, readValue, skipSpace_cons (by decide)]
      simp only [nestingLimit, start, read, Option.map_some, List.nil_append]
      rfl

theorem nodup_addMember {members : List (Text × Json)} (distinct : (members.map Prod.fst).Nodup)
    (name : Text) (value : Json) : ((addMember members name value).map Prod.fst).Nodup := by
  unfold addMember
  split
  · have names : (members.map fun member => if member.1 == name then (name, value) else member).map
        Prod.fst = members.map Prod.fst := by
      rw [List.map_map]
      apply List.map_congr_left
      intro member _
      by_cases same : member.1 = name <;> simp [same]
    rwa [names]
  · next new =>
      rw [List.map_append, List.nodup_append]
      refine ⟨distinct, by simp, ?_⟩
      rintro taken member _ (_ | ⟨_, ⟨⟩⟩) rfl
      obtain ⟨held, listed, same⟩ := List.mem_map.1 member
      exact new (List.any_eq_true.2 ⟨held, listed, by simpa using same⟩)

theorem nodup_readMembers {fuel levels : Nat} {members found : List (Text × Json)} {t rest : Text}
    (distinct : (members.map Prod.fst).Nodup)
    (read : readMembers fuel levels members t = some (found, rest)) :
    (found.map Prod.fst).Nodup := by
  induction fuel generalizing members t with
  | zero => cases read
  | succ fuel ih =>
      rw [readMembers] at read
      split at read
      · simp only [Option.bind_eq_bind, Option.bind_eq_some_iff] at read
        obtain ⟨⟨name, behind⟩, -, read⟩ := read
        simp only at read
        split at read
        · simp only [Option.bind_eq_some_iff] at read
          obtain ⟨⟨value, behind⟩, -, read⟩ := read
          have grown := nodup_addMember distinct name value
          simp only at read
          split at read
          · exact ih grown read
          · cases read
            exact grown
          · cases read
        · cases read
      · cases read

theorem nodup_readValue {fuel levels : Nat} {t rest : Text} {members : List (Text × Json)}
    (read : readValue fuel levels t = some (.object members, rest)) :
    (members.map Prod.fst).Nodup := by
  cases fuel with
  | zero => cases read
  | succ fuel =>
      rw [readValue] at read
      split at read
      · cases read
      · simp at read
      · split at read
        · cases read
        · split at read <;> simp at read
      · split at read
        · cases read
        · split at read
          · cases read
            exact .nil
          · rw [Option.map_eq_some_iff] at read
            obtain ⟨⟨found, behind⟩, inner, same⟩ := read
            cases same
            exact nodup_readMembers (by simp) inner
      · simp [readWord?] at read
      · simp [readWord?] at read
      · simp [readWord?] at read
      · simp only [readNumber?, Option.bind_eq_bind, Option.bind_eq_some_iff] at read
        obtain ⟨digits, -, read⟩ := read
        split at read
        · cases read
        · simp [Option.bind_eq_some_iff] at read

theorem nodup_of_parse? {t : Text} {members : List (Text × Json)}
    (read : parse? t = some (.object members)) : (members.map Prod.fst).Nodup := by
  unfold parse? at read
  split at read
  · next value behind found =>
      split at read
      · obtain rfl := Option.some.inj read
        exact nodup_readValue found
      · cases read
  · cases read

end DocblockSync.Json
