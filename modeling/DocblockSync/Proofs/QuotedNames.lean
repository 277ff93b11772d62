import DocblockSync.Options
import DocblockSync.Proofs.ScannerTurns
import Mathlib.Data.List.Forall2
import Mathlib.Data.List.TakeWhile

/-! Names in quotes. A name is written between apostrophes with a backslash before each apostrophe and
each backslash in it. The reader of a string stops at the apostrophe behind the name and not at one
within, and the escapes that it keeps are undone character by character, so that a call with such a
literal yields the name itself, whatever it holds and however the call is spaced and spelled. -/

namespace DocblockSync.Text

theorem toNat_toLower (c : Char) :
    c.toLower.toNat = if 65 ≤ c.toNat ∧ c.toNat ≤ 90 then c.toNat + 32 else c.toNat := by
  have capital : (c.val ≥ 'A'.val ∧ c.val ≤ 'Z'.val) ↔ 65 ≤ c.toNat ∧ c.toNat ≤ 90 := Iff.rfl
  have gap : ('a'.val - 'A'.val).toNat = 32 := rfl
  unfold Char.toLower
  split
  · next letter =>
      have bounds := capital.1 letter
      rw [if_pos bounds, Char.toNat_mk, UInt32.toNat_add, gap, Char.toNat_val]
      omega
  · next other => rw [if_neg (mt capital.2 other)]

theorem toNat_toUpper (c : Char) :
    c.toUpper.toNat = if 97 ≤ c.toNat ∧ c.toNat ≤ 122 then c.toNat - 32 else c.toNat := by
  have small : ('a'.val ≤ c.val ∧ c.val ≤ 'z'.val) ↔ 97 ≤ c.toNat ∧ c.toNat ≤ 122 := Iff.rfl
  -- codes are words of 32 bits, so the way down is a sum that wraps around
  have gap : ('A'.val - 'a'.val).toNat = 2 ^ 32 - 32 := rfl
  unfold Char.toUpper
  split
  · next letter =>
      have bounds := small.1 letter
      rw [if_pos bounds, Char.toNat_mk, UInt32.toNat_add, gap, Char.toNat_val]
      omega
  · next other => rw [if_neg (mt small.2 other)]

theorem isAlpha_iff {c : Char} :
    c.isAlpha = true ↔ (65 ≤ c.toNat ∧ c.toNat ≤ 90) ∨ (97 ≤ c.toNat ∧ c.toNat ≤ 122) := by
  unfold Char.isAlpha Char.isUpper Char.isLower
  rw [Bool.or_eq_true, decide_eq_true_eq, Bool.and_eq_true, decide_eq_true_eq, decide_eq_true_eq]
  exact Iff.rfl

/-- A character in one of its two cases. -/
def IsCaseOf (c d : Char) : Prop := d = c.toLower ∨ d = c.toUpper

/-- A spelling of a name, with each of its letters small or capital. -/
def IsCaseVariant (name spelling : Text) : Prop := List.Forall₂ IsCaseOf name spelling

instance : DecidableRel IsCaseOf := fun c d =>
  inferInstanceAs (Decidable (d = c.toLower ∨ d = c.toUpper))

instance : DecidableRel IsCaseVariant := fun name spelling =>
  inferInstanceAs (Decidable (List.Forall₂ IsCaseOf name spelling))

theorem IsCaseOf.toLower_eq {c d : Char} (variant : IsCaseOf c d) : d.toLower = c.toLower := by
  apply Char.toNat_inj.1
  rcases variant with rfl | rfl
  · grind [toNat_toLower]
  · grind [toNat_toLower, toNat_toUpper]

theorem IsCaseOf.eq_or_isAlpha {c d : Char} (variant : IsCaseOf c d) :
    d = c ∨ d.isAlpha = true := by
  rw [← Char.toNat_inj, isAlpha_iff]
  rcases variant with rfl | rfl
  · grind [toNat_toLower]
  · grind [toNat_toUpper]

theorem IsCaseVariant.sameIgnoringCase {name spelling : Text}
    (variant : IsCaseVariant name spelling) : sameIgnoringCase name spelling = true := by
  rw [Text.sameIgnoringCase, beq_iff_eq]
  induction variant with
  | nil => rfl
  | cons same _ ih => exact congrArg₂ List.cons same.toLower_eq.symm ih

end DocblockSync.Text

namespace DocblockSync.Settings

open Text

def apostrophe : Char := '\x27'

/-- A character as it is written in a string: the quote and the backslash stand behind a backslash. -/
def escapeChar (quote c : Char) : Text := if c == '\\' || c == quote then ['\\', c] else [c]

def escape (quote : Char) (t : Text) : Text := t.flatMap (escapeChar quote)

@[simp]
theorem escape_nil (quote : Char) : escape quote [] = [] := rfl

@[simp]
theorem escape_cons (quote c : Char) (t : Text) :
    escape quote (c :: t) = escapeChar quote c ++ escape quote t := rfl

theorem readQuoted?_escapeChar (quote c : Char) (t : Text) :
    readQuoted? quote (escapeChar quote c ++ t) =
      (readQuoted? quote t).map fun (content, rest) => (escapeChar quote c ++ content, rest) := by
  unfold escapeChar
  split
  · rfl
  · next plain =>
      rw [Bool.or_eq_true, not_or, beq_iff_eq] at plain
      rw [List.singleton_append, readQuoted?, if_neg plain.2]
      · rfl
      · exact fun same => absurd same plain.1
      · exact fun _ _ same => absurd same plain.1

theorem readQuoted?_escape {quote : Char} (other : quote ≠ '\\') (t rest : Text) :
    readQuoted? quote (escape quote t ++ quote :: rest) = some (escape quote t, rest) := by
  induction t with
  | nil =>
      rw [escape_nil, List.nil_append, readQuoted?, if_pos (beq_self_eq_true quote)]
      · exact fun same => absurd same other
      · exact fun _ _ same => absurd same other
  | cons c t ih =>
      rw [escape_cons, List.append_assoc, readQuoted?_escapeChar, ih]
      rfl

theorem unescape_escapeChar (quote c : Char) (t : Text) :
    unescape quote (escapeChar quote c ++ t) = c :: unescape quote t := by
  unfold escapeChar
  split
  · next escaped =>
      have undone : unescapeChar quote c = [c] := by
        unfold unescapeChar
        grind
      rw [List.cons_append, List.singleton_append, unescape, undone, List.singleton_append]
  · next plain =>
      rw [Bool.or_eq_true, not_or, beq_iff_eq] at plain
      rw [List.singleton_append, unescape]
      · exact fun same => absurd same plain.1
      · exact fun _ _ same => absurd same plain.1

theorem unescape_escape (quote : Char) (t : Text) : unescape quote (escape quote t) = t := by
  induction t with
  | nil => rfl
  | cons c t ih => rw [escape_cons, unescape_escapeChar, ih]

theorem dropWhile_blanks {blanks : Text} (blank : ∀ c ∈ blanks, isAsciiBlank c = true) {c : Char}
    (solid : isAsciiBlank c = false) (t : Text) :
    (blanks ++ c :: t).dropWhile isAsciiBlank = c :: t := by
  rw [List.dropWhile_append_of_pos blank, List.dropWhile_cons_of_neg (by simp [solid])]

/-- A name between apostrophes is the argument of a call, however the call is spaced. -/
theorem literalCall?_escape {before inside behind : Text}
    (blankBefore : ∀ c ∈ before, isAsciiBlank c = true)
    (blankInside : ∀ c ∈ inside, isAsciiBlank c = true)
    (blankBehind : ∀ c ∈ behind, isAsciiBlank c = true) (name rest : Text) :
    literalCall? (before ++ '(' :: (inside ++ apostrophe ::
        (escape apostrophe name ++ apostrophe :: (behind ++ ')' :: rest)))) = some (name, rest) :=
  literalCall?_eq_some_iff.2 ⟨_, apostrophe, _, escape apostrophe name, _,
    dropWhile_blanks blankBefore (by decide) _, dropWhile_blanks blankInside (by decide) _,
    by decide, readQuoted?_escape (by decide) name _, rfl,
    dropWhile_blanks blankBehind (by decide) rest, unescape_escape apostrophe name⟩

theorem isIdentStart_of_isCaseOf {c d : Char} (variant : IsCaseOf c d)
    (starts : (c.isAlpha || c == '_') = true) : isIdentStart d = true := by
  rcases variant.eq_or_isAlpha with rfl | letter
  · rw [isIdentStart, starts, Bool.true_or]
  · rw [isIdentStart, letter, Bool.true_or, Bool.true_or]

theorem isIdentChar_of_isCaseOf {c d : Char} (variant : IsCaseOf c d)
    (word : (c.isAlphanum || c == '_') = true) : isIdentChar d = true := by
  rcases variant.eq_or_isAlpha with rfl | letter
  · rw [Char.isAlphanum, Bool.or_right_comm, Bool.or_eq_true] at word
    rw [isIdentChar, Bool.or_eq_true]
    exact word.imp_left fun starts => by rw [isIdentStart, starts, Bool.true_or]
  · rw [isIdentChar, isIdentStart, letter, Bool.true_or, Bool.true_or, Bool.true_or]

theorem exists_identifier {name spelling : Text} (variant : IsCaseVariant name spelling)
    (plain : isIdentifier name = true) :
    ∃ c rest, spelling = c :: rest ∧ isIdentStart c = true ∧ ∀ d ∈ rest, isIdentChar d = true := by
  cases variant with
  | nil => cases plain
  | @cons c d name spelling first rest =>
      rw [isIdentifier, Bool.and_eq_true, List.all_eq_true] at plain
      obtain ⟨starts, word⟩ := plain
      refine ⟨d, spelling, rfl, isIdentStart_of_isCaseOf first starts, ?_⟩
      clear starts first
      induction rest with
      | nil => simp
      | cons same _ ih =>
          rw [List.forall_mem_cons] at word ⊢
          exact ⟨isIdentChar_of_isCaseOf same word.1, ih word.2⟩

theorem not_isIdentChar_of_isAsciiBlank {c : Char} (blank : isAsciiBlank c = true) :
    isIdentChar c = false := by
  simp only [isAsciiBlank, Bool.or_eq_true, beq_iff_eq] at blank
  rcases blank with (((rfl | rfl) | rfl) | rfl) | rfl <;> decide

theorem identifier_cut {word before : Text} (inWord : ∀ d ∈ word, isIdentChar d = true)
    (blank : ∀ c ∈ before, isAsciiBlank c = true) (t : Text) :
    (word ++ (before ++ '(' :: t)).takeWhile isIdentChar = word ∧
      (word ++ (before ++ '(' :: t)).dropWhile isIdentChar = before ++ '(' :: t := by
  obtain ⟨c, rest, same, ends⟩ :
      ∃ c rest, before ++ '(' :: t = c :: rest ∧ isIdentChar c = false := by
    cases before with
    | nil => exact ⟨'(', t, rfl, by decide⟩
    | cons c before =>
        exact ⟨c, _, rfl, not_isIdentChar_of_isAsciiBlank (blank c List.mem_cons_self)⟩
  rw [same, List.takeWhile_append_of_pos inWord, List.dropWhile_append_of_pos inWord,
    List.takeWhile_cons_of_neg (by simp [ends]), List.dropWhile_cons_of_neg (by simp [ends]),
    List.append_nil]
  exact ⟨rfl, rfl⟩

theorem scan_of_callAt? {functions : List Text} {t name : Text}
    (found : callAt? (isFetchCall functions) (.start t) = some (name, [])) :
    scan functions t = [name] := by
  have single : calls (isFetchCall functions) .code false t = [name] := by
    refine (callsFrom_of_call found).trans ?_
    rw [callsFrom, calls]
  rw [scan, single]
  rfl

/-- A name in apostrophes is decoded exactly: a call of any fetching function, however it is spelled
and spaced, yields the one name that its literal was written for. -/
theorem escaped_name_decoded (options : Options) (valid : options.invalidFunction? = none)
    (function spelling before inside behind name : Text)
    (listed : function ∈ options.settingsFunctions) (variant : IsCaseVariant function spelling)
    (blankBefore : ∀ c ∈ before, isAsciiBlank c = true)
    (blankInside : ∀ c ∈ inside, isAsciiBlank c = true)
    (blankBehind : ∀ c ∈ behind, isAsciiBlank c = true) :
    scan options.settingsFunctions
        (spelling ++ before ++ ['('] ++ inside ++ [apostrophe] ++ escape apostrophe name ++
          [apostrophe] ++ behind ++ [')']) = [name] := by
  have plain : isIdentifier function = true := by
    simpa using List.find?_eq_none.1 valid function listed
  have fetches : isFetchCall options.settingsFunctions spelling = true :=
    List.any_eq_true.2 ⟨function, listed, variant.sameIgnoringCase⟩
  obtain ⟨c, word, rfl, starts, inWord⟩ := exists_identifier variant plain
  have literal := literalCall?_escape blankBefore blankInside blankBehind name []
  obtain ⟨taken, left⟩ := identifier_cut inWord blankBefore (inside ++ apostrophe ::
    (escape apostrophe name ++ apostrophe :: (behind ++ [')'])))
  apply scan_of_callAt?
  refine callAt?_eq_some_iff.2 ⟨c, _, ?_, starts, taken.symm ▸ fetches, left.symm ▸ literal⟩
  simp [Cursor.start]

theorem escaped_name_decoded_mixed :
    scan ["env".toList, "getSetting".toList]
        ("GETsetting".toList ++ [' '] ++ ['('] ++ ['\n', '\t'] ++ [apostrophe] ++
          escape apostrophe [apostrophe, '\n', 'é', '\\'] ++ [apostrophe] ++ [] ++ [')']) =
      [[apostrophe, '\n', 'é', '\\']] :=
  escaped_name_decoded { settingsFunctions := ["env".toList, "getSetting".toList] } (by decide)
    "getSetting".toList "GETsetting".toList [' '] ['\n', '\t'] [] [apostrophe, '\n', 'é', '\\']
    (by decide) (by decide) (by simp [isAsciiBlank]) (by simp [isAsciiBlank]) (by simp)

end DocblockSync.Settings
