import DocblockSync.Settings.Scanner
import Mathlib.Data.List.Basic

/-! The scan for settings, turn by turn. A turn of the lexer goes past a delimiter, an identifier or
one character; a turn of the scan also jumps over the arguments of a fetching call. The lexer passes
these arguments in several turns, without meeting a call, and arrives behind them in code as well. -/

namespace DocblockSync.Settings

open Text

/-- A place in a scan: what surrounds it, whether a dollar sign stands before it, and the text that
is still ahead. -/
structure Cursor where
  mode : Mode
  afterDollar : Bool
  ahead : Text
  deriving Repr, DecidableEq

def Cursor.start (t : Text) : Cursor := ⟨.code, false, t⟩

/-- One turn of a lexer, to which a call is an identifier like any other. -/
def lexTurn : Cursor → Cursor
  | ⟨mode, afterDollar, []⟩ => ⟨mode, afterDollar, []⟩
  | ⟨.lineComment, _, c :: rest⟩ =>
      if c == '\n' || (c == '?' && rest.head? == some '>') then ⟨.code, false, rest⟩
      else ⟨.lineComment, false, rest⟩
  | ⟨.blockComment, _, c :: rest⟩ =>
      if c == '*' && rest.head? == some '/' then ⟨.code, false, rest.tail⟩
      else ⟨.blockComment, false, rest⟩
  | ⟨.quoted quote, _, c :: rest⟩ =>
      if c == '\\' then ⟨.quoted quote, false, rest.tail⟩
      else ⟨if c == quote then .code else .quoted quote, false, rest⟩
  | ⟨.code, _, c :: rest⟩ =>
      if c == '/' && rest.head? == some '/' then ⟨.lineComment, false, rest.tail⟩
      else if c == '/' && rest.head? == some '*' then ⟨.blockComment, false, rest.tail⟩
      else if c == '#' && rest.head? != some '[' then ⟨.lineComment, false, rest⟩
      else if isQuote c then ⟨.quoted c, false, rest⟩
      else if isIdentStart c then ⟨.code, false, rest.dropWhile isIdentChar⟩
      else ⟨.code, c == '$', rest⟩

def callAt? (isFetch : Text → Bool) : Cursor → Option (Text × Text)
  | ⟨.code, false, c :: rest⟩ =>
      if isIdentStart c && isFetch (c :: rest.takeWhile isIdentChar) then
        literalCall? (rest.dropWhile isIdentChar)
      else none
  | _ => none

def scanTurn (isFetch : Text → Bool) (cursor : Cursor) : Cursor :=
  match callAt? isFetch cursor with
  | some (_, behind) => ⟨.code, false, behind⟩
  | none => lexTurn cursor

def callsFrom (isFetch : Text → Bool) (cursor : Cursor) : List Text :=
  calls isFetch cursor.mode cursor.afterDollar cursor.ahead

variable {isFetch : Text → Bool}

theorem callAt?_eq_some_iff {cursor : Cursor} {name behind : Text} :
    callAt? isFetch cursor = some (name, behind) ↔
      ∃ c rest, cursor = ⟨.code, false, c :: rest⟩ ∧ isIdentStart c = true ∧
        isFetch (c :: rest.takeWhile isIdentChar) = true ∧
        literalCall? (rest.dropWhile isIdentChar) = some (name, behind) := by
  constructor
  · intro found
    unfold callAt? at found
    split at found
    · next c rest =>
        split at found
        · next starts =>
            rw [Bool.and_eq_true] at starts
            exact ⟨c, rest, rfl, starts.1, starts.2, found⟩
        · cases found
    · cases found
  · rintro ⟨c, rest, rfl, starts, fetches, found⟩
    rw [callAt?, starts, fetches]
    exact found

theorem not_isQuote_of_isIdentStart {c : Char} (starts : isIdentStart c = true) :
    isQuote c = false := by
  by_contra quote
  simp only [isQuote, Bool.or_eq_true, beq_iff_eq, Bool.not_eq_false] at quote
  rcases quote with code | rfl
  · have single : c = Char.ofNat 0x27 := Char.toNat_inj.1 code
    subst single
    exact absurd starts (by decide)
  · exact absurd starts (by decide)

theorem lexTurn_identifier {afterDollar : Bool} {c : Char} {rest : Text}
    (starts : isIdentStart c = true) :
    lexTurn ⟨.code, afterDollar, c :: rest⟩ = ⟨.code, false, rest.dropWhile isIdentChar⟩ := by
  have slash : c ≠ '/' := by rintro rfl; exact absurd starts (by decide)
  have hash : c ≠ '#' := by rintro rfl; exact absurd starts (by decide)
  simp [lexTurn, slash, hash, not_isQuote_of_isIdentStart starts, starts]

theorem head?_ne_some {x : Char} {t : Text} (other : ∀ rest, t = x :: rest → False) :
    t.head? ≠ some x := by
  cases t with
  | nil => simp
  | cons y t =>
      intro same
      exact other t (by rw [Option.some.inj same])

theorem not_backslash {c : Char} {t : Text} (final : c = '\\' → t = [] → False)
    (escape : ∀ x rest, c = '\\' → t = x :: rest → False) : ¬(c == '\\') = true := by
  rw [beq_iff_eq]
  intro same
  cases t with
  | nil => exact final same rfl
  | cons x t => exact escape x t same rfl

theorem callsFrom_of_call {cursor : Cursor} {name behind : Text}
    (found : callAt? isFetch cursor = some (name, behind)) :
    callsFrom isFetch cursor = name :: callsFrom isFetch ⟨.code, false, behind⟩ := by
  obtain ⟨c, rest, rfl, starts, fetches, literal⟩ := callAt?_eq_some_iff.1 found
  have slash : c ≠ '/' := by rintro rfl; exact absurd starts (by decide)
  have hash : c ≠ '#' := by rintro rfl; exact absurd starts (by decide)
  have quote : isQuote c = false := not_isQuote_of_isIdentStart starts
  rw [callsFrom, calls]
  · simp only [quote, starts, fetches]
    simp only [Bool.false_eq_true, if_false, if_true, Bool.not_false, Bool.and_self]
    split
    · next other later matched =>
        obtain ⟨rfl, rfl⟩ := Prod.mk.inj (Option.some.inj (literal.symm.trans matched))
        rfl
    · next matched => exact absurd (literal.symm.trans matched) (by simp)
  all_goals simp [slash, hash]

theorem lexTurn_code {afterDollar : Bool} {c : Char} {rest : Text}
    (line : ∀ t, c = '/' → rest = '/' :: t → False) (block : ∀ t, c = '/' → rest = '*' :: t → False)
    (hash : c = '#' → False) :
    lexTurn ⟨.code, afterDollar, c :: rest⟩ =
      if isQuote c then ⟨.quoted c, false, rest⟩
      else if isIdentStart c then ⟨.code, false, rest.dropWhile isIdentChar⟩
      else ⟨.code, c == '$', rest⟩ := by
  have noLine : ¬(c == '/' && rest.head? == some '/') = true := by
    simpa using fun same => head?_ne_some fun t => line t same
  have noBlock : ¬(c == '/' && rest.head? == some '*') = true := by
    simpa using fun same => head?_ne_some fun t => block t same
  have noHash : ¬(c == '#' && rest.head? != some '[') = true := by
    simpa using fun same => absurd same hash
  rw [lexTurn, if_neg noLine, if_neg noBlock, if_neg noHash]

theorem callsFrom_lexTurn {cursor : Cursor} (none : callAt? isFetch cursor = none) :
    callsFrom isFetch cursor = callsFrom isFetch (lexTurn cursor) := by
  obtain ⟨mode, afterDollar, ahead⟩ := cursor
  change calls isFetch mode afterDollar ahead = _
  rw [calls.eq_def]
  -- one case for each branch of the scan; a branch that jumps over nothing is the same turn
  split
  · rw [lexTurn, callsFrom, calls]
  · rfl
  · rfl
  · next c rest line tag =>
      have stays : ¬(c == '\n' || (c == '?' && rest.head? == some '>')) = true := by
        simp only [Bool.or_eq_true, Bool.and_eq_true, beq_iff_eq, not_or, not_and]
        exact ⟨line, fun same => head?_ne_some fun t => tag t same⟩
      rw [lexTurn, if_neg stays]
      rfl
  · rfl
  · next c rest close =>
      have stays : ¬(c == '*' && rest.head? == some '/') = true := by
        simpa using fun same => head?_ne_some fun t => close t same
      rw [lexTurn, if_neg stays]
      rfl
  · change [] = calls isFetch (.quoted _) false []
    rw [calls]
  · rfl
  · next quote c rest final escape =>
      rw [lexTurn, if_neg (not_backslash final escape)]
      rfl
  · rfl
  · rfl
  · rfl
  · next rest bracket =>
      have comment : ('#' == '#' && rest.head? != some '[') = true := by
        simpa using head?_ne_some bracket
      rw [lexTurn, if_neg (by simp), if_neg (by simp), if_pos comment]
      rfl
  · next c rest line block bracket hash =>
      rw [lexTurn_code line block hash]
      split
      · rfl
      · split
        · split
          · next starts undollared =>
              obtain ⟨rfl, fetches⟩ : afterDollar = false ∧
                  isFetch (c :: rest.takeWhile isIdentChar) = true := by simpa using undollared
              rw [callAt?, starts, fetches] at none
              split
              · next found => exact absurd (found.symm.trans none) (by simp)
              · rfl
          · rfl
        · rfl

theorem lexTurn_suffix_tail (cursor : Cursor) : (lexTurn cursor).ahead <:+ cursor.ahead.tail := by
  obtain ⟨mode, afterDollar, ahead⟩ := cursor
  cases ahead with
  | nil => rw [lexTurn]; exact List.suffix_refl []
  | cons c rest =>
      cases mode with
      | code =>
          rw [lexTurn]
          split_ifs
          · exact List.tail_suffix rest
          · exact List.tail_suffix rest
          · exact List.suffix_refl rest
          · exact List.suffix_refl rest
          · exact List.dropWhile_suffix _
          · exact List.suffix_refl rest
      | lineComment =>
          rw [lexTurn]
          split_ifs <;> exact List.suffix_refl rest
      | blockComment =>
          rw [lexTurn]
          split_ifs
          · exact List.tail_suffix rest
          · exact List.suffix_refl rest
      | quoted quote =>
          rw [lexTurn]
          split_ifs
          · exact List.tail_suffix rest
          · exact List.suffix_refl rest
          · exact List.suffix_refl rest

theorem length_lexTurn_lt {cursor : Cursor} (more : cursor.ahead ≠ []) :
    (lexTurn cursor).ahead.length < cursor.ahead.length := by
  have taken := (lexTurn_suffix_tail cursor).length_le
  have positive := List.length_pos_iff.2 more
  rw [List.length_tail] at taken
  omega

/-- Turns lead from one cursor to another. -/
inductive Reaches (step : Cursor → Cursor) : Cursor → Cursor → Prop
  | refl (cursor : Cursor) : Reaches step cursor cursor
  | turn {cursor goal : Cursor} :
      cursor.ahead ≠ [] → Reaches step (step cursor) goal → Reaches step cursor goal

/-- A text is come to in code at some offset. -/
def InCode (step : Cursor → Cursor) (t : Text) (offset : Nat) : Prop :=
  ∃ afterDollar, Reaches step (.start t) ⟨.code, afterDollar, t.drop offset⟩

theorem reaches_iff_of_done {step : Cursor → Cursor} {cursor goal : Cursor}
    (done : cursor.ahead = []) : Reaches step cursor goal ↔ goal = cursor := by
  constructor
  · rintro (_ | ⟨more, -⟩)
    · rfl
    · exact absurd done more
  · rintro rfl
    exact .refl _

theorem reaches_iff_of_more {step : Cursor → Cursor} {cursor goal : Cursor}
    (more : cursor.ahead ≠ []) :
    Reaches step cursor goal ↔ goal = cursor ∨ Reaches step (step cursor) goal := by
  constructor
  · rintro (_ | ⟨-, rest⟩)
    · exact .inl rfl
    · exact .inr rest
  · rintro (rfl | rest)
    · exact .refl _
    · exact .turn more rest

theorem Reaches.trans {step : Cursor → Cursor} {first second third : Cursor}
    (front : Reaches step first second) (rest : Reaches step second third) :
    Reaches step first third := by
  induction front with
  | refl => exact rest
  | turn more _ ih => exact .turn more (ih rest)

theorem Reaches.suffix {cursor goal : Cursor} (reaches : Reaches lexTurn cursor goal) :
    goal.ahead <:+ cursor.ahead := by
  induction reaches with
  | refl => exact List.suffix_refl _
  | turn _ _ ih => exact ih.trans ((lexTurn_suffix_tail _).trans (List.tail_suffix _))

theorem Reaches.length_le {cursor goal : Cursor} (reaches : Reaches lexTurn cursor goal) :
    goal.ahead.length ≤ cursor.ahead.length := reaches.suffix.length_le

theorem Reaches.onward {cursor between goal : Cursor} (first : Reaches lexTurn cursor between)
    (whole : Reaches lexTurn cursor goal)
    (further : goal.ahead.length ≤ between.ahead.length) : Reaches lexTurn between goal := by
  induction first with
  | refl => exact whole
  | turn more first ih =>
      cases whole with
      | refl =>
          have shorter := length_lexTurn_lt more
          have := first.length_le
          omega
      | turn _ rest => exact ih rest further

/-- The lexer passes from one cursor to another without meeting a call. -/
inductive Passes (isFetch : Text → Bool) : Cursor → Cursor → Prop
  | refl (cursor : Cursor) : Passes isFetch cursor cursor
  | turn {cursor goal : Cursor} : cursor.ahead ≠ [] → callAt? isFetch cursor = none →
      Passes isFetch (lexTurn cursor) goal → Passes isFetch cursor goal

theorem Passes.trans {first second third : Cursor} (front : Passes isFetch first second)
    (rest : Passes isFetch second third) : Passes isFetch first third := by
  induction front with
  | refl => exact rest
  | turn more none _ ih => exact .turn more none (ih rest)

theorem Passes.reaches {cursor goal : Cursor} (passes : Passes isFetch cursor goal) :
    Reaches lexTurn cursor goal := by
  induction passes with
  | refl => exact .refl _
  | turn more _ _ ih => exact .turn more ih

/-- A character that means nothing to the lexer in code. -/
def isInert (c : Char) : Bool :=
  !(c == '/' || c == '#' || c == '$' || isQuote c || isIdentStart c)

theorem isInert_of_isAsciiBlank {c : Char} (blank : isAsciiBlank c = true) : isInert c = true := by
  simp only [isAsciiBlank, Bool.or_eq_true, beq_iff_eq] at blank
  rcases blank with (((rfl | rfl) | rfl) | rfl) | rfl <;> decide

theorem callAt?_of_not_isIdentStart {mode : Mode} {afterDollar : Bool} {c : Char} {rest : Text}
    (other : isIdentStart c = false) : callAt? isFetch ⟨mode, afterDollar, c :: rest⟩ = none := by
  unfold callAt?
  split
  · next same =>
      obtain ⟨rfl, rfl⟩ := List.cons.inj (Cursor.mk.inj same).2.2
      rw [other]
      rfl
  · rfl

theorem passes_inert {c : Char} {rest : Text} (inert : isInert c = true) :
    Passes isFetch ⟨.code, false, c :: rest⟩ ⟨.code, false, rest⟩ := by
  simp only [isInert, Bool.not_eq_true', Bool.or_eq_false_iff, beq_eq_false_iff_ne] at inert
  obtain ⟨⟨⟨⟨slash, hash⟩, dollar⟩, quote⟩, starts⟩ := inert
  have next : lexTurn ⟨.code, false, c :: rest⟩ = ⟨.code, false, rest⟩ := by
    rw [lexTurn_code (fun _ same => absurd same slash) (fun _ same => absurd same slash)
      (fun same => absurd same hash), quote, starts, beq_eq_false_iff_ne.2 dollar]
    rfl
  exact .turn (by simp) (callAt?_of_not_isIdentStart starts) (next ▸ .refl _)

theorem passes_blanks (t : Text) :
    Passes isFetch ⟨.code, false, t⟩ ⟨.code, false, t.dropWhile isAsciiBlank⟩ := by
  induction t with
  | nil => exact .refl _
  | cons c t ih =>
      cases blank : isAsciiBlank c with
      | true =>
          rw [List.dropWhile_cons_of_pos blank]
          exact (passes_inert (isInert_of_isAsciiBlank blank)).trans ih
      | false =>
          rw [List.dropWhile_cons_of_neg (by simp [blank])]
          exact .refl _

theorem passes_quote {quote : Char} {quoted : Text} (isQuoted : isQuote quote = true) :
    Passes isFetch ⟨.code, false, quote :: quoted⟩ ⟨.quoted quote, false, quoted⟩ := by
  have slash : quote ≠ '/' := by rintro rfl; exact absurd isQuoted (by decide)
  have hash : quote ≠ '#' := by rintro rfl; exact absurd isQuoted (by decide)
  have starts : isIdentStart quote = false := by
    by_contra starts
    rw [not_isQuote_of_isIdentStart (by simpa using starts)] at isQuoted
    cases isQuoted
  have next : lexTurn ⟨.code, false, quote :: quoted⟩ = ⟨.quoted quote, false, quoted⟩ := by
    rw [lexTurn_code (fun _ same => absurd same slash) (fun _ same => absurd same slash)
      (fun same => absurd same hash), if_pos isQuoted]
  exact .turn (by simp) (callAt?_of_not_isIdentStart starts) (next ▸ .refl _)

theorem passes_quoted {quote : Char} {t content rest : Text}
    (read : readQuoted? quote t = some (content, rest)) :
    Passes isFetch ⟨.quoted quote, false, t⟩ ⟨.code, false, rest⟩ := by
  fun_induction readQuoted? quote t generalizing content rest with
  | case1 => cases read
  | case2 => cases read
  | case3 c t ih =>
      obtain ⟨⟨inner, after⟩, found, same⟩ := Option.map_eq_some_iff.1 read
      cases same
      exact .turn (by simp) rfl (ih found)
  | case4 c t final escape ends =>
      cases read
      refine .turn (by simp) rfl ?_
      rw [lexTurn, if_neg (not_backslash final escape), if_pos ends]
      exact .refl _
  | case5 c t final escape goesOn ih =>
      obtain ⟨⟨inner, after⟩, found, same⟩ := Option.map_eq_some_iff.1 read
      cases same
      refine .turn (by simp) rfl ?_
      rw [lexTurn, if_neg (not_backslash final escape), if_neg goesOn]
      exact ih found

theorem literalCall?_eq_some_iff {t name behind : Text} :
    literalCall? t = some (name, behind) ↔
      ∃ inside quote quoted content rest, t.dropWhile isAsciiBlank = '(' :: inside ∧
        inside.dropWhile isAsciiBlank = quote :: quoted ∧ isQuote quote = true ∧
        readQuoted? quote quoted = some (content, rest) ∧
        (quote == '"' && content.any (· == '$')) = false ∧
        rest.dropWhile isAsciiBlank = ')' :: behind ∧ unescape quote content = name := by
  constructor
  · intro found
    unfold literalCall? at found
    split at found
    case h_2 => cases found
    next inside opened =>
    split at found
    case h_2 => cases found
    next quote quoted second =>
    split at found
    case isFalse => cases found
    next isQuoted =>
    split at found
    case h_2 => cases found
    next content rest read =>
    split at found
    case isTrue => cases found
    next plain =>
    split at found
    case h_2 => cases found
    next closed =>
    obtain ⟨rfl, rfl⟩ := Prod.mk.inj (Option.some.inj found)
    exact ⟨inside, quote, quoted, content, rest, opened, second, isQuoted, read,
      Bool.eq_false_iff.2 plain, closed, rfl⟩
  · rintro ⟨inside, quote, quoted, content, rest, opened, second, isQuoted, read, plain, closed, rfl⟩
    simp [literalCall?, opened, second, isQuoted, read, plain, closed]

theorem passes_of_literalCall? {t name behind : Text} (found : literalCall? t = some (name, behind)) :
    Passes isFetch ⟨.code, false, t⟩ ⟨.code, false, behind⟩ := by
  obtain ⟨inside, quote, quoted, content, rest, opened, second, isQuoted, read, -, closed, -⟩ :=
    literalCall?_eq_some_iff.1 found
  have first : Passes isFetch ⟨.code, false, t⟩ ⟨.code, false, inside⟩ :=
    (opened ▸ passes_blanks t).trans (passes_inert (by decide))
  have last : Passes isFetch ⟨.code, false, rest⟩ ⟨.code, false, behind⟩ :=
    (closed ▸ passes_blanks rest).trans (passes_inert (by decide))
  have toQuote : Passes isFetch ⟨.code, false, inside⟩ ⟨.quoted quote, false, quoted⟩ :=
    (second ▸ passes_blanks inside).trans (passes_quote isQuoted)
  exact ((first.trans toQuote).trans (passes_quoted read)).trans last

/-- A jump of the scan ends where the lexer passes by. -/
theorem passes_scanTurn (isFetch : Text → Bool) (cursor : Cursor) :
    Passes isFetch (lexTurn cursor) (scanTurn isFetch cursor) := by
  unfold scanTurn
  split
  · next name behind found =>
      obtain ⟨c, rest, rfl, starts, -, literal⟩ := callAt?_eq_some_iff.1 found
      rw [lexTurn_identifier starts]
      exact passes_of_literalCall? literal
  · exact .refl _

theorem callsFrom_scanTurn (isFetch : Text → Bool) (cursor : Cursor) :
    callsFrom isFetch cursor =
      ((callAt? isFetch cursor).map Prod.fst).toList ++
        callsFrom isFetch (scanTurn isFetch cursor) := by
  unfold scanTurn
  cases found : callAt? isFetch cursor with
  | some call => exact callsFrom_of_call found
  | none => exact callsFrom_lexTurn found

theorem Reaches.of_scanTurn {cursor goal : Cursor}
    (reaches : Reaches (scanTurn isFetch) cursor goal) : Reaches lexTurn cursor goal := by
  induction reaches with
  | refl => exact .refl _
  | turn more _ ih => exact .turn more ((passes_scanTurn isFetch _).reaches.trans ih)

end DocblockSync.Settings
