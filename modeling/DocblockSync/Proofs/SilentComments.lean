import DocblockSync.Proofs.ClosingDelimiter
import DocblockSync.Proofs.PlainScan

/-! What a comment says does not count. A text up to a slash that the lexer comes to in code holds the
same calls whatever follows the slash: the lexer looks no further than one character ahead, and the
arguments of a call that lead across the slash do not let the lexer come to it in code. Behind a
comment the lexer is in code again, and it has met no call on the way. -/

namespace DocblockSync.Settings

open Text

variable {isFetch : Text → Bool}

def Cursor.append (cursor : Cursor) (more : Text) : Cursor :=
  { cursor with ahead := cursor.ahead ++ more }

theorem Cursor.append_mk (mode : Mode) (afterDollar : Bool) (t more : Text) :
    (Cursor.mk mode afterDollar t).append more = ⟨mode, afterDollar, t ++ more⟩ := rfl

theorem Cursor.append_ite (condition : Prop) [Decidable condition] (yes no : Cursor) (more : Text) :
    (if condition then yes else no).append more =
      if condition then yes.append more else no.append more :=
  apply_ite (Cursor.append · more) condition yes no

theorem dropWhile_append_of_slash {p : Char → Bool} (stops : p '/' = false) {t : Text}
    (slash : ['/'] <:+ t) (more : Text) : (t ++ more).dropWhile p = t.dropWhile p ++ more := by
  obtain ⟨front, rfl⟩ := slash
  have kept : ∀ rest, (front ++ '/' :: rest).dropWhile p = front.dropWhile p ++ '/' :: rest := by
    intro rest
    rw [List.dropWhile_append, List.dropWhile_cons_of_neg (by simp [stops])]
    split
    · next empty => rw [List.isEmpty_iff.1 empty, List.nil_append]
    · rfl
  rw [kept, List.append_assoc, List.append_assoc]
  exact kept more

theorem takeWhile_append_of_slash {p : Char → Bool} (stops : p '/' = false) {t : Text}
    (slash : ['/'] <:+ t) (more : Text) : (t ++ more).takeWhile p = t.takeWhile p := by
  have whole := List.takeWhile_append_dropWhile (p := p) (l := t ++ more)
  rw [dropWhile_append_of_slash stops slash, ← List.append_assoc, List.append_cancel_right_eq]
    at whole
  exact List.append_cancel_right (whole.trans List.takeWhile_append_dropWhile.symm)

theorem lexTurn_append {cursor : Cursor} (slash : ['/'] <:+ cursor.ahead.tail) (more : Text) :
    lexTurn (cursor.append more) = (lexTurn cursor).append more := by
  obtain ⟨mode, afterDollar, ahead⟩ := cursor
  obtain _ | ⟨c, _ | ⟨d, t⟩⟩ := ahead
  · exact absurd slash (by simp)
  · exact absurd slash (by simp)
  · have identifier : (d :: (t ++ more)).dropWhile isIdentChar =
        (d :: t).dropWhile isIdentChar ++ more :=
      dropWhile_append_of_slash (by decide) slash more
    rw [Cursor.append_mk, List.cons_append, List.cons_append]
    cases mode with
    | code =>
        simp only [lexTurn, Cursor.append_ite, Cursor.append_mk, identifier]
        rfl
    | _ =>
        simp only [lexTurn, Cursor.append_ite, Cursor.append_mk]
        rfl

theorem slash_suffix_of_cons {c : Char} {t : Text} (slash : ['/'] <:+ c :: t) (other : c ≠ '/') :
    ['/'] <:+ t := by
  rcases List.suffix_cons_iff.1 slash with same | later
  · exact absurd (List.cons.inj same).1.symm other
  · exact later

theorem slash_suffix_dropWhile {p : Char → Bool} (stops : p '/' = false) {t : Text}
    (slash : ['/'] <:+ t) : ['/'] <:+ t.dropWhile p := by
  obtain ⟨front, rfl⟩ := slash
  induction front with
  | nil => simp [stops]
  | cons c front ih =>
      rw [List.cons_append, List.dropWhile_cons]
      split
      · exact ih
      · exact List.suffix_append (c :: front) ['/']

/-- The lexer comes to the last slash of a text in code. -/
def Arrives (afterDollar : Bool) (cursor : Cursor) : Prop :=
  Reaches lexTurn cursor ⟨.code, afterDollar, ['/']⟩

variable {dollar : Bool}

theorem Arrives.slash_suffix {cursor : Cursor} (arrives : Arrives dollar cursor) :
    ['/'] <:+ cursor.ahead := arrives.suffix

theorem Arrives.slash_suffix_tail {cursor : Cursor} (arrives : Arrives dollar (lexTurn cursor)) :
    ['/'] <:+ cursor.ahead.tail := arrives.slash_suffix.trans (lexTurn_suffix_tail cursor)

theorem Arrives.turn_quoted {quote : Char} {t : Text}
    (arrives : Arrives dollar ⟨.quoted quote, false, t⟩) :
    Arrives dollar (lexTurn ⟨.quoted quote, false, t⟩) := by
  cases arrives with
  | turn _ onward => exact onward

theorem readQuoted?_of_arrives {quote : Char} {t : Text}
    (arrives : Arrives dollar ⟨.quoted quote, false, t⟩) :
    ∃ content rest, readQuoted? quote t = some (content, rest) ∧
      Arrives dollar ⟨.code, false, rest⟩ := by
  fun_induction readQuoted? quote t with
  | case1 => exact absurd arrives.slash_suffix (by simp)
  | case2 =>
      have next := arrives.turn_quoted
      exact absurd next.slash_suffix (by simp [lexTurn])
  | case3 c t ih =>
      obtain ⟨content, rest, read, onward⟩ := ih arrives.turn_quoted
      exact ⟨_, rest, by rw [read]; rfl, onward⟩
  | case4 c t final escape ends =>
      have next := arrives.turn_quoted
      rw [lexTurn, if_neg (not_backslash final escape), if_pos ends] at next
      exact ⟨[], t, rfl, next⟩
  | case5 c t final escape goesOn ih =>
      have next := arrives.turn_quoted
      rw [lexTurn, if_neg (not_backslash final escape), if_neg goesOn] at next
      obtain ⟨content, rest, read, onward⟩ := ih next
      exact ⟨_, rest, by rw [read]; rfl, onward⟩

theorem readQuoted?_append {quote : Char} {t content rest : Text} (more : Text)
    (read : readQuoted? quote t = some (content, rest)) :
    readQuoted? quote (t ++ more) = some (content, rest ++ more) := by
  fun_induction readQuoted? quote t generalizing content rest with
  | case1 => cases read
  | case2 => cases read
  | case3 c t ih =>
      obtain ⟨⟨inner, after⟩, found, same⟩ := Option.map_eq_some_iff.1 read
      cases same
      rw [List.cons_append, List.cons_append, readQuoted?, ih found]
      rfl
  | case4 c t final escape ends =>
      cases read
      have other : c ≠ '\\' := by simpa using not_backslash final escape
      rw [List.cons_append, readQuoted?, if_pos ends]
      · exact fun same => absurd same other
      · exact fun _ _ same => absurd same other
  | case5 c t final escape goesOn ih =>
      obtain ⟨⟨inner, after⟩, found, same⟩ := Option.map_eq_some_iff.1 read
      cases same
      have other : c ≠ '\\' := by simpa using not_backslash final escape
      rw [List.cons_append, readQuoted?, if_neg goesOn, ih found]
      · rfl
      · exact fun same => absurd same other
      · exact fun _ _ same => absurd same other

theorem dropWhile_append_of_cons {p : Char → Bool} {t rest : Text} {c : Char}
    (found : t.dropWhile p = c :: rest) (more : Text) :
    (t ++ more).dropWhile p = c :: (rest ++ more) := by
  rw [List.dropWhile_append, found]
  rfl

theorem literalCall?_append {t name behind : Text} (more : Text)
    (found : literalCall? t = some (name, behind)) :
    literalCall? (t ++ more) = some (name, behind ++ more) := by
  obtain ⟨inside, quote, quoted, content, rest, opened, second, isQuoted, read, plain, closed, same⟩ :=
    literalCall?_eq_some_iff.1 found
  exact literalCall?_eq_some_iff.2 ⟨inside ++ more, quote, quoted ++ more, content, rest ++ more,
    dropWhile_append_of_cons opened more, dropWhile_append_of_cons second more, isQuoted,
    readQuoted?_append more read, plain, dropWhile_append_of_cons closed more, same⟩

theorem exists_dropWhile_of_append {t inside more : Text} {c : Char} (slash : ['/'] <:+ t)
    (found : (t ++ more).dropWhile isAsciiBlank = c :: inside) (other : c ≠ '/') :
    ∃ here, t.dropWhile isAsciiBlank = c :: here ∧ inside = here ++ more ∧ ['/'] <:+ here := by
  have stays : ['/'] <:+ t.dropWhile isAsciiBlank := slash_suffix_dropWhile (by decide) slash
  rw [dropWhile_append_of_slash (by decide) slash] at found
  cases front : t.dropWhile isAsciiBlank with
  | nil =>
      rw [front] at stays
      exact absurd stays (by simp)
  | cons d here =>
      rw [front] at found stays
      obtain ⟨rfl, rfl⟩ := List.cons.inj found
      exact ⟨here, rfl, rfl, slash_suffix_of_cons stays other⟩

theorem literalCall?_of_append {t more name behind : Text}
    (arrives : Arrives dollar ⟨.code, false, t⟩)
    (found : literalCall? (t ++ more) = some (name, behind)) :
    ∃ here, literalCall? t = some (name, here) := by
  obtain ⟨inside, quote, quoted, content, rest, opened, second, isQuoted, read, plain, closed, same⟩ :=
    literalCall?_eq_some_iff.1 found
  have quoteOther : quote ≠ '/' := by rintro rfl; exact absurd isQuoted (by decide)
  obtain ⟨insideHere, opened', rfl, insideSlash⟩ :=
    exists_dropWhile_of_append arrives.slash_suffix opened (by decide)
  obtain ⟨quotedHere, second', rfl, quotedSlash⟩ :=
    exists_dropWhile_of_append insideSlash second quoteOther
  have passes : Passes (fun _ => false) ⟨.code, false, t⟩ ⟨.quoted quote, false, quotedHere⟩ :=
    ((opened' ▸ passes_blanks t).trans (passes_inert (by decide))).trans
      ((second' ▸ passes_blanks insideHere).trans (passes_quote isQuoted))
  -- within its literal the lexer is not in code, so the literal ends before the slash
  obtain ⟨contentHere, restHere, read', onward⟩ :=
    readQuoted?_of_arrives (passes.reaches.onward arrives quotedSlash.length_le)
  obtain ⟨rfl, rfl⟩ : contentHere = content ∧ restHere ++ more = rest := by
    simpa [readQuoted?_append more read'] using read
  obtain ⟨here, closed', -⟩ := exists_dropWhile_of_append onward.slash_suffix closed (by decide)
  exact ⟨here, literalCall?_eq_some_iff.2 ⟨insideHere, quote, quotedHere, contentHere, restHere,
    opened', second', isQuoted, read', plain, closed', same⟩⟩

theorem map_fst_literalCall?_append {t : Text} (arrives : Arrives dollar ⟨.code, false, t⟩)
    (more : Text) :
    (literalCall? (t ++ more)).map Prod.fst = (literalCall? t).map Prod.fst := by
  cases found : literalCall? (t ++ more) with
  | some call =>
      obtain ⟨here, found'⟩ := literalCall?_of_append arrives found
      rw [found']
      rfl
  | none =>
      cases found' : literalCall? t with
      | none => rfl
      | some call => exact absurd (found.symm.trans (literalCall?_append more found')) (by simp)

theorem map_fst_callAt?_append {cursor : Cursor} (arrives : Arrives dollar (lexTurn cursor))
    (more : Text) :
    (callAt? isFetch (cursor.append more)).map Prod.fst = (callAt? isFetch cursor).map Prod.fst := by
  have slash := arrives.slash_suffix_tail
  obtain ⟨mode, afterDollar, ahead⟩ := cursor
  cases ahead with
  | nil => exact absurd slash (by simp)
  | cons c t =>
      change ['/'] <:+ t at slash
      cases starts : isIdentStart c with
      | false =>
          rw [callAt?_of_not_isIdentStart starts]
          exact congrArg _ (callAt?_of_not_isIdentStart starts)
      | true =>
          match mode, afterDollar with
          | .code, false =>
              rw [lexTurn_identifier starts] at arrives
              rw [Cursor.append_mk, List.cons_append, callAt?, callAt?,
                takeWhile_append_of_slash (by decide) slash,
                dropWhile_append_of_slash (by decide) slash]
              split
              · exact map_fst_literalCall?_append arrives more
              · rfl
          | .code, true => rfl
          | .lineComment, _ => rfl
          | .blockComment, _ => rfl
          | .quoted _, _ => rfl

/-- The calls of a text up to a slash that the lexer comes to in code, and those from the slash on. -/
theorem plainCalls_append {cursor : Cursor} (arrives : Arrives dollar cursor) (more : Text) :
    plainCalls isFetch (cursor.append more) =
      plainCalls isFetch cursor ++ plainCalls isFetch ⟨.code, dollar, '/' :: more⟩ := by
  unfold Arrives at arrives
  generalize goal : Cursor.mk .code dollar ['/'] = last at arrives
  induction arrives with
  | refl =>
      subst goal
      have silent : plainCalls isFetch ⟨.code, dollar, ['/']⟩ = [] := by
        rw [plainCalls_of_more (List.cons_ne_nil _ _), callAt?_of_not_isIdentStart (by decide),
          plainCalls_of_done rfl]
        rfl
      rw [silent, List.nil_append]
      rfl
  | @turn cursor last here onward ih =>
      subst goal
      have longer : (cursor.append more).ahead ≠ [] := List.append_ne_nil_of_left_ne_nil here more
      rw [plainCalls_of_more longer, plainCalls_of_more here, map_fst_callAt?_append onward,
        lexTurn_append (Arrives.slash_suffix_tail onward), ih rfl, List.append_assoc]

theorem arrives_of_append {cursor : Cursor} (here : cursor.ahead ≠ []) (more : Text)
    (reaches : Reaches lexTurn (cursor.append more) ⟨.code, dollar, '/' :: more⟩) :
    Arrives dollar cursor := by
  induction size : cursor.ahead.length using Nat.strongRecOn generalizing cursor with
  | _ n ih =>
      have longer : (cursor.append more).ahead ≠ [] := List.append_ne_nil_of_left_ne_nil here more
      rcases (reaches_iff_of_more longer).1 reaches with same | onward
      · obtain ⟨mode, afterDollar, ahead⟩ := cursor
        obtain ⟨rfl, rfl, same⟩ := Cursor.mk.inj same
        obtain rfl : ['/'] = ahead := List.append_cancel_right same
        exact .refl _
      · -- the turn ends before the slash, so it is the same turn without what follows the slash
        have ahead : ['/'] ++ more <:+ (cursor.ahead ++ more).tail :=
          onward.suffix.trans (lexTurn_suffix_tail (cursor.append more))
        rw [List.tail_append_of_ne_nil here, List.suffix_append_self_iff] at ahead
        rw [lexTurn_append ahead] at onward
        have slash : ['/'] <:+ (lexTurn cursor).ahead :=
          List.suffix_append_self_iff.1 onward.suffix
        exact .turn here
          (ih _ (size ▸ length_lexTurn_lt here) (slash.ne_nil (by simp)) onward rfl)

theorem not_delimiter_of_not_contains {a b c x : Char} {content : Text} (other : x ≠ b)
    (free : contains [a, b] (c :: content) = false) (rest : Text) :
    ¬(c == a && (content ++ x :: rest).head? == some b) = true := by
  rw [contains, startsWith_cons_cons, Bool.or_eq_false_iff] at free
  cases content with
  | nil => simp [other]
  | cons d content =>
      rw [startsWith_cons_cons, startsWith_nil, Bool.and_true] at free
      rw [List.cons_append, List.head?_cons, Option.some_beq_some, Bool.beq_comm,
        Bool.beq_comm (a := d), free.1]
      decide

theorem passes_blockContent {content : Text} (unclosed : contains ['*', '/'] content = false)
    (rest : Text) :
    Passes isFetch ⟨.blockComment, false, content ++ '*' :: '/' :: rest⟩ ⟨.code, false, rest⟩ := by
  induction content with
  | nil => exact .turn (by simp) rfl (.refl _)
  | cons c content ih =>
      refine .turn (by simp) rfl ?_
      rw [List.cons_append, lexTurn, if_neg (not_delimiter_of_not_contains (by decide) unclosed _)]
      exact ih (Bool.or_eq_false_iff.1 unclosed).2

theorem passes_lineContent {content : Text} (oneLine : '\n' ∉ content)
    (inside : contains ['?', '>'] content = false) (rest : Text) :
    Passes isFetch ⟨.lineComment, false, content ++ '\n' :: rest⟩ ⟨.code, false, rest⟩ := by
  induction content with
  | nil => exact .turn (by simp) rfl (.refl _)
  | cons c content ih =>
      have line : c ≠ '\n' := (List.ne_of_not_mem_cons oneLine).symm
      have stays : ¬(c == '\n' || c == '?' && (content ++ '\n' :: rest).head? == some '>') = true := by
        rw [Bool.or_eq_true, not_or]
        exact ⟨by simpa using line, not_delimiter_of_not_contains (by decide) inside rest⟩
      refine .turn (by simp) rfl ?_
      rw [List.cons_append, lexTurn, if_neg stays]
      exact ih (List.not_mem_of_not_mem_cons oneLine) (Bool.or_eq_false_iff.1 inside).2

def blockComment (content : Text) : Text := ['/', '*'] ++ content ++ ['*', '/']

def lineComment (content : Text) : Text := ['/', '/'] ++ content ++ ['\n']

/-- A whole comment: its content does not end it. -/
inductive IsComment : Text → Prop
  | block {content : Text} : contains ['*', '/'] content = false → IsComment (blockComment content)
  | line {content : Text} : '\n' ∉ content → contains ['?', '>'] content = false →
      IsComment (lineComment content)

theorem IsComment.exists_slash {comment : Text} (whole : IsComment comment) :
    ∃ inner, comment = '/' :: inner := by
  cases whole with
  | block => exact ⟨_, rfl⟩
  | line => exact ⟨_, rfl⟩

theorem IsComment.passes {comment : Text} (whole : IsComment comment) (dollar : Bool) (rest : Text) :
    Passes isFetch ⟨.code, dollar, comment ++ rest⟩ ⟨.code, false, rest⟩ := by
  cases whole with
  | @block content unclosed =>
      have opened : blockComment content ++ rest = '/' :: '*' :: (content ++ '*' :: '/' :: rest) := by
        simp [blockComment]
      rw [opened]
      exact .turn (by simp) (callAt?_of_not_isIdentStart (by decide))
        (passes_blockContent unclosed rest)
  | @line content oneLine inside =>
      have opened : lineComment content ++ rest = '/' :: '/' :: (content ++ '\n' :: rest) := by
        simp [lineComment]
      rw [opened]
      exact .turn (by simp) (callAt?_of_not_isIdentStart (by decide))
        (passes_lineContent oneLine inside rest)

theorem plainCalls_comment {front comment rest : Text}
    (arrives : Arrives dollar (.start (front ++ ['/']))) (whole : IsComment comment) :
    plainCalls isFetch (.start (front ++ comment ++ rest)) =
      plainCalls isFetch (.start (front ++ ['/'])) ++ plainCalls isFetch ⟨.code, false, rest⟩ := by
  obtain ⟨inner, rfl⟩ := whole.exists_slash
  have longer : Cursor.start (front ++ '/' :: inner ++ rest) =
      (Cursor.start (front ++ ['/'])).append (inner ++ rest) := by
    simp [Cursor.start, Cursor.append]
  rw [longer, plainCalls_append arrives, ← (whole.passes dollar rest).plainCalls_eq]
  rfl

/-- Where a comment starts in code, any other comment may stand. -/
theorem scan_replace_comment {functions : List Text} {front first second rest : Text}
    (firstWhole : IsComment first) (secondWhole : IsComment second)
    (inCode : InCode (scanTurn (isFetchCall functions)) (front ++ first ++ rest) front.length) :
    scan functions (front ++ first ++ rest) = scan functions (front ++ second ++ rest) := by
  obtain ⟨dollar, reaches⟩ := inCode
  obtain ⟨inner, rfl⟩ := firstWhole.exists_slash
  have arrives : Arrives dollar (.start (front ++ ['/'])) := by
    refine arrives_of_append (by simp [Cursor.start]) (inner ++ rest) ?_
    simpa [Cursor.start, Cursor.append] using reaches.of_scanTurn
  rw [scan_eq_plainCalls, scan_eq_plainCalls, plainCalls_comment arrives firstWhole,
    plainCalls_comment arrives secondWhole]

/-- What a comment says never shows in the settings: a comment that starts in code may say anything
else that does not end it. -/
theorem comment_content_silent (functions : List Text) (front first second rest : Text) :
    (contains ['*', '/'] first = false → contains ['*', '/'] second = false →
      InCode (scanTurn (isFetchCall functions)) (front ++ blockComment first ++ rest) front.length →
      scan functions (front ++ blockComment first ++ rest) =
        scan functions (front ++ blockComment second ++ rest)) ∧
    ('\n' ∉ first → contains ['?', '>'] first = false →
      '\n' ∉ second → contains ['?', '>'] second = false →
      InCode (scanTurn (isFetchCall functions)) (front ++ lineComment first ++ rest) front.length →
      scan functions (front ++ lineComment first ++ rest) =
        scan functions (front ++ lineComment second ++ rest)) := by
  constructor
  · intro firstUnclosed secondUnclosed inCode
    exact scan_replace_comment (.block firstUnclosed) (.block secondUnclosed) inCode
  · intro firstLine firstInside secondLine secondInside inCode
    exact scan_replace_comment (.line firstLine firstInside) (.line secondLine secondInside) inCode

theorem comment_content_silent_call :
    scan ["get".toList]
        ("get(\"x\");".toList ++ blockComment "get(\"y\") \"".toList ++ "get(\"z\")".toList) =
      scan ["get".toList] ("get(\"x\");".toList ++ blockComment [] ++ "get(\"z\")".toList) ∧
    scan ["get".toList]
        ("get(\"x\");".toList ++ lineComment "get(\"y\") \"".toList ++ "get(\"z\")".toList) =
      scan ["get".toList] ("get(\"x\");".toList ++ lineComment [] ++ "get(\"z\")".toList) := by
  obtain ⟨block, line⟩ := comment_content_silent ["get".toList] "get(\"x\");".toList
    "get(\"y\") \"".toList [] "get(\"z\")".toList
  -- the scan comes to the comment in two turns: over the call, and over the semicolon
  exact ⟨block (by decide) (by decide) ⟨false, .turn (by decide) (.turn (by decide) (.refl _))⟩,
    line (by decide) (by decide) (by decide) (by decide)
      ⟨false, .turn (by decide) (.turn (by decide) (.refl _))⟩⟩

end DocblockSync.Settings
