import DocblockSync.Proofs.ScannerTurns
import DocblockSync.Proofs.ScopePositions
import Mathlib.Data.List.TakeWhile

/-! The scan as a plain lexer. To jump over the arguments of a fetching call changes nothing: the
lexer meets no call among them. So the settings of a text are the literals of all fetching calls
whose identifier the lexer comes to in code, behind no dollar sign. -/

namespace DocblockSync.Settings

open Text

/-- The literals of all fetching calls that the lexer comes to from a cursor on. Behind the identifier
of a call it goes on as behind any other. -/
def plainCalls (isFetch : Text → Bool) (cursor : Cursor) : List Text :=
  if _more : cursor.ahead = [] then []
  else
    ((callAt? isFetch cursor).map Prod.fst).toList ++ plainCalls isFetch (lexTurn cursor)
termination_by cursor.ahead.length
decreasing_by exact length_lexTurn_lt _more

variable {isFetch : Text → Bool}

theorem plainCalls_of_done {cursor : Cursor} (done : cursor.ahead = []) :
    plainCalls isFetch cursor = [] := by
  rw [plainCalls, dif_pos done]

theorem plainCalls_of_more {cursor : Cursor} (more : cursor.ahead ≠ []) :
    plainCalls isFetch cursor =
      ((callAt? isFetch cursor).map Prod.fst).toList ++ plainCalls isFetch (lexTurn cursor) := by
  rw [plainCalls, dif_neg more]

theorem Passes.plainCalls_eq {cursor goal : Cursor} (passes : Passes isFetch cursor goal) :
    plainCalls isFetch cursor = plainCalls isFetch goal := by
  induction passes with
  | refl => rfl
  | turn more none _ ih => rw [plainCalls_of_more more, none, ih]; rfl

/-- What the scan finds by jumping over arguments, the lexer finds without. -/
theorem callsFrom_eq_plainCalls (cursor : Cursor) :
    callsFrom isFetch cursor = plainCalls isFetch cursor := by
  induction size : cursor.ahead.length using Nat.strongRecOn generalizing cursor with
  | _ n ih =>
      by_cases done : cursor.ahead = []
      · rw [plainCalls_of_done done, callsFrom, done, calls]
      · have shorter : (scanTurn isFetch cursor).ahead.length < n :=
          size ▸ Nat.lt_of_le_of_lt (passes_scanTurn isFetch cursor).reaches.length_le
            (length_lexTurn_lt done)
        rw [callsFrom_scanTurn, plainCalls_of_more done, ih _ shorter (scanTurn isFetch cursor) rfl,
          (passes_scanTurn isFetch cursor).plainCalls_eq]

theorem scan_eq_plainCalls (functions : List Text) (t : Text) :
    scan functions t = (plainCalls (isFetchCall functions) (.start t)).eraseDups := by
  rw [← callsFrom_eq_plainCalls]
  rfl

/-- The call that starts at a cursor, if any, with the length of the text from its identifier on. -/
def callHere (isFetch : Text → Bool) (cursor : Cursor) : List (Nat × Text) :=
  ((callAt? isFetch cursor).map fun call => (cursor.ahead.length, call.1)).toList

theorem mem_callHere_iff {cursor : Cursor} {left : Nat} {name : Text} :
    (left, name) ∈ callHere isFetch cursor ↔
      ∃ ahead behind, ⟨.code, false, ahead⟩ = cursor ∧ ahead.length = left ∧
        callAt? isFetch ⟨.code, false, ahead⟩ = some (name, behind) := by
  rw [callHere, Option.mem_toList, Option.map_eq_some_iff]
  constructor
  · rintro ⟨⟨_, behind⟩, found, same⟩
    obtain ⟨rfl, rfl⟩ := Prod.mk.inj same
    obtain ⟨c, rest, rfl, -⟩ := callAt?_eq_some_iff.1 found
    exact ⟨c :: rest, behind, rfl, rfl, found⟩
  · rintro ⟨ahead, behind, rfl, rfl, found⟩
    exact ⟨(name, behind), found, rfl⟩

theorem callHere_of_done {cursor : Cursor} (done : cursor.ahead = []) :
    callHere isFetch cursor = [] := by
  obtain ⟨mode, afterDollar, ahead⟩ := cursor
  obtain rfl : ahead = [] := done
  cases mode <;> cases afterDollar <;> rfl

/-- The calls that the lexer comes to, each with the length of the text from its identifier on. -/
theorem exists_plainCalls (isFetch : Text → Bool) (cursor : Cursor) :
    ∃ places : List (Nat × Text),
      places.Pairwise (fun a b => b.1 < a.1) ∧
      (∀ left name, (left, name) ∈ places ↔
        ∃ ahead behind, Reaches lexTurn cursor ⟨.code, false, ahead⟩ ∧ ahead.length = left ∧
          callAt? isFetch ⟨.code, false, ahead⟩ = some (name, behind)) ∧
      places.map Prod.snd = plainCalls isFetch cursor := by
  induction size : cursor.ahead.length using Nat.strongRecOn generalizing cursor with
  | _ n ih =>
      by_cases done : cursor.ahead = []
      · refine ⟨[], List.Pairwise.nil, fun left name => ?_, (plainCalls_of_done done).symm⟩
        have noCall : callHere isFetch cursor = [] := callHere_of_done done
        rw [← noCall, mem_callHere_iff]
        simp only [reaches_iff_of_done done]
      · have shorter := length_lexTurn_lt done
        obtain ⟨places, ordered, mem_iff, values⟩ := ih _ (size ▸ shorter) (lexTurn cursor) rfl
        refine ⟨callHere isFetch cursor ++ places, ?_, fun left name => ?_, ?_⟩
        · refine List.pairwise_append.2 ⟨?_, ordered, ?_⟩
          · rw [callHere]
            cases callAt? isFetch cursor <;> simp
          · rintro ⟨left, name⟩ here ⟨left', name'⟩ later
            obtain ⟨ahead, -, rfl, rfl, -⟩ := mem_callHere_iff.1 here
            obtain ⟨ahead', -, reaches, rfl, -⟩ := (mem_iff left' name').1 later
            exact Nat.lt_of_le_of_lt reaches.length_le shorter
        · rw [List.mem_append, mem_callHere_iff, mem_iff]
          simp only [reaches_iff_of_more done, or_and_right, exists_or]
        · rw [List.map_append, values, plainCalls_of_more done, callHere]
          cases callAt? isFetch cursor <;> rfl

/-- A cursor stands somewhere in a text, knows in code whether the character before it is a dollar
sign, and is in strings that start with a quote only. -/
def Tracks (t : Text) (cursor : Cursor) : Prop :=
  ∃ read, t = read ++ cursor.ahead ∧
    (cursor.mode = .code → (cursor.afterDollar = true ↔ read.getLast? = some '$')) ∧
    ∀ quote, cursor.mode = .quoted quote → isQuote quote = true

theorem tracks_of_taken {t read taken ahead : Text} {mode : Mode} {afterDollar : Bool}
    (same : t = read ++ (taken ++ ahead)) (some : taken ≠ [])
    (dollar : mode = .code → (afterDollar = true ↔ taken.getLast? = Option.some '$'))
    (quoted : ∀ quote, mode = .quoted quote → isQuote quote = true) :
    Tracks t ⟨mode, afterDollar, ahead⟩ := by
  refine ⟨read ++ taken, by rw [same, List.append_assoc], fun code => ?_, quoted⟩
  rw [List.getLast?_append_of_ne_nil read some]
  exact dollar code

theorem getLast?_identifier {c : Char} (rest : Text) (starts : isIdentStart c = true) :
    (c :: rest.takeWhile isIdentChar).getLast? ≠ some '$' := by
  intro last
  have all : ∀ x ∈ c :: rest.takeWhile isIdentChar, isIdentChar x = true := by
    refine List.forall_mem_cons.2 ⟨by rw [isIdentChar, starts, Bool.true_or], fun x member => ?_⟩
    exact List.mem_takeWhile_imp member
  exact absurd (all '$' (List.mem_of_getLast? last)) (by decide)

theorem eq_cons_tail_of_head? {x : Char} {t : Text} (head : (t.head? == some x) = true) :
    t = x :: t.tail := by
  cases t with
  | nil => cases head
  | cons y t =>
      obtain rfl : y = x := by simpa using head
      rfl

theorem Tracks.turn {t : Text} {cursor : Cursor} (tracks : Tracks t cursor) :
    Tracks t (lexTurn cursor) := by
  obtain ⟨mode, afterDollar, ahead⟩ := cursor
  obtain ⟨read, same, dollar, quoted⟩ := tracks
  cases ahead with
  | nil => exact ⟨read, same, dollar, quoted⟩
  | cons c rest =>
      have one : t = read ++ ([c] ++ rest) := same
      have two : t = read ++ ((c :: rest.take 1) ++ rest.tail) := by
        rw [List.cons_append, ← List.drop_one, List.take_append_drop]
        exact same
      cases mode with
      | lineComment =>
          rw [lexTurn]
          split
          · next ends =>
              have other : c ≠ '$' := by
                rintro rfl
                simp at ends
              exact tracks_of_taken one (by simp) (by simpa using other) (by simp)
          · exact tracks_of_taken one (by simp) (by simp) (by simp)
      | blockComment =>
          rw [lexTurn]
          split
          · next closes =>
              rw [Bool.and_eq_true] at closes
              have taken : t = read ++ ([c, '/'] ++ rest.tail) := by
                rw [one, List.append_cancel_left_eq, eq_cons_tail_of_head? closes.2]
                rfl
              exact tracks_of_taken taken (by simp) (by simp) (by simp)
          · exact tracks_of_taken one (by simp) (by simp) (by simp)
      | quoted quote =>
          rw [lexTurn]
          split
          · exact tracks_of_taken two (by simp) (by simp) quoted
          · split
            · next ends =>
                have other : c ≠ '$' := by
                  rintro rfl
                  have isQuoted := quoted quote rfl
                  rw [← beq_iff_eq.1 ends] at isQuoted
                  exact absurd isQuoted (by decide)
                exact tracks_of_taken one (by simp) (by simpa using other) (by simp)
            · exact tracks_of_taken one (by simp) (by simp) quoted
      | code =>
          rw [lexTurn]
          split_ifs with line block hash isQuoted starts
          · exact tracks_of_taken two (by simp) (by simp) (by simp)
          · exact tracks_of_taken two (by simp) (by simp) (by simp)
          · exact tracks_of_taken one (by simp) (by simp) (by simp)
          · exact tracks_of_taken one (by simp) (by simp) 
              fun quote same => Mode.quoted.inj same ▸ isQuoted
          · have taken : t = read ++ ((c :: rest.takeWhile isIdentChar) ++
                rest.dropWhile isIdentChar) := by
              rw [List.cons_append, List.takeWhile_append_dropWhile]
              exact same
            exact tracks_of_taken taken (by simp)
              (by simpa using getLast?_identifier rest starts) (by simp)
          · exact tracks_of_taken one (by simp) (by simp) (by simp)

theorem Reaches.tracks {t : Text} {cursor goal : Cursor} (reaches : Reaches lexTurn cursor goal)
    (tracks : Tracks t cursor) : Tracks t goal := by
  induction reaches with
  | refl => exact tracks
  | turn _ _ ih => exact ih tracks.turn

theorem tracks_start (t : Text) : Tracks t (.start t) :=
  ⟨[], rfl, by simp [Cursor.start], by simp [Cursor.start]⟩

/-- A fetching call of a text: its identifier starts at an offset that the lexer comes to in code,
behind no dollar sign, and names a fetching function; its only argument is a literal. -/
def FetchesAt (functions : List Text) (t : Text) (offset : Nat) (name : Text) : Prop :=
  InCode lexTurn t offset ∧ (t.take offset).getLast? ≠ some '$' ∧
    ∃ c rest behind, t.drop offset = c :: rest ∧ isIdentStart c = true ∧
      isFetchCall functions (c :: rest.takeWhile isIdentChar) = true ∧
      literalCall? (rest.dropWhile isIdentChar) = some (name, behind)

theorem fetchesAt_iff {functions : List Text} {t : Text} {offset : Nat} {name : Text} :
    FetchesAt functions t offset name ↔
      ∃ ahead behind, Reaches lexTurn (.start t) ⟨.code, false, ahead⟩ ∧
        callAt? (isFetchCall functions) ⟨.code, false, ahead⟩ = some (name, behind) ∧
        t.length - ahead.length = offset := by
  constructor
  · rintro ⟨⟨afterDollar, reaches⟩, noDollar, c, rest, behind, ahead, starts, fetches, literal⟩
    obtain ⟨read, same, dollar, -⟩ := reaches.tracks (tracks_start t)
    have front : t.take offset = read :=
      List.append_cancel_right ((List.take_append_drop offset t).trans same)
    have undollared : afterDollar = false := by
      rw [← Bool.not_eq_true, dollar rfl, ← front]
      exact noDollar
    subst undollared
    rw [ahead] at reaches
    refine ⟨c :: rest, behind, reaches,
      callAt?_eq_some_iff.2 ⟨c, rest, rfl, starts, fetches, literal⟩, ?_⟩
    have inside : offset < t.length := by
      by_contra outside
      rw [List.drop_eq_nil_of_le (by omega)] at ahead
      cases ahead
    rw [← ahead, List.length_drop]
    omega
  · rintro ⟨ahead, behind, reaches, found, rfl⟩
    obtain ⟨read, same, dollar, -⟩ := reaches.tracks (tracks_start t)
    change t = read ++ ahead at same
    have size : t.length - ahead.length = read.length := by
      rw [same, List.length_append, Nat.add_sub_cancel]
    have back : t.drop read.length = ahead := by rw [same, List.drop_left]
    have front : t.take read.length = read := by rw [same, List.take_left]
    obtain ⟨c, rest, cursor, starts, fetches, literal⟩ := callAt?_eq_some_iff.1 found
    obtain rfl := (Cursor.mk.inj cursor).2.2
    rw [size]
    refine ⟨⟨false, back.symm ▸ reaches⟩, ?_, c, rest, behind, back, starts, fetches, literal⟩
    rw [front]
    exact fun dollarBefore => absurd ((dollar rfl).2 dollarBefore) (by simp)

/-- To jump over a fetching call is no more than a shortcut: the scan finds what the lexer finds that
goes on right behind the identifier. So the settings of a text are the literals of all its fetching
calls, each once, in order of first use. -/
theorem scan_eq_plain_scan (functions : List Text) (t : Text) :
    scan functions t = (plainCalls (isFetchCall functions) (.start t)).eraseDups ∧
    ∃ fetches : List (Nat × Text),
      fetches.Pairwise (fun a b => a.1 < b.1) ∧
      (∀ offset name, (offset, name) ∈ fetches ↔ FetchesAt functions t offset name) ∧
      Scope.KeepsFirst (fetches.map Prod.snd) (scan functions t) := by
  obtain ⟨places, ordered, mem_iff, values⟩ :=
    exists_plainCalls (isFetchCall functions) (.start t)
  have inside : ∀ place ∈ places, place.1 ≤ t.length := by
    rintro ⟨left, name⟩ member
    obtain ⟨ahead, behind, reaches, rfl, -⟩ := (mem_iff left name).1 member
    exact reaches.length_le
  refine ⟨scan_eq_plainCalls functions t, places.map fun place => (t.length - place.1, place.2), ?_,
    fun offset name => ?_, ?_⟩
  · refine List.pairwise_map.2 (ordered.imp_of_mem fun {a b} first _ less => ?_)
    exact Nat.sub_lt_sub_left (Nat.lt_of_lt_of_le less (inside a first)) less
  · rw [fetchesAt_iff]
    constructor
    · intro member
      obtain ⟨⟨left, name'⟩, place, same⟩ := List.mem_map.1 member
      obtain ⟨rfl, rfl⟩ := Prod.mk.inj same
      obtain ⟨ahead, behind, reaches, rfl, found⟩ := (mem_iff left name').1 place
      exact ⟨ahead, behind, reaches, found, rfl⟩
    · rintro ⟨ahead, behind, reaches, found, rfl⟩
      exact List.mem_map.2
        ⟨(ahead.length, name), (mem_iff _ _).2 ⟨ahead, behind, reaches, rfl, found⟩, rfl⟩
  · have names : (places.map fun place => (t.length - place.1, place.2)).map Prod.snd =
        plainCalls (isFetchCall functions) (.start t) := by
      rw [← values, List.map_map]
      rfl
    rw [names, scan_eq_plainCalls]
    exact Scope.keepsFirst_eraseDups _

end DocblockSync.Settings
