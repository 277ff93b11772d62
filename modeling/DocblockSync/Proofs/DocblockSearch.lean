import DocblockSync.Plan
import DocblockSync.Proofs.Affixes

/-! The search for the docblock above a line, said without a scan: the lines above are some lines,
the lines of a docblock and blank lines, and a docblock is recognised by how its lines start and
end. -/

namespace DocblockSync

open Text Docblock

/-- How the lines of a docblock look to the search: one line with both delimiters, or an opening
line, lines with a marker, and a closing line that does not open a comment of its own. -/
inductive LooksLikeDocblock : List Text → Prop
  | single {line : Text} (opens : startsWith opener (trim line) = true)
      (closes : endsWith closer (trim line) = true) : LooksLikeDocblock [line]
  | several {opening closing : Text} {middle : List Text}
      (opens : startsWith opener (trim opening) = true)
      (marked : ∀ line ∈ middle, startsWith ['*'] (trim line) = true)
      (closes : endsWith closer (trim closing) = true)
      (plain : startsWith ['/', '*'] (trim closing) = false) :
      LooksLikeDocblock (opening :: (middle ++ [closing]))

theorem LooksLikeDocblock.ne_nil {body : List Text} (looks : LooksLikeDocblock body) :
    body ≠ [] := by
  cases looks <;> simp

theorem not_startsWith_opener_of_marked {t : Text} (marked : startsWith ['*'] t = true) :
    startsWith opener t = false := by
  obtain ⟨rest, rfl⟩ := startsWith_iff.1 marked
  rfl

theorem not_startsWith_opener_of_plain {t : Text} (plain : startsWith ['/', '*'] t = false) :
    startsWith opener t = false := by
  by_contra opens
  obtain ⟨rest, rfl⟩ := startsWith_iff.1 (Bool.not_eq_false _ ▸ opens)
  exact absurd plain (by simp [opener, startsWith])

theorem openingLine?_eq_some_iff {above : List Text} {first : Nat} :
    openingLine? above = some first ↔
      ∃ middle opening before, above = middle ++ opening :: before ∧ before.length = first ∧
        startsWith opener (trim opening) = true ∧
        ∀ line ∈ middle, startsWith ['*'] (trim line) = true := by
  induction above with
  | nil => simp [openingLine?]
  | cons line above ih =>
      rw [openingLine?]
      by_cases opens : startsWith opener (trim line) = true
      · rw [if_pos opens, Option.some.injEq]
        constructor
        · intro here
          exact ⟨[], line, above, rfl, here, opens, by simp⟩
        · rintro ⟨middle, opening, before, split, rfl, -, marked⟩
          cases middle with
          | nil => simp_all
          | cons marker middle =>
              rw [List.cons_append, List.cons.injEq] at split
              have unmarked := not_startsWith_opener_of_marked (marked marker List.mem_cons_self)
              rw [← split.1, opens] at unmarked
              cases unmarked
      · rw [if_neg opens]
        by_cases marker : startsWith ['*'] (trim line) = true
        · rw [if_pos marker, ih]
          constructor
          · rintro ⟨middle, opening, before, rfl, size, opened, marked⟩
            exact ⟨line :: middle, opening, before, rfl, size, opened,
              List.forall_mem_cons.2 ⟨marker, marked⟩⟩
          · rintro ⟨middle, opening, before, split, size, opened, marked⟩
            cases middle with
            | nil =>
                rw [List.nil_append, List.cons.injEq] at split
                exact absurd (split.1 ▸ opened) opens
            | cons other middle =>
                rw [List.cons_append, List.cons.injEq] at split
                exact ⟨middle, opening, before, split.2, size, opened,
                  (List.forall_mem_cons.1 marked).2⟩
        · rw [if_neg marker]
          constructor
          · intro none
            cases none
          · rintro ⟨middle, opening, before, split, -, opened, marked⟩
            cases middle with
            | nil =>
                rw [List.nil_append, List.cons.injEq] at split
                exact absurd (split.1 ▸ opened) opens
            | cons other middle =>
                rw [List.cons_append, List.cons.injEq] at split
                exact absurd (split.1 ▸ marked other List.mem_cons_self) marker

theorem reverse_dropWhile_eq_cons_iff {p : Text → Bool} {lines above : List Text} {line : Text} :
    lines.reverse.dropWhile p = line :: above ↔
      p line = false ∧ ∃ passed, lines = above.reverse ++ line :: passed ∧
        ∀ other ∈ passed, p other = true := by
  constructor
  · intro found
    refine ⟨?_, (lines.reverse.takeWhile p).reverse, ?_, ?_⟩
    · have stopped := List.head?_dropWhile_not p lines.reverse
      rw [found, List.head?_cons] at stopped
      simpa using stopped
    · have whole := List.takeWhile_append_dropWhile (p := p) (l := lines.reverse)
      rw [found] at whole
      have turned := congrArg List.reverse whole
      simp only [List.reverse_append, List.reverse_cons, List.reverse_reverse, List.append_assoc,
        List.singleton_append] at turned
      exact turned.symm
    · intro other member
      exact List.mem_takeWhile_imp (List.mem_reverse.1 member)
  · rintro ⟨stops, passed, rfl, blank⟩
    rw [List.reverse_append, List.reverse_cons, List.reverse_reverse, List.append_assoc,
      List.dropWhile_append_of_pos (by simpa using blank), List.singleton_append,
      List.dropWhile_cons_of_neg (by simp [stops])]

theorem not_blank_of_closes {line : Text} (closes : endsWith closer (trim line) = true) :
    (trim line).isEmpty = false := by
  obtain ⟨front, split⟩ := endsWith_iff.1 closes
  rw [split]
  simp [closer]

/-- A docblock is found exactly where the lines above are lines, a docblock and blank lines. -/
theorem existingDocblock?_eq_some_iff {lines : List Text} {startLine : Nat} {range : LineRange} :
    existingDocblock? lines startLine = some range ↔
      ∃ before body blanks, lines.take startLine = before ++ (body ++ blanks) ∧
        LooksLikeDocblock body ∧ (∀ line ∈ blanks, (trim line).isEmpty = true) ∧
        range = ⟨before.length, before.length + body.length - 1⟩ := by
  unfold existingDocblock?
  constructor
  · intro found
    split at found
    · cases found
    · next line above near =>
        obtain ⟨-, blanks, split, blank⟩ := reverse_dropWhile_eq_cons_iff.1 near
        by_cases closes : endsWith closer (trim line) = true
        · simp only [closes, Bool.not_true, Bool.false_eq_true, if_false] at found
          by_cases opens : startsWith opener (trim line) = true
          · rw [if_pos opens, Option.some.injEq] at found
            exact ⟨above.reverse, [line], blanks, split, .single opens closes, blank,
              by simp [← found]⟩
          · rw [if_neg opens] at found
            by_cases plain : startsWith ['/', '*'] (trim line) = true
            · rw [if_pos plain] at found
              cases found
            · rw [if_neg plain] at found
              obtain ⟨first, search, rfl⟩ := Option.map_eq_some_iff.1 found
              obtain ⟨middle, opening, before, rfl, rfl, opened, marked⟩ :=
                openingLine?_eq_some_iff.1 search
              have looks : LooksLikeDocblock (opening :: (middle.reverse ++ [line])) :=
                .several opened (by simpa using marked) closes (by simpa using plain)
              refine ⟨before.reverse, _, blanks, ?_, looks, blank, ?_⟩
              · rw [split]
                simp
              · simp
                omega
        · simp [closes] at found
  · rintro ⟨before, body, blanks, split, looks, blank, rfl⟩
    cases looks with
    | @single line opens closes =>
        have near : (lines.take startLine).reverse.dropWhile (fun line => (trim line).isEmpty) =
            line :: before.reverse :=
          reverse_dropWhile_eq_cons_iff.2
            ⟨not_blank_of_closes closes, blanks, by simpa using split, blank⟩
        simp [near, opens, closes]
    | @several opening closing middle opens marked closes plain =>
        have near : (lines.take startLine).reverse.dropWhile (fun line => (trim line).isEmpty) =
            closing :: (middle.reverse ++ opening :: before.reverse) :=
          reverse_dropWhile_eq_cons_iff.2
            ⟨not_blank_of_closes closes, blanks, by simpa using split, blank⟩
        have search : openingLine? (middle.reverse ++ opening :: before.reverse) =
            some before.length :=
          openingLine?_eq_some_iff.2 ⟨middle.reverse, opening, before.reverse, rfl, by simp, opens,
            by simpa using marked⟩
        have unopened := not_startsWith_opener_of_plain plain
        simp [near, closes, plain, unopened, search]
        omega

theorem slice_of_take_eq {lines before body blanks : List Text} {startLine : Nat}
    (split : lines.take startLine = before ++ (body ++ blanks)) (some : body ≠ []) :
    LineRange.slice ⟨before.length, before.length + body.length - 1⟩ lines = body := by
  have size := List.length_pos_iff.2 some
  have count : before.length + body.length - 1 + 1 - before.length = body.length := by omega
  conv => lhs; rw [← List.take_append_drop startLine lines, split]
  rw [LineRange.slice, List.append_assoc, List.drop_left, List.append_assoc]
  simp only [count, List.take_left]

/-- What a search that succeeds says about the lines. -/
structure FoundAbove (lines : List Text) (startLine : Nat) (range : LineRange) : Prop where
  looks : LooksLikeDocblock (range.slice lines)
  upright : range.first ≤ range.last
  above : range.last < startLine
  exists_last : range.last < lines.length

theorem foundAbove {lines : List Text} {startLine : Nat} {range : LineRange}
    (found : existingDocblock? lines startLine = some range) :
      FoundAbove lines startLine range := by
  obtain ⟨before, body, blanks, split, looks, blank, rfl⟩ := existingDocblock?_eq_some_iff.1 found
  have size := List.length_pos_iff.2 looks.ne_nil
  have total := congrArg List.length split
  rw [List.length_take, List.length_append, List.length_append] at total
  refine ⟨by rw [slice_of_take_eq split looks.ne_nil]; exact looks, ?_, ?_, ?_⟩
  · simp only
    omega
  · simp only
    omega
  · simp only
    omega

theorem existingDocblock?_of_between {lines : List Text} {startLine between : Nat}
    {range : LineRange}
    (found : existingDocblock? lines startLine = some range) (low : range.last < between)
    (high : between ≤ startLine) : existingDocblock? lines between = some range := by
  obtain ⟨before, body, blanks, split, looks, blank, rfl⟩ := existingDocblock?_eq_some_iff.1 found
  have size := List.length_pos_iff.2 looks.ne_nil
  simp only at low
  refine existingDocblock?_eq_some_iff.2
    ⟨before, body, blanks.take (between - before.length - body.length), ?_, looks, ?_, rfl⟩
  · have shorter : lines.take between = (lines.take startLine).take between := by
      rw [List.take_take, Nat.min_eq_left high]
    rw [shorter, split, List.take_append, List.take_of_length_le (by omega), List.take_append,
      List.take_of_length_le (by omega)]
  · intro line member
    exact blank line (List.mem_of_mem_take member)

theorem exists_blanks_below {lines : List Text} {startLine : Nat} {range : LineRange}
    (found : existingDocblock? lines startLine = some range) :
    ∃ blanks, lines.drop (range.last + 1) = blanks ++ lines.drop startLine ∧
      ∀ line ∈ blanks, (trim line).isEmpty = true := by
  obtain ⟨before, body, blanks, split, looks, blank, rfl⟩ := existingDocblock?_eq_some_iff.1 found
  have size := List.length_pos_iff.2 looks.ne_nil
  refine ⟨blanks, ?_, blank⟩
  conv => lhs; rw [← List.take_append_drop startLine lines, split]
  rw [← List.append_assoc, List.append_assoc]
  apply List.drop_left'
  rw [List.length_append]
  simp only
  omega

end DocblockSync
