import DocblockSync.Docblock.Layout
import DocblockSync.Proofs.Affixes

/-! Where the closing delimiter occurs. A text has one when one of its parts has, or when a star ends
one part and a slash starts the next. A laid out line has none, because a blank is put into every
closing delimiter of its text, so that a docblock closes once, at its very end. -/

namespace DocblockSync.Text

@[simp]
theorem startsWith_nil (t : Text) : startsWith [] t = true := by
  cases t <;> rfl

@[simp]
theorem startsWith_cons_nil (c : Char) (head : Text) : startsWith (c :: head) [] = false := rfl

@[simp]
theorem startsWith_cons_cons (c d : Char) (head t : Text) :
    startsWith (c :: head) (d :: t) = (c == d && startsWith head t) := rfl

end DocblockSync.Text

namespace DocblockSync.Docblock

open Text

theorem contains_closer_cons (c : Char) (t : Text) :
    contains closer (c :: t) = ((c == '*' && startsWith ['/'] t) || contains closer t) := by
  rw [contains, closer, startsWith_cons_cons, Bool.beq_comm]

theorem contains_closer_append (s t : Text) :
    contains closer (s ++ t) =
      (contains closer s || contains closer t || (endsWith ['*'] s && startsWith ['/'] t)) := by
  induction s with
  | nil => simp [contains, closer, endsWith]
  | cons c s ih =>
      cases s with
      | nil =>
          have ends : endsWith ['*'] [c] = (c == '*') := by
            rw [Bool.eq_iff_iff, endsWith_iff, beq_iff_eq]
            constructor
            · rintro ⟨front, same⟩
              simpa using congrArg List.getLast? same
            · rintro rfl
              exact ⟨[], rfl⟩
          rw [List.singleton_append, contains_closer_cons, contains_closer_cons, ends]
          simp [contains, closer, Bool.or_comm]
      | cons d s =>
          have ends : endsWith ['*'] (c :: d :: s) = endsWith ['*'] (d :: s) := by
            rw [Bool.eq_iff_iff, endsWith, endsWith, List.isSuffixOf_iff_suffix,
              List.isSuffixOf_iff_suffix, List.suffix_cons_iff]
            simp
          rw [List.cons_append, contains_closer_cons, contains_closer_cons, ih, ends]
          simp only [List.cons_append, startsWith_cons_cons, startsWith_nil, Bool.or_assoc]

theorem not_contains_closer_iff {t : Text} :
    contains closer t = false ↔ ∀ front rest, t ≠ front ++ (closer ++ rest) := by
  rw [← Bool.not_eq_true, contains_iff]
  simp only [not_exists, ne_eq]

theorem contains_closer_joinLines (lines : List Text) :
    contains closer (joinLines lines) = lines.any (contains closer) := by
  induction lines with
  | nil => rfl
  | cons line rest ih =>
      by_cases last : rest = []
      · subst last
        simp
      · rw [joinLines_cons _ last, contains_closer_append, contains_closer_cons, ih]
        simp

theorem startsWith_slash_defuse (t : Text) : startsWith ['/'] (defuse t) = startsWith ['/'] t := by
  fun_cases defuse t with
  | case1 => rfl
  | case2 rest => rfl
  | case3 c rest other => simp

theorem contains_closer_defuse (t : Text) : contains closer (defuse t) = false := by
  fun_induction defuse t with
  | case1 => rfl
  | case2 rest ih =>
      rw [contains_closer_cons, contains_closer_cons, contains_closer_cons, ih]
      simp
  | case3 c rest other ih =>
      rw [contains_closer_cons, startsWith_slash_defuse, ih, Bool.or_false]
      -- A star in front of a slash would have been the delimiter.
      by_contra found
      rw [Bool.not_eq_false, Bool.and_eq_true, beq_iff_eq] at found
      obtain ⟨rfl, slash⟩ := found
      obtain ⟨behind, rfl⟩ := startsWith_iff.1 slash
      exact other behind rfl rfl

theorem contains_closer_of_sanitize? {line kept : Text} (done : sanitize? line = some kept) :
    contains closer kept = false := by
  unfold sanitize? at done
  simp only at done
  split at done
  · cases done
  · rw [← Option.some.inj done]
    exact contains_closer_defuse line

theorem contains_closer_blanks {blanks : Text} (blank : ∀ c ∈ blanks, isBlank c = true) :
    contains closer blanks = false ∧ endsWith ['*'] blanks = false := by
  constructor
  · rw [not_contains_closer_iff]
    rintro front rest rfl
    exact absurd (blank '*' (by simp [closer])) (by decide)
  · by_contra found
    obtain ⟨front, rfl⟩ := endsWith_iff.1 (Bool.not_eq_false _ ▸ found)
    exact absurd (blank '*' (by simp)) (by decide)

theorem eq_of_eq_append_closer {body before after : Text}
    (first : contains closer (body ++ ['*']) = false)
    (split : body ++ closer = before ++ (closer ++ after)) : before = body ∧ after = [] := by
  rcases List.eq_nil_or_concat after with rfl | ⟨init, last, rfl⟩
  · rw [List.append_nil] at split
    exact ⟨(List.append_cancel_right split).symm, rfl⟩
  · exfalso
    have shorter : body ++ ['*'] = before ++ (closer ++ init) := by
      have same : (body ++ ['*']) ++ ['/'] = (before ++ (closer ++ init)) ++ [last] := by
        simpa [closer] using split
      exact (List.append_inj' same rfl).1
    exact not_contains_closer_iff.1 first before init shorter

theorem contains_closer_open (docblock : Docblock) {site : Site}
    (blank : ∀ c ∈ site.padding, isBlank c = true) :
    contains closer (joinLines ((site.padding ++ opener) ::
      (bodyLines docblock site).filterMap sanitize? ++ [blankLine site.padding])) = false := by
  obtain ⟨unclosed, ends⟩ := contains_closer_blanks blank
  rw [contains_closer_joinLines, List.any_eq_false]
  intro line member
  rw [Bool.not_eq_true]
  rcases List.mem_append.1 member with member | member
  · rcases List.mem_cons.1 member with rfl | member
    · rw [contains_closer_append, unclosed, ends]
      rfl
    · obtain ⟨laid, -, kept⟩ := List.mem_filterMap.1 member
      exact contains_closer_of_sanitize? kept
  · rw [List.mem_singleton.1 member, blankLine, contains_closer_append, unclosed, ends]
    rfl

/-- Whatever the fields of a docblock hold, its text has one closing delimiter, and that ends it. -/
theorem render_closes_once (docblock : Docblock) (site : Site)
    (blank : ∀ c ∈ site.padding, isBlank c = true) :
    ∃ body, joinLines (docblock.render site) = body ++ closer ∧
      ∀ before after, joinLines (docblock.render site) = before ++ (closer ++ after) →
        before = body ∧ after = [] := by
  obtain ⟨front, -, same⟩ := exists_joinLines_concat
    ((site.padding ++ opener) :: (bodyLines docblock site).filterMap sanitize?)
  have first := contains_closer_open docblock blank
  rw [same] at first
  have whole : joinLines (docblock.render site) = front ++ (site.padding ++ [' ']) ++ closer := by
    rw [render, same]
    simp [closer]
  have star : front ++ (site.padding ++ [' ']) ++ ['*'] = front ++ blankLine site.padding := by
    simp [blankLine]
  rw [whole]
  refine ⟨_, rfl, fun before after split => ?_⟩
  exact eq_of_eq_append_closer (by rwa [star]) split

theorem render_closes_once_embedded :
    (∀ c ∈ "\t ".toList, isBlank c = true) ∧
      ∃ body, joinLines (({ summary := ["a */ b".toList, "**//".toList, "*/".toList] } :
          Docblock).render ⟨.classType, "*/".toList, "\t ".toList⟩) = body ++ closer ∧
        contains closer body = false := by
  refine ⟨List.all_eq_true.1 (by decide), ?_⟩
  obtain ⟨body, ended, only⟩ := render_closes_once
    { summary := ["a */ b".toList, "**//".toList, "*/".toList] }
    ⟨.classType, "*/".toList, "\t ".toList⟩ (List.all_eq_true.1 (by decide))
  refine ⟨body, ended, not_contains_closer_iff.2 fun before after split => ?_⟩
  have := (only before (after ++ closer) (by rw [ended, split]; simp)).2
  simp [closer] at this

end DocblockSync.Docblock
