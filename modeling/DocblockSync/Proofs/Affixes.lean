import DocblockSync.Text.Blank
import Mathlib.Data.List.Basic
import Mathlib.Data.List.TakeWhile

/-! What a text starts and ends with and what it contains, said by equations between texts, how
trimming cuts a text at its blanks, and how segments and lines join to a text. -/

namespace DocblockSync.Text

theorem before?_eq_some_iff {tail t front : Text} :
    before? tail t = some front ↔ t = front ++ tail := by
  rw [before?, List.isSuffixOf?_eq_some_iff_append_eq, eq_comm]

theorem startsWith_iff {head t : Text} : startsWith head t = true ↔ ∃ rest, t = head ++ rest := by
  rw [startsWith, List.isPrefixOf_iff_prefix]
  constructor <;> rintro ⟨rest, same⟩ <;> exact ⟨rest, same.symm⟩

theorem endsWith_iff {tail t : Text} : endsWith tail t = true ↔ ∃ front, t = front ++ tail := by
  rw [endsWith, List.isSuffixOf_iff_suffix]
  constructor <;> rintro ⟨front, same⟩ <;> exact ⟨front, same.symm⟩

theorem contains_iff {needle t : Text} :
    contains needle t = true ↔ ∃ front rest, t = front ++ (needle ++ rest) := by
  induction t with
  | nil => simp [contains]
  | cons c t ih =>
      rw [contains, Bool.or_eq_true, startsWith_iff, ih]
      constructor
      · rintro (⟨rest, here⟩ | ⟨front, rest, rfl⟩)
        · exact ⟨[], rest, here⟩
        · exact ⟨c :: front, rest, rfl⟩
      · rintro ⟨_ | ⟨d, front⟩, rest, same⟩
        · exact .inl ⟨rest, same⟩
        · exact .inr ⟨front, rest, (List.cons.inj same).2⟩

@[simp]
theorem dropHead_append (head rest : Text) : dropHead head (head ++ rest) = rest := by
  rw [dropHead, after?_append, Option.getD_some]

theorem exists_blanks_trimEnd (t : Text) :
    ∃ blanks, t = trimEnd t ++ blanks ∧ ∀ c ∈ blanks, isBlank c = true := by
  refine ⟨(t.reverse.takeWhile isBlank).reverse, ?_, ?_⟩
  · rw [trimEnd, ← List.reverse_append, List.takeWhile_append_dropWhile, List.reverse_reverse]
  · intro c member
    exact List.mem_takeWhile_imp (List.mem_reverse.1 member)

theorem trimStart_append_of_blank {blanks : Text} (blank : ∀ c ∈ blanks, isBlank c = true)
    (t : Text) :
    trimStart (blanks ++ t) = trimStart t := by
  rw [trimStart, List.dropWhile_append_of_pos blank, trimStart]

theorem trimEnd_append_of_blank {blanks : Text} (blank : ∀ c ∈ blanks, isBlank c = true)
    (t : Text) :
    trimEnd (t ++ blanks) = trimEnd t := by
  rw [trimEnd, List.reverse_append, List.dropWhile_append_of_pos (by simpa using blank), trimEnd]

theorem trimEnd_concat_of_not_blank {c : Char} (solid : isBlank c = false) (t : Text) :
    trimEnd (t ++ [c]) = t ++ [c] := by
  rw [trimEnd, List.reverse_append, List.reverse_singleton, List.singleton_append,
    List.dropWhile_cons_of_neg (by simp [solid]), List.reverse_cons, List.reverse_reverse]

theorem trimStart_append {front : Text} (solid : trimStart front ≠ []) (rest : Text) :
    trimStart (front ++ rest) = trimStart front ++ rest := by
  rw [trimStart, List.dropWhile_append, if_neg]
  · rfl
  · simpa [trimStart] using solid

theorem trimEnd_append {rest : Text} (solid : trimEnd rest ≠ []) (front : Text) :
    trimEnd (front ++ rest) = front ++ trimEnd rest := by
  have solid' : ¬(rest.reverse.dropWhile isBlank).isEmpty = true := by simpa [trimEnd] using solid
  rw [trimEnd, List.reverse_append, List.dropWhile_append, if_neg solid', List.reverse_append,
    List.reverse_reverse, trimEnd]

theorem trimEnd_append_cons_of_not_blank {c : Char} (solid : isBlank c = false)
    (front rest : Text) :
    trimEnd (front ++ c :: rest) = front ++ c :: trimEnd rest := by
  by_cases blank : trimEnd rest = []
  · obtain ⟨blanks, split, all⟩ := exists_blanks_trimEnd rest
    rw [blank, List.nil_append] at split
    rw [blank, split, ← List.singleton_append, ← List.append_assoc, trimEnd_append_of_blank all,
      trimEnd_concat_of_not_blank solid]
  · rw [← List.singleton_append, ← List.append_assoc, trimEnd_append blank, List.append_assoc,
      List.singleton_append]

theorem exists_trimStart_eq (t : Text) : ∃ blanks, trimStart t = trim t ++ blanks := by
  obtain ⟨blanks, split, -⟩ := exists_blanks_trimEnd (trimStart t)
  exact ⟨blanks, split⟩

theorem trimEnd_eq {t : Text} (solid : trim t ≠ []) : trimEnd t = indentation t ++ trim t := by
  conv => lhs; rw [← indentation_append_trimStart t, trimEnd_append solid]
  rfl

theorem not_mem_of_mem_splitOn {separator : Char} {t segment : Text}
    (member : segment ∈ t.splitOn separator) : separator ∉ segment := by
  induction t generalizing segment with
  | nil =>
      rw [List.splitOn_nil, List.mem_singleton] at member
      simp [member]
  | cons c t ih =>
      rw [List.splitOn_cons_eq_if_modifyHead] at member
      split at member
      · rcases List.mem_cons.1 member with rfl | member
        · exact List.not_mem_nil
        · exact ih member
      · next other =>
          obtain ⟨first, rest, split⟩ :=
            List.exists_cons_of_ne_nil (List.splitOn_ne_nil separator t)
          rw [split, List.modifyHead_cons] at member
          rcases List.mem_cons.1 member with rfl | member
          · have free := ih (split ▸ List.mem_cons_self)
            rw [List.mem_cons, not_or]
            exact ⟨fun same => other (beq_iff_eq.2 same.symm), free⟩
          · exact ih (split ▸ List.mem_cons_of_mem _ member)

theorem joinLines_cons (line : Text) {rest : List Text} (some : rest ≠ []) :
    joinLines (line :: rest) = line ++ '\n' :: joinLines rest := by
  rw [joinLines, joinWith, List.intercalate_cons_of_ne_nil some, List.append_assoc]
  rfl

@[simp]
theorem joinLines_singleton (line : Text) : joinLines [line] = line := by
  simp [joinLines, joinWith]

/-- A text is closed when a line feed ends it or nothing is in it. -/
def IsClosed (t : Text) : Prop := t = [] ∨ ∃ front, t = front ++ ['\n']

theorem exists_joinLines_concat (upper : List Text) :
    ∃ front, IsClosed front ∧ ∀ last, joinLines (upper ++ [last]) = front ++ last := by
  induction upper with
  | nil => exact ⟨[], .inl rfl, fun last => joinLines_singleton last⟩
  | cons line upper ih =>
      obtain ⟨front, closed, same⟩ := ih
      refine ⟨line ++ '\n' :: front, ?_, fun last => ?_⟩
      · rcases closed with rfl | ⟨front, rfl⟩
        · exact .inr ⟨line, rfl⟩
        · exact .inr ⟨line ++ '\n' :: front, by simp⟩
      · rw [List.cons_append, joinLines_cons _ (by simp), same, List.append_assoc, List.cons_append]

theorem trimEnd_joinLines {last : Text} (solid : trimEnd last ≠ []) (upper : List Text) :
    trimEnd (joinLines (upper ++ [last])) = joinLines (upper ++ [trimEnd last]) := by
  obtain ⟨front, -, same⟩ := exists_joinLines_concat upper
  rw [same, same, trimEnd_append solid]

end DocblockSync.Text
