import DocblockSync.Proofs.LineEdits

/-! The lines of an edited source, as planning counts them. Line endings do not matter to lines,
so an edit of whole lines leaves the lines before and behind it and puts the lines of its own text
between them. -/

namespace DocblockSync.Text

open Document

theorem cutReturn_concat (t : Text) : cutReturn (t ++ ['\r']) = (t, ['\r']) := by
  rw [cutReturn, before?_eq_some_iff.2 rfl]

theorem cutReturn_of_not_concat {t : Text} (open_end : ∀ front, t ≠ front ++ ['\r']) :
    cutReturn t = (t, []) := by
  unfold cutReturn
  split
  · next front found => exact absurd (before?_eq_some_iff.1 found) (open_end front)
  · rfl

theorem cutReturn_cons {c : Char} {t : Text} (longer : c = '\r' → t ≠ []) :
    (cutReturn (c :: t)).1 = c :: (cutReturn t).1 := by
  by_cases closed : ∃ front, t = front ++ ['\r']
  · obtain ⟨front, rfl⟩ := closed
    rw [← List.cons_append, cutReturn_concat, cutReturn_concat]
  · rw [cutReturn_of_not_concat fun front same => closed ⟨front, same⟩, cutReturn_of_not_concat]
    intro front same
    cases front with
    | nil =>
        rw [List.nil_append, List.cons.injEq] at same
        exact longer same.1 same.2
    | cons d front =>
        rw [List.cons_append, List.cons.injEq] at same
        exact closed ⟨front, same.2⟩

theorem toCrlf_append_newline {segment : Text} (single : '\n' ∉ segment) (rest : Text) :
    toCrlf (segment ++ '\n' :: rest) = (cutReturn segment).1 ++ '\r' :: '\n' :: toCrlf rest := by
  induction segment with
  | nil => rfl
  | cons c segment ih =>
      rw [List.mem_cons, not_or] at single
      by_cases bare : c = '\r' ∧ segment = []
      · obtain ⟨rfl, rfl⟩ := bare
        rfl
      · rw [cutReturn_cons fun back empty => bare ⟨back, empty⟩, List.cons_append, List.cons_append,
          ← ih single.2, toCrlf]
        · rintro tail rfl split
          cases segment with
          | nil => exact bare ⟨rfl, rfl⟩
          | cons d segment =>
              rw [List.cons_append, List.cons.injEq] at split
              exact single.2 (split.1 ▸ List.mem_cons_self)
        · exact fun feed => single.1 feed.symm

theorem toCrlf_of_not_mem {t : Text} (single : '\n' ∉ t) : toCrlf t = t := by
  induction t with
  | nil => rfl
  | cons c t ih =>
      rw [List.mem_cons, not_or] at single
      rw [toCrlf, ih single.2]
      · rintro tail rfl rfl
        exact single.2 List.mem_cons_self
      · exact fun feed => single.1 feed.symm

theorem lines_toCrlf_joinLines {segments : List Text}
    (single : ∀ segment ∈ segments, '\n' ∉ segment) :
    lines (toCrlf (joinLines segments)) = lines (joinLines segments) := by
  induction segments with
  | nil => rfl
  | cons segment rest ih =>
      obtain ⟨here, below⟩ := List.forall_mem_cons.1 single
      by_cases last : rest = []
      · subst last
        rw [joinLines_singleton, toCrlf_of_not_mem here]
      · have cut : '\n' ∉ (cutReturn segment).1 ++ ['\r'] := by
          have whole := cutReturn_append segment
          rw [List.mem_append, not_or]
          refine ⟨fun member => here (whole ▸ List.mem_append_left _ member), by decide⟩
        rw [joinLines_cons _ last, toCrlf_append_newline here, List.append_cons,
          lines_append_newline, lines_append_newline, List.splitOn_eq_singleton cut,
          List.splitOn_eq_singleton here, ih below, List.map_singleton, List.map_singleton,
          cutReturn_concat]

theorem lines_normalize (ending : LineEnding) (t : Text) :
    lines (ending.normalize t) = lines t := by
  cases ending with
  | lf => rfl
  | crlf =>
      have pieces : joinLines (t.splitOn '\n') = t := List.intercalate_splitOn '\n'
      have same := @lines_toCrlf_joinLines (t.splitOn '\n')
        fun segment member => not_mem_of_mem_splitOn member
      rwa [pieces] at same

theorem exists_splitOn_append (front : Text) :
    ∃ segments last, ∀ tail, '\n' ∉ tail →
      (front ++ tail).splitOn '\n' = segments ++ [last ++ tail] := by
  induction front with
  | nil => exact ⟨[], [], fun tail single => List.splitOn_eq_singleton single⟩
  | cons c front ih =>
      obtain ⟨segments, last, split⟩ := ih
      by_cases feed : c = '\n'
      · subst feed
        refine ⟨[] :: segments, last, fun tail single => ?_⟩
        rw [List.cons_append, List.splitOn_cons_eq_if_modifyHead, if_pos (by simp),
          split tail single]
        rfl
      · have differs : ¬(c == '\n') = true := by simpa using feed
        cases segments with
        | nil =>
            refine ⟨[], c :: last, fun tail single => ?_⟩
            rw [List.cons_append, List.splitOn_cons_eq_if_modifyHead, if_neg differs,
              split tail single]
            rfl
        | cons segment segments =>
            refine ⟨(c :: segment) :: segments, last, fun tail single => ?_⟩
            rw [List.cons_append, List.splitOn_cons_eq_if_modifyHead, if_neg differs,
              split tail single]
            rfl

theorem lines_append_terminator {c : Char} (solid : c ≠ '\n' ∧ c ≠ '\r') (front : Text)
    {returns : Text} (ended : returns = [] ∨ returns = ['\r']) :
    lines (front ++ [c] ++ (returns ++ ['\n'])) = lines (front ++ [c]) := by
  obtain ⟨segments, last, split⟩ := exists_splitOn_append front
  have whole : lines (front ++ [c]) =
      segments.map (fun segment => (cutReturn segment).1) ++ [last ++ [c]] := by
    rw [lines, split [c] (by simp [Ne.symm solid.1]), linesOfSegments_append _ (by simp),
      linesOfSegments, if_neg (by simp)]
  have alone : (cutReturn (last ++ [c])).1 = last ++ [c] := by
    rw [cutReturn_of_not_concat]
    intro front same
    exact solid.2 (List.append_inj_right' same rfl |> List.singleton_inj.1)
  rw [whole, ← List.append_assoc, lines_append_newline]
  rcases ended with rfl | rfl
  · rw [List.append_nil, split [c] (by simp [Ne.symm solid.1]), List.map_append, List.map_singleton,
      alone, show lines [] = [] from rfl, List.append_nil]
  · rw [List.append_assoc, split ([c] ++ ['\r']) (by simp [Ne.symm solid.1]), List.map_append,
      List.map_singleton, ← List.append_assoc, cutReturn_concat, show lines [] = [] from rfl,
      List.append_nil]

end DocblockSync.Text

namespace DocblockSync.Document

open Text

theorem length_lines_flatten {full : List Text} (each : ∀ line ∈ full, IsFullLine line) :
    (lines full.flatten).length = full.length := by
  induction full with
  | nil => rfl
  | cons line full ih =>
      obtain ⟨segment, rfl, single⟩ := each line List.mem_cons_self
      have size := ih fun line member => each line (List.mem_cons_of_mem _ member)
      rw [List.flatten_cons, List.append_assoc, List.singleton_append, lines_append_newline,
        List.splitOn_eq_singleton single, List.length_append, size]
      simp [Nat.add_comm]

theorem IsFullLine.isClosed {line : Text} (full : IsFullLine line) : IsClosed line := by
  obtain ⟨segment, rfl, -⟩ := full
  exact .inr ⟨segment, rfl⟩

theorem lines_cut {source : Text} {place : Nat}
    (inside : place < (LineIndex.ofSource source).lineCount) :
    lines ((physicalLines source).take place).flatten = (lines source).take place ∧
      lines ((physicalLines source).drop place).flatten = (lines source).drop place ∧
      IsClosed ((physicalLines source).take place).flatten := by
  have full : ∀ line ∈ (physicalLines source).take place, IsFullLine line :=
    fun line member => isFullLine_of_mem_take (by rwa [length_physicalLines]) member
  have closed := isClosed_flatten fun line member => (full line member).isClosed
  have size := length_lines_flatten full
  rw [List.length_take, length_physicalLines, Nat.min_eq_left (Nat.le_of_lt inside)] at size
  have cut := lines_append_of_isClosed closed ((physicalLines source).drop place).flatten
  rw [take_flatten_append] at cut
  refine ⟨?_, ?_, closed⟩
  · rw [cut, List.take_left' size]
  · rw [cut, List.drop_left' size]

theorem exists_applyEdits_above {source : Text} {line : Nat} (front message : Text)
    (inside : line < (LineIndex.ofSource source).lineCount) :
    ∃ result, applyEdits source [⟨.insert line 0, front ++ ['\n'], message⟩] = .ok result ∧
      lines result =
        (lines source).take line ++ (lines (front ++ ['\n']) ++ (lines source).drop line) := by
  refine ⟨_, applyEdits_singleton (.above inside ⟨front, rfl⟩), ?_⟩
  obtain ⟨upper, lower, closed⟩ := lines_cut inside
  obtain ⟨front', same⟩ := exists_normalize_concat (LineEnding.ofSource source) front '\n'
  have placed := splice_above (LineEnding.ofSource source) (front ++ ['\n']) message []
    (Nat.zero_le line) inside
  rw [offset_zero, Nat.sub_zero, List.drop_zero, splice, dropBytes_offset] at placed
  rw [placed, lines_append_of_isClosed closed, upper,
    lines_append_of_isClosed (.inr ⟨front', same⟩), lines_normalize, lower]

/-- Text put in place of lines takes their place among the lines, when another line follows. -/
theorem exists_applyEdits_instead {source : Text} {first last : Nat} {c : Char}
    (front message : Text)
    (solid : c ≠ '\n' ∧ c ≠ '\r') (upright : first ≤ last)
    (inside : last + 1 < (LineIndex.ofSource source).lineCount) :
    ∃ result, applyEdits source [⟨.replace first last, front ++ [c], message⟩] = .ok result ∧
      lines result =
        (lines source).take first ++ (lines (front ++ [c]) ++ (lines source).drop (last + 1)) := by
  have inside' : last < (LineIndex.ofSource source).lineCount := Nat.lt_of_succ_lt inside
  refine ⟨_, applyEdits_singleton (.instead upright inside'), ?_⟩
  obtain ⟨upper, -, closed⟩ := lines_cut (Nat.lt_of_le_of_lt upright inside')
  obtain ⟨-, lower, -⟩ := lines_cut inside
  obtain ⟨line, found⟩ := exists_line inside'
  obtain ⟨returns, terminator, ended⟩ := exists_terminator_linesFrom found inside
  obtain ⟨front', same⟩ := exists_normalize_concat (LineEnding.ofSource source) front c
  have written : lines ((LineEnding.ofSource source).normalize (front ++ [c]) ++
      (returns ++ ['\n'])) =
      lines (front ++ [c]) := by
    rw [same, lines_append_terminator solid front' ended, ← same, lines_normalize]
  have placed := splice_instead (LineEnding.ofSource source) (front ++ [c]) message []
    (Nat.zero_le first) upright found (by simp)
  rw [offset_zero, Nat.sub_zero, List.drop_zero, splice, dropBytes_offset, terminator,
    ← List.append_assoc ((LineEnding.ofSource source).normalize (front ++ [c]))] at placed
  rw [placed, lines_append_of_isClosed closed, upper,
    lines_append_of_isClosed (.inr ⟨_, (List.append_assoc _ _ _).symm⟩), written, lower]

end DocblockSync.Document
