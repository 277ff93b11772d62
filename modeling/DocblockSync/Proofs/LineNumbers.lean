import DocblockSync.Generate
import DocblockSync.Proofs.Octets
import DocblockSync.Proofs.WrittenLines

/-! How lines are numbered. One walk over the bytes of a source finds where its lines start: at the
beginning and behind every line feed. A line's number is the number of line feeds before it, and so
is the line of any byte offset, which a search among the starts finds. The lines that planning works
on have the same numbers and, but for a carriage return at the very end of the source, the same
texts. -/

namespace DocblockSync.Document

open Text

/-- Where lines start among bytes that stand at a given offset: behind every line feed. -/
def startsFrom (offset : Nat) : List Char → List Nat
  | [] => []
  | byte :: bytes =>
      if byte = '\n' then (offset + 1) :: startsFrom (offset + 1) bytes
      else startsFrom (offset + 1) bytes

def byteStarts (source : Text) : List Nat := 0 :: startsFrom 0 (octets source)

theorem startsFrom_append (offset : Nat) (front rest : List Char) :
    startsFrom offset (front ++ rest) =
      startsFrom offset front ++ startsFrom (offset + front.length) rest := by
  fun_induction startsFrom offset front with
  | case1 => rfl
  | case2 offset bytes ih =>
      rw [List.cons_append, startsFrom, if_pos rfl, ih, List.length_cons, List.cons_append,
        Nat.add_right_comm, Nat.add_assoc]
  | case3 offset byte bytes other ih =>
      rw [List.cons_append, startsFrom, if_neg other, ih, List.length_cons, Nat.add_right_comm,
        Nat.add_assoc]

theorem length_startsFrom (offset : Nat) (bytes : List Char) :
    (startsFrom offset bytes).length = bytes.count '\n' := by
  fun_induction startsFrom offset bytes with
  | case1 => rfl
  | case2 offset bytes ih => rw [List.length_cons, ih, List.count_cons_self]
  | case3 offset byte bytes other ih => rw [ih, List.count_cons_of_ne other]

theorem startsFrom_of_not_mem {bytes : List Char} (single : '\n' ∉ bytes) (offset : Nat) :
    startsFrom offset bytes = [] := by
  rw [← List.length_eq_zero_iff, length_startsFrom, List.count_eq_zero.2 single]

theorem lt_of_mem_startsFrom {offset start : Nat} {bytes : List Char}
    (member : start ∈ startsFrom offset bytes) : offset < start := by
  fun_induction startsFrom offset bytes with
  | case1 => cases member
  | case2 offset bytes ih =>
      rcases List.mem_cons.1 member with rfl | later
      · exact Nat.lt_succ_self offset
      · exact Nat.lt_of_succ_lt (ih later)
  | case3 offset byte bytes other ih => exact Nat.lt_of_succ_lt (ih member)

theorem pairwise_startsFrom (offset : Nat) (bytes : List Char) :
    (startsFrom offset bytes).Pairwise (· < ·) := by
  fun_induction startsFrom offset bytes with
  | case1 => exact List.Pairwise.nil
  | case2 offset bytes ih => exact List.Pairwise.cons (fun _ later => lt_of_mem_startsFrom later) ih
  | case3 offset byte bytes other ih => exact ih

theorem countP_startsFrom (offset count : Nat) (bytes : List Char) :
    (startsFrom offset bytes).countP (· ≤ offset + count) = (bytes.take count).count '\n' := by
  cases count with
  | zero =>
      rw [List.take_zero, List.count_nil, List.countP_eq_zero]
      intro start member
      simpa using lt_of_mem_startsFrom member
  | succ count =>
      cases bytes with
      | nil => rfl
      | cons byte bytes =>
          have rest := countP_startsFrom (offset + 1) count bytes
          rw [Nat.add_right_comm, Nat.add_assoc] at rest
          rw [startsFrom, List.take_succ_cons]
          split
          · next feed =>
              subst feed
              rw [List.countP_cons_of_pos (by simp), rest, List.count_cons_self]
          · next other => rw [rest, List.count_cons_of_ne other]

theorem pairwise_byteStarts (source : Text) : (byteStarts source).Pairwise (· < ·) :=
  List.Pairwise.cons (fun _ later => lt_of_mem_startsFrom later) (pairwise_startsFrom 0 _)

theorem map_start_linesFrom (start : Nat) {segments : List Text} (some : segments ≠ [])
    (single : ∀ segment ∈ segments, '\n' ∉ segment) :
    (linesFrom start segments).map Line.start =
      start :: startsFrom start (octets (['\n'].intercalate segments)) := by
  have alone {segment : Text} (member : segment ∈ segments) (offset : Nat) :
      startsFrom offset (octets segment) = [] :=
    startsFrom_of_not_mem (fun feed => single segment member ((mem_octets_iff rfl _).1 feed)) offset
  fun_induction linesFrom start segments with
  | case1 => exact absurd rfl some
  | case2 start last =>
      rw [List.intercalate_singleton, alone List.mem_cons_self]
      rfl
  | case3 start segment rest more ih =>
      have below := ih more (fun other member => single other (List.mem_cons_of_mem _ member))
        fun member => alone (List.mem_cons_of_mem _ member)
      have feed : octets ['\n'] = ['\n'] := by decide
      rw [List.map_cons, below, List.intercalate_cons_of_ne_nil more, octets_append, octets_append,
        feed, List.append_assoc, startsFrom_append, alone List.mem_cons_self, length_octets]
      rfl

theorem map_start_ofSource (source : Text) :
    (LineIndex.ofSource source).lines.map Line.start = byteStarts source := by
  have starts := map_start_linesFrom 0 (List.splitOn_ne_nil '\n' source)
    fun segment member => not_mem_of_mem_splitOn member
  rwa [List.intercalate_splitOn] at starts

theorem lineStart?_eq_getElem? (source : Text) (place : Nat) :
    (LineIndex.ofSource source).lineStart? place = (byteStarts source)[place]? := by
  rw [LineIndex.lineStart?, ← map_start_ofSource, List.getElem?_map]

theorem lineCount_eq (source : Text) :
    (LineIndex.ofSource source).lineCount = (octets source).count '\n' + 1 := by
  rw [LineIndex.lineCount, ← List.length_map Line.start, map_start_ofSource, byteStarts,
    List.length_cons, length_startsFrom]

theorem lineOf_add_one (source : Text) (offset : Nat) :
    (LineIndex.ofSource source).lineOf offset + 1 = (byteStarts source).countP (· ≤ offset) := by
  have counted : (byteStarts source).countP (· ≤ offset) =
      (LineIndex.ofSource source).lines.countP (fun line => line.start ≤ offset) := by
    rw [← map_start_ofSource, List.countP_map]
    rfl
  have first : 0 < (byteStarts source).countP (· ≤ offset) := by
    rw [byteStarts, List.countP_cons_of_pos (by simp)]
    omega
  rw [LineIndex.lineOf, ← counted]
  omega

theorem lineOf_eq_count (source : Text) (offset : Nat) :
    (LineIndex.ofSource source).lineOf offset = ((octets source).take offset).count '\n' := by
  have counted := lineOf_add_one source offset
  have behind := countP_startsFrom 0 offset (octets source)
  rw [Nat.zero_add] at behind
  rw [byteStarts, List.countP_cons_of_pos (by simp), behind] at counted
  omega

/-- What a search among ascending offsets answers: the place where the offset stands, or else the
place where it would have to be put in. -/
def IsSearchResult (starts : List Nat) (offset : Nat) : Except Nat Nat → Prop
  | .ok place => starts[place]? = some offset
  | .error place =>
      place ≤ starts.length ∧ (∀ start ∈ starts.take place, start < offset) ∧
        ∀ start ∈ starts.drop place, offset < start

theorem exists_isSearchResult {starts : List Nat} (ascending : starts.Pairwise (· < ·))
    (offset : Nat) : ∃ result, IsSearchResult starts offset result := by
  induction starts with
  | nil => exact ⟨.error 0, by simp [IsSearchResult]⟩
  | cons start starts ih =>
      obtain ⟨beyond, ascending⟩ := List.pairwise_cons.1 ascending
      rcases Nat.lt_trichotomy offset start with before | rfl | behind
      · refine ⟨.error 0, Nat.zero_le _, by simp, ?_⟩
        intro other member
        rcases List.mem_cons.1 member with rfl | later
        · exact before
        · exact Nat.lt_trans before (beyond other later)
      · exact ⟨.ok 0, rfl⟩
      · obtain ⟨place | place, answer⟩ := ih ascending
        · obtain ⟨within, below, above⟩ := answer
          refine ⟨.error (place + 1), Nat.succ_le_succ within, ?_, above⟩
          intro other member
          rcases List.mem_cons.1 member with rfl | later
          · exact behind
          · exact below other later
        · exact ⟨.ok (place + 1), answer⟩

theorem countP_append_of_le_of_lt {upper lower : List Nat} {offset : Nat}
    (below : ∀ start ∈ upper, start ≤ offset) (above : ∀ start ∈ lower, offset < start) :
    (upper ++ lower).countP (· ≤ offset) = upper.length := by
  rw [List.countP_append, List.countP_eq_length.2 (by simpa using below),
    List.countP_eq_zero.2 (by simpa using above), Nat.add_zero]

theorem countP_of_getElem? {starts : List Nat} (ascending : starts.Pairwise (· < ·))
    {place offset : Nat} (found : starts[place]? = some offset) :
    starts.countP (· ≤ offset) = place + 1 := by
  obtain ⟨inside, here⟩ := List.getElem?_eq_some_iff.1 found
  have split : starts.take place ++ offset :: starts.drop (place + 1) = starts := by
    rw [← here, List.getElem_cons_drop, List.take_append_drop]
  rw [← split] at ascending
  obtain ⟨-, rest, across⟩ := List.pairwise_append.1 ascending
  have below : ∀ start ∈ starts.take place ++ [offset], start ≤ offset := by
    intro start member
    rcases List.mem_append.1 member with earlier | same
    · exact Nat.le_of_lt (across start earlier offset List.mem_cons_self)
    · exact Nat.le_of_eq (List.mem_singleton.1 same)
  rw [List.append_cons] at split
  rw [← split, countP_append_of_le_of_lt below (List.pairwise_cons.1 rest).1, List.length_append,
    List.length_take, Nat.min_eq_left (Nat.le_of_lt inside), List.length_singleton]

/-- Whatever the search answers for an offset names its line: the line that starts there, or the
line behind the one that holds it. -/
theorem IsSearchResult.names_line {source : Text} {offset : Nat} {result : Except Nat Nat}
    (answer : IsSearchResult (byteStarts source) offset result) :
    result = .ok ((LineIndex.ofSource source).lineOf offset) ∨
      result = .error ((LineIndex.ofSource source).lineOf offset + 1) := by
  have counted := lineOf_add_one source offset
  cases result with
  | ok place =>
      rw [countP_of_getElem? (pairwise_byteStarts source) answer] at counted
      exact .inl (congrArg _ (Nat.succ.inj counted).symm)
  | error place =>
      obtain ⟨within, below, above⟩ := answer
      have cut := countP_append_of_le_of_lt (fun start member => Nat.le_of_lt (below start member))
        above
      rw [List.take_append_drop, List.length_take, Nat.min_eq_left within, ← counted] at cut
      exact .inr (congrArg _ cut.symm)

theorem lineOf_lineStart {source : Text} {place start : Nat}
    (found : (LineIndex.ofSource source).lineStart? place = some start) :
    (LineIndex.ofSource source).lineOf start = place := by
  have counted := lineOf_add_one source start
  rw [lineStart?_eq_getElem?] at found
  rw [countP_of_getElem? (pairwise_byteStarts source) found] at counted
  exact Nat.succ.inj counted

theorem lineStart?_eq_none {source : Text} {place : Nat}
    (beyond : (LineIndex.ofSource source).lineCount ≤ place) :
    (LineIndex.ofSource source).lineStart? place = none := by
  rw [LineIndex.lineStart?, List.getElem?_eq_none beyond, Option.map_none]

/-- Where the text of a line ends, with a carriage return that belongs to the terminator: before
the line feed, or at the end of the source. -/
def segmentStop (source : Text) (place : Nat) : Nat :=
  (((LineIndex.ofSource source).lineStart? (place + 1)).map (· - 1)).getD (byteLength source)

def nextStart (source : Text) (place : Nat) : Nat :=
  ((LineIndex.ofSource source).lineStart? (place + 1)).getD (byteLength source)

theorem nextStart_eq_offset {source : Text} {place : Nat}
    (inside : place < (LineIndex.ofSource source).lineCount) :
    nextStart source place = offset source (place + 1) := by
  by_cases more : place + 1 < (LineIndex.ofSource source).lineCount
  · rw [nextStart, lineStart?_eq more, Option.getD_some]
  · rw [nextStart, lineStart?_eq_none (Nat.le_of_not_lt more), Option.getD_none, offset,
      List.take_of_length_le (by rw [length_physicalLines]; omega), flatten_physicalLines]

theorem text_eq_cutReturn {source : Text} {place : Nat} {line : Line}
    (found : (LineIndex.ofSource source).lines[place]? = some line) :
    line.text = (cutReturn (sliceBytes line.start (segmentStop source place) source)).1 := by
  obtain ⟨cut, begins⟩ := exists_line_cut found
  obtain ⟨segment, -, text, ended⟩ := exists_segment_of_getElem?_linesFrom found
  have next := nextStart_eq_offset (List.getElem?_eq_some_iff.1 found).1
  rw [(sliceBytes_terminator found).1, ← begins] at next
  obtain ⟨feed, content, stop⟩ : ∃ feed, line.content = segment ++ feed ∧
      segmentStop source place = line.start + byteLength segment := by
    have whole := cutReturn_append segment
    have size := congrArg byteLength whole
    rw [byteLength_append, ← text] at size
    rw [← text] at whole
    rcases ended with ⟨terminator, more⟩ | ⟨terminator, last⟩
    · refine ⟨['\n'], by rw [Line.content, terminator, ← List.append_assoc, whole], ?_⟩
      rw [nextStart, lineStart?_eq more, Option.getD_some, terminator, byteLength_append] at next
      have one : byteLength ['\n'] = 1 := rfl
      rw [segmentStop, lineStart?_eq more, Option.map_some, Option.getD_some]
      omega
    · refine ⟨[], by rw [Line.content, terminator, whole, List.append_nil], ?_⟩
      have beyond := lineStart?_eq_none (Nat.le_of_eq last.symm)
      rw [nextStart, beyond, Option.getD_none, terminator] at next
      rw [segmentStop, beyond, Option.map_none, Option.getD_none]
      omega
  have slice := sliceBytes_append ((physicalLines source).take place).flatten segment
    (feed ++ ((physicalLines source).drop (place + 1)).flatten)
  rw [← List.append_assoc segment, ← content, ← cut, ← offset, ← begins, ← stop] at slice
  rw [slice, text]

theorem map_text_linesFrom (start : Nat) (segments : List Text) :
    (linesFrom start segments).map Line.text = segments.map fun segment => (cutReturn segment).1 := by
  fun_induction linesFrom start segments with
  | case1 => rfl
  | case2 start last => rfl
  | case3 start segment rest more ih => rw [List.map_cons, ih, List.map_cons]

theorem lineText?_eq (source : Text) (place : Nat) :
    (LineIndex.ofSource source).lineText? place =
      ((source.splitOn '\n').map fun segment => (cutReturn segment).1)[place]? := by
  rw [LineIndex.lineText?, ← List.getElem?_map, LineIndex.ofSource, map_text_linesFrom]

theorem cutReturn_fst_eq (t : Text) :
    t = if t.getLast? = some '\r' then (cutReturn t).1 ++ ['\r'] else (cutReturn t).1 := by
  split
  · next returned =>
      obtain ⟨front, rfl⟩ := List.getLast?_eq_some_iff.1 returned
      rw [cutReturn_concat]
  · next other =>
      rw [cutReturn_of_not_concat]
      rintro front rfl
      exact other List.getLast?_concat

theorem exists_last_segment (source : Text) :
    ∃ upper front last, source.splitOn '\n' = upper ++ [last] ∧ '\n' ∉ last ∧ IsClosed front ∧
      source = front ++ last := by
  have some := List.splitOn_ne_nil '\n' source
  obtain ⟨front, closed, same⟩ := exists_joinLines_concat (source.splitOn '\n').dropLast
  have split := List.dropLast_concat_getLast some
  have joined := same ((source.splitOn '\n').getLast some)
  rw [split] at joined
  refine ⟨_, front, _, split.symm, not_mem_of_mem_splitOn (List.getLast_mem some), closed, ?_⟩
  rw [← joined]
  exact (List.intercalate_splitOn '\n').symm

theorem lines_of_splitOn {source last : Text} {upper : List Text}
    (split : source.splitOn '\n' = upper ++ [last]) :
    lines source =
      upper.map (fun segment => (cutReturn segment).1) ++ if last = [] then [] else [last] := by
  rw [lines, split, linesOfSegments_append _ (by simp), linesOfSegments]
  simp only [List.isEmpty_iff]

theorem lineCount_of_splitOn {source last : Text} {upper : List Text}
    (split : source.splitOn '\n' = upper ++ [last]) :
    (LineIndex.ofSource source).lineCount = upper.length + 1 := by
  rw [LineIndex.lineCount, ← List.length_map Line.text, LineIndex.ofSource, map_text_linesFrom,
    split, List.length_map, List.length_append, List.length_singleton]

theorem eq_nil_or_getLast?_append_iff {front last : Text} (closed : IsClosed front)
    (single : '\n' ∉ last) :
    (front ++ last = [] ∨ (front ++ last).getLast? = some '\n') ↔ last = [] := by
  by_cases empty : last = []
  · subst empty
    rcases closed with rfl | ⟨rest, rfl⟩
    · simp
    · simp
  · rw [List.getLast?_append_of_ne_nil front empty]
    have open_end : last.getLast? ≠ some '\n' := fun feed => single (List.mem_of_getLast? feed)
    simp [empty, open_end]

/-- Planning and editing number lines alike. Planning has a line fewer exactly when nothing follows
the last line feed, and its lines have the texts of the index, save that it leaves the carriage
return at the very end of a source that no line feed ends. -/
theorem planned_lines_numbered_alike (source : Text) (options : Options)
    (descriptions : Descriptions) :
    (planContext source options descriptions).lines.length +
        (if source = [] ∨ source.getLast? = some '\n' then 1 else 0) =
      (LineIndex.ofSource source).lineCount ∧
    ∀ place < (planContext source options descriptions).lines.length, ∃ text,
      (LineIndex.ofSource source).lineText? place = some text ∧
        (planContext source options descriptions).lines[place]? =
          some (if place + 1 = (LineIndex.ofSource source).lineCount ∧
              source.getLast? = some '\r' then text ++ ['\r'] else text) := by
  obtain ⟨upper, front, last, split, single, closed, whole⟩ := exists_last_segment source
  have planned : (planContext source options descriptions).lines =
      upper.map (fun segment => (cutReturn segment).1) ++ if last = [] then [] else [last] :=
    lines_of_splitOn split
  have open_end := eq_nil_or_getLast?_append_iff closed single
  rw [← whole] at open_end
  simp only [planned, lineCount_of_splitOn split, lineText?_eq, split, List.map_append,
    List.map_singleton, open_end]
  refine ⟨by split <;> simp, fun place inside => ?_⟩
  by_cases above : place < upper.length
  · -- A line feed ends the line, so both take the segment less its carriage return.
    refine ⟨(cutReturn upper[place]).1, ?_, ?_⟩
    · rw [List.getElem?_append_left (by simpa using above), List.getElem?_map,
        List.getElem?_eq_getElem above, Option.map_some]
    · rw [List.getElem?_append_left (by simpa using above), List.getElem?_map,
        List.getElem?_eq_getElem above, Option.map_some, if_neg (by omega)]
  · -- Only what stands behind the last line feed is left, and planning counts it as it is.
    have solid : last ≠ [] := by
      rintro rfl
      rw [if_pos rfl, List.append_nil, List.length_map] at inside
      exact above inside
    rw [if_neg solid] at inside ⊢
    have here : place = (upper.map fun segment => (cutReturn segment).1).length := by
      rw [List.length_append, List.length_singleton] at inside
      rw [List.length_map] at inside ⊢
      omega
    subst here
    refine ⟨(cutReturn last).1, List.getElem?_concat_length, ?_⟩
    rw [List.getElem?_concat_length, whole, List.getLast?_append_of_ne_nil front solid]
    simpa only [List.length_map, true_and, Option.some.injEq] using cutReturn_fst_eq last

end DocblockSync.Document
