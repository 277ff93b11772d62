import DocblockSync.Document.LineIndex
import DocblockSync.Proofs.Affixes
import DocblockSync.Proofs.Boundary

/-! Physical lines with their terminators. They join to the source, every one but the last ends in
its only line feed, and the index records where each starts. A text that ends in a line feed can
be read line by line on its own, whatever follows it; this holds for physical lines and for the
lines that planning works on. -/

namespace DocblockSync.Document

open Text

def Line.content (line : Line) : Text := line.text ++ line.terminator

def physicalLines (source : Text) : List Text :=
  (LineIndex.ofSource source).lines.map Line.content

def terminated : List Text → List Text
  | [] => []
  | [last] => [last]
  | segment :: rest => (segment ++ ['\n']) :: terminated rest

theorem cutReturn_append (segment : Text) :
    (cutReturn segment).1 ++ (cutReturn segment).2 = segment := by
  unfold cutReturn
  split
  · next text found => exact (before?_eq_some_iff.1 found).symm
  · exact List.append_nil segment

theorem map_content_linesFrom (start : Nat) (segments : List Text) :
    (linesFrom start segments).map Line.content = terminated segments := by
  fun_induction linesFrom start segments with
  | case1 => rfl
  | case2 start last => simp [terminated, Line.content, cutReturn_append]
  | case3 start segment rest more ih =>
      have content := cutReturn_append segment
      rw [List.map_cons, ih, terminated]
      · rw [Line.content, ← List.append_assoc, content]
      · exact more

theorem physicalLines_eq (source : Text) :
    physicalLines source = terminated (source.splitOn '\n') :=
  map_content_linesFrom 0 (source.splitOn '\n')

theorem terminated_append (segments : List Text) {more : List Text} (some : more ≠ []) :
    terminated (segments ++ more) = segments.map (· ++ ['\n']) ++ terminated more := by
  induction segments with
  | nil => rfl
  | cons segment segments ih =>
      have follows : segments ++ more ≠ [] := by simp [some]
      rw [List.cons_append, terminated, ih]
      · rfl
      · exact follows

theorem flatten_terminated (segments : List Text) :
    (terminated segments).flatten = ['\n'].intercalate segments := by
  fun_induction terminated segments with
  | case1 => rfl
  | case2 last => simp
  | case3 segment rest more ih =>
      rw [List.flatten_cons, ih, List.intercalate_cons_of_ne_nil more, List.append_assoc]

theorem flatten_physicalLines (source : Text) : (physicalLines source).flatten = source := by
  rw [physicalLines_eq, flatten_terminated, List.intercalate_splitOn]

@[simp]
theorem length_physicalLines (source : Text) :
    (physicalLines source).length = (LineIndex.ofSource source).lineCount := by
  rw [physicalLines, List.length_map]
  rfl

/-- A line ended by its only line feed. -/
def IsFullLine (line : Text) : Prop := ∃ segment, line = segment ++ ['\n'] ∧ '\n' ∉ segment

theorem physicalLines_append_newline (front rest : Text) :
    physicalLines (front ++ '\n' :: rest) =
      (front.splitOn '\n').map (· ++ ['\n']) ++ physicalLines rest := by
  rw [physicalLines_eq, physicalLines_eq, List.splitOn_append_cons_self,
    terminated_append _ (List.splitOn_ne_nil '\n' rest)]

theorem physicalLines_flatten_append {lines : List Text} (full : ∀ line ∈ lines, IsFullLine line)
    (rest : Text) : physicalLines (lines.flatten ++ rest) = lines ++ physicalLines rest := by
  induction lines with
  | nil => rfl
  | cons line lines ih =>
      obtain ⟨segment, rfl, single⟩ := full line List.mem_cons_self
      have tail := ih fun line member => full line (List.mem_cons_of_mem _ member)
      rw [List.flatten_cons, List.append_assoc, List.append_assoc, List.singleton_append,
        physicalLines_append_newline, List.splitOn_eq_singleton single, tail]
      rfl

theorem terminated_eq {segments : List Text} (some : segments ≠ []) :
    terminated segments = segments.dropLast.map (· ++ ['\n']) ++ [segments.getLast some] := by
  conv => lhs; rw [← List.dropLast_concat_getLast some]
  rw [terminated_append _ (by simp)]
  rfl

theorem isFullLine_of_mem_take {source line : Text} {count : Nat}
    (below : count < (physicalLines source).length)
    (member : line ∈ (physicalLines source).take count) : IsFullLine line := by
  have some := List.splitOn_ne_nil '\n' source
  rw [physicalLines_eq, terminated_eq some] at below member
  rw [List.length_append, List.length_singleton] at below
  rw [List.take_append_of_le_length (by omega)] at member
  obtain ⟨segment, found, rfl⟩ := List.mem_map.1 (List.mem_of_mem_take member)
  exact ⟨segment, rfl, not_mem_of_mem_splitOn (List.dropLast_subset _ found)⟩

theorem start_of_getElem?_linesFrom {start place : Nat} {segments : List Text} {line : Line}
    (found : (linesFrom start segments)[place]? = some line) :
    line.start = start + byteLength ((terminated segments).take place).flatten := by
  fun_induction linesFrom start segments generalizing place with
  | case1 => simp at found
  | case2 start last =>
      cases place with
      | zero =>
          rw [List.getElem?_cons_zero, Option.some.injEq] at found
          subst found
          rfl
      | succ place => simp at found
  | case3 start segment rest more ih =>
      cases place with
      | zero =>
          rw [List.getElem?_cons_zero, Option.some.injEq] at found
          subst found
          rfl
      | succ place =>
          rw [List.getElem?_cons_succ] at found
          have size : ('\n').utf8Size = 1 := rfl
          rw [ih found, terminated, List.take_succ_cons, List.flatten_cons, byteLength_append,
            byteLength_append, byteLength_cons, byteLength_nil, size]
          · omega
          · exact more

theorem linesFrom_eq_nil_iff {start : Nat} {segments : List Text} :
    linesFrom start segments = [] ↔ segments = [] := by
  fun_cases linesFrom start segments with
  | case1 => simp
  | case2 last => simp
  | case3 segment rest more => simp

theorem exists_segment_of_getElem?_linesFrom {start place : Nat} {segments : List Text} {line : Line}
    (found : (linesFrom start segments)[place]? = some line) :
    ∃ segment ∈ segments, line.text = (cutReturn segment).1 ∧
      ((line.terminator = (cutReturn segment).2 ++ ['\n'] ∧
          place + 1 < (linesFrom start segments).length) ∨
        (line.terminator = (cutReturn segment).2 ∧
          place + 1 = (linesFrom start segments).length)) := by
  fun_induction linesFrom start segments generalizing place with
  | case1 => simp at found
  | case2 start last =>
      cases place with
      | zero =>
          rw [List.getElem?_cons_zero, Option.some.injEq] at found
          subst found
          exact ⟨last, List.mem_singleton_self last, rfl, .inr ⟨rfl, rfl⟩⟩
      | succ place => simp at found
  | case3 start segment rest more ih =>
      cases place with
      | zero =>
          rw [List.getElem?_cons_zero, Option.some.injEq] at found
          subst found
          refine ⟨segment, List.mem_cons_self, rfl, .inl ⟨rfl, ?_⟩⟩
          simpa [List.length_pos_iff, linesFrom_eq_nil_iff] using more
      | succ place =>
          rw [List.getElem?_cons_succ] at found
          obtain ⟨segment, member, text, terminator⟩ := ih found
          rw [List.length_cons, Nat.add_lt_add_iff_right, Nat.add_right_cancel_iff]
          exact ⟨segment, List.mem_cons_of_mem _ member, text, terminator⟩

/-- Where a line starts, in bytes: at the end of the lines before it. -/
def offset (source : Text) (place : Nat) : Nat :=
  byteLength ((physicalLines source).take place).flatten

@[simp]
theorem offset_zero (source : Text) : offset source 0 = 0 := rfl

theorem take_flatten_append (source : Text) (place : Nat) :
    ((physicalLines source).take place).flatten ++ ((physicalLines source).drop place).flatten =
      source := by
  rw [← List.flatten_append, List.take_append_drop, flatten_physicalLines]

theorem offset_add (source : Text) (place count : Nat) :
    offset source (place + count) =
      offset source place +
        byteLength (((physicalLines source).drop place).take count).flatten := by
  rw [offset, List.take_add, List.flatten_append, byteLength_append, offset]

theorem offset_le {first second : Nat} (source : Text) (le : first ≤ second) :
    offset source first ≤ offset source second := by
  obtain ⟨count, rfl⟩ := Nat.exists_eq_add_of_le le
  rw [offset_add]
  omega

/-- An indexed line cuts the source into the lines before it, itself and the lines behind it, and
starts at the end of the first part. -/
theorem exists_line_cut {source : Text} {place : Nat} {line : Line}
    (found : (LineIndex.ofSource source).lines[place]? = some line) :
    source = ((physicalLines source).take place).flatten ++
        (line.content ++ ((physicalLines source).drop (place + 1)).flatten) ∧
      line.start = offset source place := by
  have content : (physicalLines source)[place]? = some line.content := by
    rw [physicalLines, List.getElem?_map, found, Option.map_some]
  constructor
  · obtain ⟨below, here⟩ := List.getElem?_eq_some_iff.1 content
    rw [← here, ← List.flatten_cons, List.getElem_cons_drop, take_flatten_append]
  · have start := start_of_getElem?_linesFrom found
    rw [← physicalLines_eq, Nat.zero_add] at start
    exact start

end DocblockSync.Document

namespace DocblockSync.Text

open Document

theorem linesOfSegments_append (segments : List Text) {more : List Text} (some : more ≠ []) :
    linesOfSegments (segments ++ more) =
      segments.map (fun segment => (cutReturn segment).1) ++ linesOfSegments more := by
  induction segments with
  | nil => rfl
  | cons segment segments ih =>
      have follows : segments ++ more ≠ [] := by simp [some]
      rw [List.cons_append, linesOfSegments, ih]
      · rfl
      · exact follows

theorem lines_append_newline (front rest : Text) :
    lines (front ++ '\n' :: rest) =
      (front.splitOn '\n').map (fun segment => (cutReturn segment).1) ++ lines rest := by
  rw [lines, lines, List.splitOn_append_cons_self,
    linesOfSegments_append _ (List.splitOn_ne_nil '\n' rest)]

theorem length_linesOfSegments_le (start : Nat) (segments : List Text) :
    (linesOfSegments segments).length ≤ (linesFrom start segments).length := by
  fun_induction linesFrom start segments with
  | case1 => exact Nat.le_refl 0
  | case2 start last =>
      rw [linesOfSegments]
      split <;> simp
  | case3 start segment rest more ih =>
      rw [linesOfSegments, List.length_cons, List.length_cons]
      · exact Nat.succ_le_succ ih
      · exact more

theorem length_lines_le (t : Text) : (lines t).length ≤ (LineIndex.ofSource t).lineCount :=
  length_linesOfSegments_le 0 (t.splitOn '\n')

theorem exists_segment_of_mem {segments : List Text} {line : Text}
    (member : line ∈ linesOfSegments segments) : ∃ segment ∈ segments, line ⊆ segment := by
  fun_induction linesOfSegments segments with
  | case1 => cases member
  | case2 last empty => cases member
  | case3 last solid =>
      rw [List.mem_singleton.1 member]
      exact ⟨last, List.mem_singleton_self _, List.Subset.refl _⟩
  | case4 segment rest more ih =>
      rcases List.mem_cons.1 member with rfl | member
      · refine ⟨segment, List.mem_cons_self, ?_⟩
        conv => rhs; rw [← cutReturn_append segment]
        exact List.subset_append_left _ _
      · obtain ⟨other, listed, within⟩ := ih member
        exact ⟨other, List.mem_cons_of_mem _ listed, within⟩

theorem not_mem_of_mem_lines {t line : Text} (member : line ∈ lines t) : '\n' ∉ line := by
  obtain ⟨segment, listed, within⟩ := exists_segment_of_mem member
  exact fun feed => not_mem_of_mem_splitOn listed (within feed)

theorem isClosed_flatten {parts : List Text} (closed : ∀ part ∈ parts, IsClosed part) :
    IsClosed parts.flatten := by
  induction parts with
  | nil => exact .inl rfl
  | cons part parts ih =>
      rw [List.flatten_cons]
      have below := ih fun part member => closed part (List.mem_cons_of_mem _ member)
      rcases below with empty | ⟨rest, split⟩
      · rw [empty, List.append_nil]
        exact closed part List.mem_cons_self
      · rw [split, ← List.append_assoc]
        exact .inr ⟨part ++ rest, rfl⟩

theorem lines_append_of_isClosed {front : Text} (closed : IsClosed front) (rest : Text) :
    lines (front ++ rest) = lines front ++ lines rest := by
  rcases closed with rfl | ⟨front, rfl⟩
  · rfl
  · have alone := lines_append_newline front []
    rw [show lines [] = [] from rfl, List.append_nil] at alone
    rw [List.append_assoc, List.singleton_append, lines_append_newline, alone]

end DocblockSync.Text
