import DocblockSync.Plan
import DocblockSync.Proofs.Splicing

/-! Edits of whole lines. Such an edit puts full lines in above a line or replaces lines up to the
terminator of the last, so the lines it does not replace stay whole. Edits of whole lines that keep
apart always apply, and every line that none of them replaces is a line of the result, in the same
order. -/

namespace DocblockSync.Document

open Text

def Edit.replaced? (edit : Edit) : Option LineRange :=
  match edit.target with
  | .insert _ _ => none
  | .replace first last => some ⟨first, last⟩

/-- The lines, counted from a start, that lie in none of the ranges. -/
def untouched (ranges : List LineRange) (start : Nat) (lines : List Text) : List Text :=
  ((lines.zipIdx start).filter fun entry =>
    ranges.all fun range => entry.2 < range.first || range.last < entry.2).map Prod.fst

/-- Edits that keep lines whole. -/
inductive OnLines (source : Text) : Edit → Prop
  | above {line : Nat} {text message : Text} (inside : line < (LineIndex.ofSource source).lineCount)
      (ended : ∃ front, text = front ++ ['\n']) : OnLines source ⟨.insert line 0, text, message⟩
  | instead {first last : Nat} {text message : Text} (upright : first ≤ last)
      (inside : last < (LineIndex.ofSource source).lineCount) :
      OnLines source ⟨.replace first last, text, message⟩

/-- An edit ends above the line where the other starts, or both put text in above one line. -/
def Above (edit other : Edit) : Prop :=
  edit.endLine < other.startLine ∨
    ∃ line, edit.target = .insert line 0 ∧ other.target = .insert line 0

theorem isBoundary_offset (source : Text) (place : Nat) :
    isBoundary (offset source place) source = true :=
  isBoundary_iff.2 ⟨_, _, (take_flatten_append source place).symm, rfl⟩

theorem dropBytes_offset (source : Text) (place : Nat) :
    dropBytes (offset source place) source = ((physicalLines source).drop place).flatten := by
  have cut := dropBytes_append ((physicalLines source).take place).flatten
    ((physicalLines source).drop place).flatten
  rwa [take_flatten_append] at cut

theorem sliceBytes_offset (source : Text) (place count : Nat) :
    sliceBytes (offset source place) (offset source (place + count)) source =
      (((physicalLines source).drop place).take count).flatten := by
  have cut := sliceBytes_append ((physicalLines source).take place).flatten
    (((physicalLines source).drop place).take count).flatten
    (((physicalLines source).drop place).drop count).flatten
  rwa [← List.flatten_append, List.take_append_drop, take_flatten_append, ← offset,
    ← offset_add] at cut

theorem offset_lt {source : Text} {first second : Nat} (lt : first < second)
    (inside : second < (LineIndex.ofSource source).lineCount) :
    offset source first < offset source second := by
  have next : offset source (first + 1) ≤ offset source second := offset_le source lt
  have below : first < (physicalLines source).length := by
    rw [length_physicalLines]
    omega
  have member : (physicalLines source)[first] ∈ (physicalLines source).take second :=
    List.mem_take_iff_getElem.2 ⟨first, by omega, rfl⟩
  obtain ⟨segment, full, -⟩ := isFullLine_of_mem_take (by rw [length_physicalLines]; omega) member
  have one : ((physicalLines source).drop first).take 1 = [segment ++ ['\n']] := by
    rw [List.drop_eq_getElem_cons below, full]
    rfl
  rw [offset_add, one, List.flatten_singleton, byteLength_append, byteLength_cons] at next
  have positive := ('\n').utf8Size_pos
  omega

theorem exists_line {source : Text} {place : Nat}
    (inside : place < (LineIndex.ofSource source).lineCount) :
    ∃ line, (LineIndex.ofSource source).lines[place]? = some line :=
  ⟨_, List.getElem?_eq_getElem inside⟩

theorem lineStart?_eq {source : Text} {place : Nat}
    (inside : place < (LineIndex.ofSource source).lineCount) :
    (LineIndex.ofSource source).lineStart? place = some (offset source place) := by
  obtain ⟨line, found⟩ := exists_line inside
  rw [LineIndex.lineStart?, found, Option.map_some, (exists_line_cut found).2]

theorem sliceBytes_terminator {source : Text} {place : Nat} {line : Line}
    (found : (LineIndex.ofSource source).lines[place]? = some line) :
    offset source (place + 1) =
        offset source place + byteLength line.text + byteLength line.terminator ∧
      sliceBytes (offset source place + byteLength line.text) (offset source (place + 1)) source =
        line.terminator := by
  obtain ⟨cut, -⟩ := exists_line_cut found
  have content : (physicalLines source)[place]? = some line.content := by
    rw [physicalLines, List.getElem?_map, found, Option.map_some]
  obtain ⟨below, here⟩ := List.getElem?_eq_some_iff.1 content
  have size : offset source (place + 1) =
      offset source place + byteLength line.text + byteLength line.terminator := by
    rw [offset_add, List.drop_eq_getElem_cons below, here, List.take_succ_cons, List.take_zero,
      List.flatten_singleton, Line.content, byteLength_append]
    omega
  refine ⟨size, ?_⟩
  have slice := sliceBytes_append (((physicalLines source).take place).flatten ++ line.text)
    line.terminator ((physicalLines source).drop (place + 1)).flatten
  rw [byteLength_append, List.append_assoc, ← List.append_assoc line.text, ← Line.content,
    ← cut] at slice
  rwa [size, offset]

theorem exists_terminator_linesFrom {start place : Nat} {segments : List Text} {line : Line}
    (found : (linesFrom start segments)[place]? = some line)
    (more : place + 1 < (linesFrom start segments).length) :
    ∃ returns, line.terminator = returns ++ ['\n'] ∧ (returns = [] ∨ returns = ['\r']) := by
  obtain ⟨segment, -, -, ⟨ended, -⟩ | ⟨-, last⟩⟩ := exists_segment_of_getElem?_linesFrom found
  · refine ⟨_, ended, ?_⟩
    unfold cutReturn
    split
    · exact .inr rfl
    · exact .inl rfl
  · omega

theorem physicalLines_flatten_drop {source : Text} {place : Nat}
    (inside : place < (LineIndex.ofSource source).lineCount) :
    physicalLines ((physicalLines source).drop place).flatten =
      (physicalLines source).drop place := by
  have full : ∀ line ∈ (physicalLines source).take place, IsFullLine line := by
    intro line member
    exact isFullLine_of_mem_take (by rwa [length_physicalLines]) member
  have whole := physicalLines_flatten_append full ((physicalLines source).drop place).flatten
  rw [take_flatten_append] at whole
  have cut := List.take_append_drop place (physicalLines source)
  exact (List.append_cancel_left (cut.trans whole)).symm

theorem OnLines.inBounds {source : Text} {edit : Edit} (on : OnLines source edit) :
    InBounds (LineIndex.ofSource source) edit := by
  cases on with
  | above inside ended =>
      exact ⟨_, by rw [LineIndex.lineText?, List.getElem?_eq_getElem inside]; rfl, Nat.zero_le _⟩
  | instead upright inside => exact ⟨upright, inside⟩

theorem OnLines.upright {source : Text} {edit : Edit} (on : OnLines source edit) :
    edit.startLine ≤ edit.endLine ∧ edit.endLine < (LineIndex.ofSource source).lineCount := by
  cases on with
  | above inside ended => exact ⟨Nat.le_refl _, inside⟩
  | instead upright inside => exact ⟨upright, inside⟩

theorem OnLines.start_eq {source : Text} {edit : Edit} (on : OnLines source edit) :
    (ranged (LineIndex.ofSource source) edit).start = offset source edit.startLine := by
  cases on with
  | above inside ended =>
      simp only [ranged, lineStart?_eq inside]
      rfl
  | instead upright inside =>
      simp only [ranged, lineStart?_eq (Nat.lt_of_le_of_lt upright inside)]
      rfl

theorem OnLines.stop_le {source : Text} {edit : Edit} (on : OnLines source edit) :
    (ranged (LineIndex.ofSource source) edit).stop ≤ offset source (edit.endLine + 1) := by
  cases on with
  | above inside ended =>
      simp only [ranged, lineStart?_eq inside]
      exact offset_le source (Nat.le_succ _)
  | instead upright inside =>
      obtain ⟨line, found⟩ := exists_line inside
      have size := (sliceBytes_terminator found).1
      simp only [ranged, Edit.endLine, lineStart?_eq inside, LineIndex.lineText?, found,
        Option.map_some, Option.getD_some]
      omega

theorem startLine_le_of_above {source : Text} {edit other : Edit} (on : OnLines source edit)
    (above : Above edit other) : edit.startLine ≤ other.startLine := by
  have upright := on.upright
  rcases above with lower | ⟨line, target, target'⟩
  · omega
  · simp [Edit.startLine, target, target']

theorem replaced?_eq_some_iff {edit : Edit} {range : LineRange} :
    edit.replaced? = some range ↔ edit.target = .replace range.first range.last := by
  obtain ⟨first, last⟩ := range
  unfold Edit.replaced?
  split <;> simp_all

theorem replaced?_ne_of_above {source : Text} {edit other : Edit} {range range' : LineRange}
    (on : OnLines source edit) (above : Above edit other) (replaced : edit.replaced? = some range)
    (replaced' : other.replaced? = some range') : range ≠ range' := by
  rintro rfl
  have target := replaced?_eq_some_iff.1 replaced
  have target' := replaced?_eq_some_iff.1 replaced'
  have upright := on.upright
  rcases above with lower | ⟨line, insert, -⟩
  · simp only [Edit.startLine, Edit.endLine, target, target'] at lower upright
    omega
  · rw [target] at insert
    cases insert

theorem stop_le_start {source : Text} {edit other : Edit} (on : OnLines source edit)
    (on' : OnLines source other) (above : Above edit other) :
    (ranged (LineIndex.ofSource source) edit).stop ≤
      (ranged (LineIndex.ofSource source) other).start := by
  rcases above with lower | ⟨line, target, target'⟩
  · rw [on'.start_eq]
    exact Nat.le_trans on.stop_le (offset_le source lower)
  · simp [ranged, target, target']

theorem columnsOnBoundaries_of_onLines {source : Text} {edits : List Edit}
    (on : ∀ edit ∈ edits, OnLines source edit) : ColumnsOnBoundaries source edits := by
  intro edit member line column text target found fits
  cases on edit member with
  | above inside ended =>
      obtain ⟨rfl, rfl⟩ := Target.insert.inj target
      exact isBoundary_zero text
  | instead upright inside => cases target

theorem exists_toCrlf_concat (front : Text) (last : Char) :
    ∃ front', toCrlf (front ++ [last]) = front' ++ [last] := by
  fun_induction toCrlf front with
  | case1 =>
      by_cases feed : last = '\n'
      · subst feed
        exact ⟨['\r'], rfl⟩
      · refine ⟨[], ?_⟩
        rw [List.nil_append, toCrlf]
        · rfl
        · simp
        · exact feed
  | case2 t ih =>
      obtain ⟨front', same⟩ := ih
      exact ⟨'\r' :: '\n' :: front', by simp [toCrlf, same]⟩
  | case3 t ih =>
      obtain ⟨front', same⟩ := ih
      exact ⟨'\r' :: '\n' :: front', by simp [toCrlf, same]⟩
  | case4 c t plain feed ih =>
      obtain ⟨front', same⟩ := ih
      by_cases ended : c = '\r' ∧ t = [] ∧ last = '\n'
      · obtain ⟨rfl, rfl, rfl⟩ := ended
        exact ⟨['\r'], rfl⟩
      · refine ⟨c :: front', ?_⟩
        rw [List.cons_append, toCrlf, same]
        · rfl
        · intro rest first second
          cases t with
          | nil =>
              rw [List.nil_append, List.cons.injEq] at second
              exact ended ⟨first, rfl, second.1⟩
          | cons d t =>
              rw [List.cons_append, List.cons.injEq] at second
              exact plain t first (by rw [second.1])
        · exact feed

theorem exists_normalize_concat (ending : LineEnding) (front : Text) (last : Char) :
    ∃ front', ending.normalize (front ++ [last]) = front' ++ [last] := by
  cases ending with
  | lf => exact ⟨front, rfl⟩
  | crlf => exact exists_toCrlf_concat front last

theorem splice_advance (ending : LineEnding) {source : Text} {position next : Nat}
    {ordered : List RangedEdit} (le : position ≤ next) (start : isBoundary position source = true)
    (stop : isBoundary next source = true)
    (ahead : ∀ edit ∈ ordered.head?, next ≤ edit.start ∧ isBoundary edit.start source = true) :
    splice ending source position ordered =
      sliceBytes position next source ++ splice ending source next ordered := by
  cases ordered with
  | nil =>
      rw [splice, splice]
      exact (sliceBytes_append_dropBytes le start stop).symm
  | cons edit rest =>
      obtain ⟨le', boundary⟩ := ahead edit rfl
      rw [splice, splice, ← List.append_assoc (sliceBytes position next source),
        sliceBytes_append_sliceBytes le le' start stop boundary]

theorem splice_above {source : Text} {place line : Nat} (ending : LineEnding) (text message : Text)
    (rest : List RangedEdit) (le : place ≤ line)
    (inside : line < (LineIndex.ofSource source).lineCount) :
    splice ending source (offset source place)
        (ranged (LineIndex.ofSource source) ⟨.insert line 0, text, message⟩ :: rest) =
      (((physicalLines source).drop place).take (line - place)).flatten ++
        (ending.normalize text ++ splice ending source (offset source line) rest) := by
  have slice := sliceBytes_offset source place (line - place)
  rw [Nat.add_sub_cancel' le] at slice
  simp only [ranged, lineStart?_eq inside, Option.getD_some, Nat.add_zero, splice, slice]

theorem splice_instead {source : Text} {place first last : Nat} {line : Line} (ending : LineEnding)
    (text message : Text) (rest : List RangedEdit) (le : place ≤ first) (upright : first ≤ last)
    (found : (LineIndex.ofSource source).lines[last]? = some line)
    (ahead : ∀ edit ∈ rest.head?, offset source (last + 1) ≤ edit.start ∧
      isBoundary edit.start source = true) :
    splice ending source (offset source place)
        (ranged (LineIndex.ofSource source) ⟨.replace first last, text, message⟩ :: rest) =
      (((physicalLines source).drop place).take (first - place)).flatten ++
        (ending.normalize text ++
          (line.terminator ++ splice ending source (offset source (last + 1)) rest)) := by
  have inside : last < (LineIndex.ofSource source).lineCount :=
    (List.getElem?_eq_some_iff.1 found).1
  obtain ⟨size, terminator⟩ := sliceBytes_terminator found
  have slice := sliceBytes_offset source place (first - place)
  rw [Nat.add_sub_cancel' le] at slice
  have start : isBoundary (offset source last + byteLength line.text) source = true := by
    rw [← (exists_line_cut found).2]
    exact isBoundary_start_add found (isBoundary_byteLength _)
  have next := splice_advance ending (by omega) start
    (isBoundary_offset source (last + 1)) ahead
  rw [terminator] at next
  simp only [ranged, lineStart?_eq inside, lineStart?_eq (Nat.lt_of_le_of_lt upright inside),
    LineIndex.lineText?, found, Option.map_some, Option.getD_some, splice, slice, next]

theorem untouched_append (ranges : List LineRange) (start : Nat) (upper lower : List Text) :
    untouched ranges start (upper ++ lower) =
      untouched ranges start upper ++ untouched ranges (start + upper.length) lower := by
  rw [untouched, List.zipIdx_append, List.filter_append, List.map_append]
  rfl

theorem untouched_sublist (ranges : List LineRange) (start : Nat) (lines : List Text) :
    (untouched ranges start lines).Sublist lines := by
  have kept := (List.filter_sublist (l := lines.zipIdx start) (p := fun entry =>
    ranges.all fun range => entry.2 < range.first || range.last < entry.2)).map Prod.fst
  rwa [List.zipIdx_map_fst] at kept

theorem untouched_eq_nil {ranges : List LineRange} {range : LineRange} {start : Nat}
    {lines : List Text} (member : range ∈ ranges) (low : range.first ≤ start)
    (high : start + lines.length ≤ range.last + 1) : untouched ranges start lines = [] := by
  rw [untouched, List.map_eq_nil_iff, List.filter_eq_nil_iff]
  rintro ⟨line, place⟩ found all
  have bounds := List.mem_zipIdx found
  have outside := List.all_eq_true.1 all range member
  simp only [Bool.or_eq_true, decide_eq_true_eq] at outside
  omega

theorem drop_eq_take_append {source : Text} {place next : Nat} (le : place ≤ next) :
    (physicalLines source).drop place =
      ((physicalLines source).drop place).take (next - place) ++
        (physicalLines source).drop next := by
  have split := List.take_append_drop (next - place) ((physicalLines source).drop place)
  rw [List.drop_drop, Nat.add_sub_cancel' le] at split
  exact split.symm

theorem physicalLines_take_append {source : Text} {place next : Nat} (le : place ≤ next)
    (inside : next < (LineIndex.ofSource source).lineCount) (rest : Text) :
    physicalLines ((((physicalLines source).drop place).take (next - place)).flatten ++ rest) =
      ((physicalLines source).drop place).take (next - place) ++ physicalLines rest := by
  apply physicalLines_flatten_append
  intro line member
  have above : line ∈ (physicalLines source).take next := by
    rw [List.take_drop, Nat.add_sub_cancel' le] at member
    exact List.mem_of_mem_drop member
  exact isFullLine_of_mem_take (by rwa [length_physicalLines]) above

theorem untouched_drop {source : Text} {place next : Nat} (ranges : List LineRange)
    (le : place ≤ next)
    (inside : next ≤ (LineIndex.ofSource source).lineCount) :
    untouched ranges place ((physicalLines source).drop place) =
      untouched ranges place (((physicalLines source).drop place).take (next - place)) ++
        untouched ranges next ((physicalLines source).drop next) := by
  have size : (((physicalLines source).drop place).take (next - place)).length = next - place := by
    rw [List.length_take, List.length_drop, length_physicalLines]
    omega
  conv => lhs; rw [drop_eq_take_append le]
  rw [untouched_append, size, Nat.add_sub_cancel' le]

theorem sublist_physicalLines_append_newline {survivors : List Text} {rest : Text} (front : Text)
    (kept : survivors.Sublist (physicalLines rest)) :
    survivors.Sublist (physicalLines (front ++ ['\n'] ++ rest)) := by
  rw [List.append_assoc, List.singleton_append, physicalLines_append_newline]
  exact kept.trans (List.sublist_append_right _ _)

theorem untouched_sublist_above {source : Text} {place line : Nat} {ranges : List LineRange}
    (ending : LineEnding) (front message : Text) {rest : List RangedEdit} (le : place ≤ line)
    (inside : line < (LineIndex.ofSource source).lineCount)
    (kept : (untouched ranges line ((physicalLines source).drop line)).Sublist
      (physicalLines (splice ending source (offset source line) rest))) :
    (untouched ranges place ((physicalLines source).drop place)).Sublist
      (physicalLines (splice ending source (offset source place)
        (ranged (LineIndex.ofSource source) ⟨.insert line 0, front ++ ['\n'], message⟩ ::
          rest))) := by
  obtain ⟨written, same⟩ := exists_normalize_concat ending front '\n'
  rw [splice_above ending _ _ _ le inside, physicalLines_take_append le inside,
    untouched_drop ranges le (Nat.le_of_lt inside), same]
  exact (untouched_sublist _ _ _).append (sublist_physicalLines_append_newline written kept)

theorem untouched_sublist_instead {source : Text} {place first last : Nat} {ranges : List LineRange}
    (ending : LineEnding) (text message : Text) {rest : List RangedEdit} (le : place ≤ first)
    (upright : first ≤ last) (inside : last < (LineIndex.ofSource source).lineCount)
    (member : ⟨first, last⟩ ∈ ranges)
    (ahead : ∀ edit ∈ rest.head?, offset source (last + 1) ≤ edit.start ∧
      isBoundary edit.start source = true)
    (kept : (untouched ranges (last + 1) ((physicalLines source).drop (last + 1))).Sublist
      (physicalLines (splice ending source (offset source (last + 1)) rest))) :
    (untouched ranges place ((physicalLines source).drop place)).Sublist
      (physicalLines (splice ending source (offset source place)
        (ranged (LineIndex.ofSource source) ⟨.replace first last, text, message⟩ :: rest))) := by
  obtain ⟨line, found⟩ := exists_line inside
  have inside' : first < (LineIndex.ofSource source).lineCount := Nat.lt_of_le_of_lt upright inside
  have gone : untouched ranges first
      (((physicalLines source).drop first).take (last + 1 - first)) = [] := by
    apply untouched_eq_nil member (Nat.le_refl _)
    rw [List.length_take]
    simp only
    omega
  rw [splice_instead ending _ _ _ le upright found ahead, physicalLines_take_append le inside',
    untouched_drop ranges le (Nat.le_of_lt inside'),
    untouched_drop ranges (Nat.le_succ_of_le upright) inside, gone, List.nil_append]
  apply (untouched_sublist _ _ _).append
  by_cases more : last + 1 < (LineIndex.ofSource source).lineCount
  · obtain ⟨returns, ended, -⟩ := exists_terminator_linesFrom found more
    rw [ended, List.append_assoc returns, ← List.append_assoc, ← List.append_assoc]
    exact sublist_physicalLines_append_newline _ kept
  · rw [List.drop_of_length_le (by rw [length_physicalLines]; omega)]
    exact List.nil_sublist _

theorem untouched_sublist_splice {source : Text} {edits : List Edit} {place : Nat}
    {ranges : List LineRange} (ending : LineEnding) (on : ∀ edit ∈ edits, OnLines source edit)
    (ordered : edits.Pairwise Above) (ahead : ∀ edit ∈ edits, place ≤ edit.startLine)
    (covered : ∀ edit ∈ edits, ∀ range ∈ edit.replaced?, range ∈ ranges) :
    (untouched ranges place ((physicalLines source).drop place)).Sublist
      (physicalLines (splice ending source (offset source place)
        (edits.map (ranged (LineIndex.ofSource source))))) := by
  induction edits generalizing place with
  | nil =>
      rw [List.map_nil, splice, dropBytes_offset]
      by_cases inside : place < (LineIndex.ofSource source).lineCount
      · rw [physicalLines_flatten_drop inside]
        exact untouched_sublist _ _ _
      · rw [List.drop_of_length_le (by rw [length_physicalLines]; omega)]
        exact List.nil_sublist _
  | cons edit rest ih =>
      obtain ⟨below, ordered'⟩ := List.pairwise_cons.1 ordered
      have on' := fun other member => on other (List.mem_cons_of_mem edit member)
      have covered' := fun other member => covered other (List.mem_cons_of_mem edit member)
      cases on edit List.mem_cons_self with
      | @above line text message inside ended =>
          obtain ⟨front, rfl⟩ := ended
          have lower : ∀ other ∈ rest, line ≤ other.startLine := by
            intro other member
            rcases below other member with lower | ⟨line', target, target'⟩
            · exact Nat.le_of_lt lower
            · obtain ⟨rfl, -⟩ := Target.insert.inj target
              rw [Edit.startLine, target']
          exact untouched_sublist_above ending front message (ahead _ List.mem_cons_self) inside
            (ih on' ordered' lower covered')
      | @instead first last text message upright inside =>
          have lower : ∀ other ∈ rest, last < other.startLine := by
            intro other member
            rcases below other member with lower | ⟨line', target, -⟩
            · exact lower
            · cases target
          have next : ∀ other ∈ (rest.map (ranged (LineIndex.ofSource source))).head?,
              offset source (last + 1) ≤ other.start ∧ isBoundary other.start source = true := by
            intro other head
            obtain ⟨edit', member, rfl⟩ := List.mem_map.1 (List.mem_of_mem_head? head)
            rw [(on' edit' member).start_eq]
            exact ⟨offset_le source (lower edit' member), isBoundary_offset source _⟩
          exact untouched_sublist_instead ending text message (ahead _ List.mem_cons_self) upright
            inside (covered _ List.mem_cons_self _ rfl) next (ih on' ordered' lower covered')

theorem above_of_apart {source : Text} {edit other : Edit} (on : OnLines source edit)
    (on' : OnLines source other)
    (le : (ranged (LineIndex.ofSource source) edit).start ≤
      (ranged (LineIndex.ofSource source) other).start)
    (apart : Above edit other ∨ Above other edit) : Above edit other := by
  rcases apart with above | lower | ⟨line, target, target'⟩
  · exact above
  · have upright := on.upright
    have upright' := on'.upright
    rw [on.start_eq, on'.start_eq] at le
    have before : offset source other.startLine < offset source edit.startLine :=
      offset_lt (by omega) (by omega)
    omega
  · exact .inr ⟨line, target', target⟩

theorem ranged_edit (index : LineIndex) (edit : Edit) : (ranged index edit).edit = edit := by
  unfold ranged
  split <;> rfl

theorem exists_ordered {index : LineIndex} {edits : List Edit} {listed : List (RangedEdit × Nat)}
    (listing : IsListing (edits.map (ranged index)) listed) :
    ∃ ordered : List Edit, ordered.Perm edits ∧ ordered.map (ranged index) = listed.map Prod.fst ∧
      ordered.Pairwise fun edit other =>
        (ranged index edit).start ≤ (ranged index other).start := by
  have perm : (listed.map Prod.fst).Perm (edits.map (ranged index)) := by
    have both := listing.1.map Prod.fst
    rwa [List.zipIdx_map_fst] at both
  have same : ((listed.map Prod.fst).map RangedEdit.edit).map (ranged index) =
      listed.map Prod.fst := by
    have each : ∀ entry ∈ listed.map Prod.fst, ranged index entry.edit = id entry := by
      intro entry member
      obtain ⟨edit, -, rfl⟩ := List.mem_map.1 (perm.mem_iff.1 member)
      exact congrArg (ranged index) (ranged_edit index edit)
    rw [List.map_map]
    exact (List.map_congr_left each).trans (List.map_id _)
  refine ⟨(listed.map Prod.fst).map RangedEdit.edit, ?_, same, ?_⟩
  · have back := perm.map RangedEdit.edit
    have undone : (edits.map (ranged index)).map RangedEdit.edit = edits := by
      rw [List.map_map]
      exact List.map_id'' (ranged_edit index) edits
    rwa [undone] at back
  · have sorted : (listed.map Prod.fst).Pairwise fun a b => a.start ≤ b.start := by
      rw [List.pairwise_map]
      exact listing.2.imp (by omega)
    rw [← same, List.pairwise_map] at sorted
    exact sorted

theorem exists_applyEdits_splice {source : Text} {edits : List Edit}
    (on : ∀ edit ∈ edits, OnLines source edit)
    (apart : edits.Pairwise fun edit other => Above edit other ∨ Above other edit) :
    ∃ ordered : List Edit, ordered.Perm edits ∧ ordered.Pairwise Above ∧
      applyEdits source edits = .ok (splice (LineEnding.ofSource source) source 0
        (ordered.map (ranged (LineIndex.ofSource source)))) := by
  by_cases given : edits = []
  · subst given
    refine ⟨[], .refl _, .nil, ?_⟩
    rw [List.map_nil, splice, dropBytes_zero]
    rfl
  obtain ⟨listed, listing, written⟩ :=
    exists_listing (edits.map (ranged (LineIndex.ofSource source)))
  obtain ⟨ordered, order, same, sorted⟩ := exists_ordered listing
  have on' : ∀ edit ∈ ordered, OnLines source edit :=
    fun edit member => on edit (order.mem_iff.1 member)
  have apart' : ordered.Pairwise fun edit other => Above edit other ∨ Above other edit :=
    (order.pairwise_iff fun {edit other} => Or.symm).2 apart
  have inOrder : ordered.Pairwise Above :=
    (sorted.and apart').imp_of_mem fun member member' both =>
      above_of_apart (on' _ member) (on' _ member') both.1 both.2
  have sequence : InSequence (listed.map Prod.fst) := by
    rw [← same, InSequence, List.isChain_map]
    exact (inOrder.imp_of_mem fun member member' above =>
      stop_le_start (on' _ member) (on' _ member') above).isChain
  refine ⟨ordered, order, inOrder, ?_⟩
  rw [same]
  exact applyEdits_splice given (columnsOnBoundaries_of_onLines on)
    (fun edit member => (on edit member).inBounds) listing written sequence

theorem applyEdits_singleton {source : Text} {edit : Edit} (on : OnLines source edit) :
    applyEdits source [edit] =
      .ok (splice (LineEnding.ofSource source) source 0
        [ranged (LineIndex.ofSource source) edit]) := by
  obtain ⟨ordered, order, -, applied⟩ := @exists_applyEdits_splice source [edit]
    (by simpa using on) (List.pairwise_singleton _ _)
  rwa [List.perm_singleton.1 order] at applied

/-- The lines that none of such edits replaces are lines of the result in the same order. -/
theorem applyEdits_onLines {source : Text} {edits : List Edit}
    (on : ∀ edit ∈ edits, OnLines source edit)
    (apart : edits.Pairwise fun edit other => Above edit other ∨ Above other edit) :
    ∃ result, applyEdits source edits = .ok result ∧
      (untouched (edits.filterMap Edit.replaced?) 0 (physicalLines source)).Sublist
        (physicalLines result) := by
  obtain ⟨ordered, order, inOrder, applied⟩ := exists_applyEdits_splice on apart
  refine ⟨_, applied, ?_⟩
  apply untouched_sublist_splice (LineEnding.ofSource source)
    (fun edit member => on edit (order.mem_iff.1 member)) inOrder
    (fun edit _ => Nat.zero_le edit.startLine)
  intro edit member range replaced
  exact List.mem_filterMap.2 ⟨edit, order.mem_iff.1 member, replaced⟩

end DocblockSync.Document
