import DocblockSync.Proofs.AppliedEdits
import DocblockSync.Proofs.WrittenLines

/-! Line endings that last. In a text that ends its lines by carriage returns and line feeds, no edit
comes between the two: it starts and stops within the text of a line, or right before the carriage
return that ends it. The pieces that edits leave of such a source and the texts that are put between
them, whose line feeds are given carriage returns, therefore join to such a text again. -/

namespace DocblockSync.Document

open Text

/-- Every line feed of a text stands behind a carriage return. -/
def IsCrlf (t : Text) : Prop :=
  ∀ front rest, t = front ++ '\n' :: rest → front.getLast? = some '\r'

theorem IsCrlf.append {s t : Text} (first : IsCrlf s) (second : IsCrlf t) : IsCrlf (s ++ t) := by
  intro front rest split
  rcases List.append_eq_append_iff.1 split with ⟨middle, rfl, later⟩ | ⟨middle, earlier, later⟩
  · rw [List.getLast?_append, second middle rest later, Option.some_or]
  · cases middle with
    | nil => exact absurd (second [] rest later.symm) (by simp)
    | cons c middle =>
        obtain ⟨rfl, -⟩ := List.cons.inj later
        exact first front middle earlier

theorem IsCrlf.left {s t : Text} (whole : IsCrlf (s ++ t)) : IsCrlf s := by
  rintro front rest rfl
  exact whole front (rest ++ t) (by simp)

theorem IsCrlf.right {s t : Text} (whole : IsCrlf (s ++ t)) (starts : t.head? ≠ some '\n') :
    IsCrlf t := by
  rintro front rest rfl
  cases front with
  | nil => exact absurd rfl starts
  | cons c front =>
      have last := whole (s ++ c :: front) rest (by simp)
      rwa [List.getLast?_append_of_ne_nil s (List.cons_ne_nil c front)] at last

theorem IsCrlf.head?_ne {t : Text} (crlf : IsCrlf t) : t.head? ≠ some '\n' := by
  intro starts
  obtain ⟨rest, rfl⟩ := List.head?_eq_some_iff.1 starts
  exact absurd (crlf [] rest rfl) (by simp)

theorem isCrlf_singleton {c : Char} (other : c ≠ '\n') : IsCrlf [c] := by
  intro front rest split
  have member : '\n' ∈ [c] := by simp [split]
  exact absurd (List.mem_singleton.1 member).symm other

theorem isCrlf_pair : IsCrlf ['\r', '\n'] := by
  rintro (_ | ⟨c, _ | ⟨d, front⟩⟩) rest split
  · simp at split
  · rw [← (List.cons.inj split).1]
    rfl
  · simp at split

theorem isCrlf_toCrlf (t : Text) : IsCrlf (toCrlf t) := by
  fun_induction toCrlf t with
  | case1 => simp [IsCrlf]
  | case2 t ih => exact isCrlf_pair.append ih
  | case3 t ih => exact isCrlf_pair.append ih
  | case4 c t _ other ih => exact (isCrlf_singleton other).append ih

theorem ofSource_eq_crlf {source : Text} (feed : '\n' ∈ source) (crlf : IsCrlf source) :
    LineEnding.ofSource source = .crlf := by
  obtain ⟨front, rest, rfl⟩ := List.append_of_mem feed
  obtain ⟨start, rfl⟩ := List.getLast?_eq_some_iff.1 (crlf front rest rfl)
  have found : contains ['\r', '\n'] (start ++ ['\r'] ++ '\n' :: rest) = true :=
    contains_iff.2 ⟨start, rest, by simp⟩
  rw [LineEnding.ofSource, if_pos found]

theorem exists_return_of_feed {source front segment rest : Text} (crlf : IsCrlf source)
    (split : source = front ++ (segment ++ '\n' :: rest)) (closed : IsClosed front) :
    ∃ start, segment = start ++ ['\r'] := by
  have last := crlf (front ++ segment) rest (by rw [split, List.append_assoc])
  by_cases empty : segment = []
  · rw [empty, List.append_nil] at last
    rcases closed with rfl | ⟨start, rfl⟩
    · simp at last
    · simp at last
  · rw [List.getLast?_append_of_ne_nil front empty] at last
    exact List.getLast?_eq_some_iff.1 last

theorem head?_terminator_ne {source : Text} {place : Nat} {line : Line} (crlf : IsCrlf source)
    (found : (LineIndex.ofSource source).lines[place]? = some line) :
    (line.terminator ++ ((physicalLines source).drop (place + 1)).flatten).head? ≠ some '\n' := by
  obtain ⟨cut, -⟩ := exists_line_cut found
  obtain ⟨segment, -, text, ended⟩ := exists_segment_of_getElem?_linesFrom found
  by_cases returned : ∃ start, segment = start ++ ['\r']
  · obtain ⟨start, rfl⟩ := returned
    rw [cutReturn_concat] at ended
    rcases ended with ⟨terminator, -⟩ | ⟨terminator, -⟩
    · simp [terminator]
    · simp [terminator]
  · rw [cutReturn_of_not_concat fun start same => returned ⟨start, same⟩] at text ended
    rcases ended with ⟨terminator, -⟩ | ⟨terminator, last⟩
    · have inside : place < (LineIndex.ofSource source).lineCount :=
        (List.getElem?_eq_some_iff.1 found).1
      rw [Line.content, text, terminator] at cut
      exact absurd (exists_return_of_feed crlf (by simpa using cut) (lines_cut inside).2.2) returned
    · have done : (physicalLines source).length ≤ place + 1 := by
        rw [length_physicalLines]
        exact Nat.le_of_eq last.symm
      simp [terminator, List.drop_eq_nil_of_le done]

theorem not_mem_text {source : Text} {place : Nat} {line : Line}
    (found : (LineIndex.ofSource source).lines[place]? = some line) : '\n' ∉ line.text := by
  obtain ⟨segment, member, text, -⟩ := exists_segment_of_getElem?_linesFrom found
  have single := not_mem_of_mem_splitOn member
  rw [← cutReturn_append segment, List.mem_append, not_or, ← text] at single
  exact single.1

theorem head?_dropBytes_line_ne {source : Text} {place column : Nat} {line : Line}
    (crlf : IsCrlf source) (found : (LineIndex.ofSource source).lines[place]? = some line)
    (inside : isBoundary column line.text = true) :
    (dropBytes (line.start + column) source).head? ≠ some '\n' := by
  obtain ⟨cut, start⟩ := exists_line_cut found
  obtain ⟨left, right, split, rfl⟩ := isBoundary_iff.1 inside
  have behind := head?_terminator_ne crlf found
  have single := not_mem_text found
  rw [start, offset, ← byteLength_append]
  generalize ((physicalLines source).take place).flatten = front at cut ⊢
  generalize ((physicalLines source).drop (place + 1)).flatten = rest at cut behind
  have parts : source = (front ++ left) ++ (right ++ (line.terminator ++ rest)) := by
    rw [cut, Line.content, split]
    simp
  rw [parts, dropBytes_append]
  cases right with
  | nil => exact behind
  | cons c right =>
      rw [List.cons_append, List.head?_cons]
      intro same
      exact single (by simp [split, Option.some.inj same])

theorem head?_dropBytes_stop_ne {source : Text} {edits : List Edit} {edit : Edit}
    (crlf : IsCrlf source) (columns : ColumnsOnBoundaries source edits) (member : edit ∈ edits)
    (bounds : InBounds (LineIndex.ofSource source) edit) :
    (dropBytes (ranged (LineIndex.ofSource source) edit).stop source).head? ≠ some '\n' := by
  unfold InBounds at bounds
  unfold ranged
  split at bounds
  · next place column target =>
      obtain ⟨text, found, fits⟩ := bounds
      have inside := columns edit member place column text target found fits
      obtain ⟨line, here, rfl⟩ := Option.map_eq_some_iff.1 found
      simp only [LineIndex.lineStart?, here, Option.map_some, Option.getD_some]
      exact head?_dropBytes_line_ne crlf here inside
  · next startLine endLine target =>
      have last := List.getElem?_eq_getElem bounds.2
      simp only [LineIndex.lineStart?, LineIndex.lineText?, last, Option.map_some,
        Option.getD_some]
      exact head?_dropBytes_line_ne crlf last (isBoundary_byteLength _)

theorem isCrlf_dropBytes {source : Text} {position : Nat} (crlf : IsCrlf source)
    (starts : (dropBytes position source).head? ≠ some '\n') :
    IsCrlf (dropBytes position source) := by
  rw [← takeBytes_append_dropBytes position source] at crlf
  exact crlf.right starts

theorem isCrlf_splice {source : Text} {ordered : List RangedEdit} {position : Nat}
    (crlf : IsCrlf source)
    (stops : ∀ edit ∈ ordered, (dropBytes edit.stop source).head? ≠ some '\n')
    (starts : (dropBytes position source).head? ≠ some '\n') :
    IsCrlf (splice .crlf source position ordered) := by
  induction ordered generalizing position with
  | nil => exact isCrlf_dropBytes crlf starts
  | cons edit rest ih =>
      have behind := isCrlf_dropBytes crlf starts
      rw [← takeBytes_append_dropBytes (edit.start - position) (dropBytes position source)] at behind
      have onward := ih (fun other member => stops other (List.mem_cons_of_mem _ member))
        (stops edit List.mem_cons_self)
      exact behind.left.append ((isCrlf_toCrlf edit.edit.text).append onward)

/-- A source that ends all its lines by carriage returns and line feeds does so after any edits that
apply to it, however their texts end their lines. -/
theorem crlf_source_stays_crlf (source result : Text) (edits : List Edit) (feed : '\n' ∈ source)
    (crlf : IsCrlf source) (applied : applyEdits source edits = .ok result) : IsCrlf result := by
  have columns := columnsOnBoundaries_of_applied applied
  have bounds := inBounds_of_applied applied
  obtain ⟨ordered, order, -, rfl⟩ := exists_splice_of_applyEdits applied
  rw [ofSource_eq_crlf feed crlf]
  apply isCrlf_splice crlf
  · intro entry member
    obtain ⟨edit, listed, rfl⟩ := List.mem_map.1 member
    have given := order.mem_iff.1 listed
    exact head?_dropBytes_stop_ne crlf columns given (bounds edit given)
  · rw [dropBytes_zero]
    exact crlf.head?_ne

theorem crlf_source_stays_crlf_two_returns :
    applyEdits "a\r\r\nb\r\n".toList
        [⟨.replace 1 1, "y\nz".toList, []⟩, ⟨.insert 0 2, "\nx\r\n".toList, []⟩] =
      .ok "a\r\r\nx\r\n\r\ny\r\nz\r\n".toList ∧
    IsCrlf "a\r\r\nx\r\n\r\ny\r\nz\r\n".toList := by
  have order : descending [⟨4, 5, ⟨.replace 1 1, "y\nz".toList, []⟩⟩,
      ⟨2, 2, ⟨.insert 0 2, "\nx\r\n".toList, []⟩⟩] =
      [⟨4, 5, ⟨.replace 1 1, "y\nz".toList, []⟩⟩,
        ⟨2, 2, ⟨.insert 0 2, "\nx\r\n".toList, []⟩⟩] := by
    simp [descending, List.mergeSort, List.MergeSort.Internal.splitInTwo]
  have applied : applyEdits "a\r\r\nb\r\n".toList
      [⟨.replace 1 1, "y\nz".toList, []⟩, ⟨.insert 0 2, "\nx\r\n".toList, []⟩] =
      .ok "a\r\r\nx\r\n\r\ny\r\nz\r\n".toList := by
    rw [applyEdits_of_descending (by simp) order rfl rfl rfl]
    rfl
  have crlf : IsCrlf "a\r\r\nb\r\n".toList := isCrlf_toCrlf "a\r\r\nb\n".toList
  exact ⟨applied, crlf_source_stays_crlf _ _ _ (by decide) crlf applied⟩

end DocblockSync.Document
