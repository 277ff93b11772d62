import DocblockSync.Proofs.LineEdits
import Mathlib.Data.List.Nodup

/-! Edits that have been applied, whatever they are. If applying succeeds, every edit was in bounds
and every column between two characters, and the result is the splice of the edits by position.
Edits with different positions have one order by position only, so for them the order in which
they are given plays no part. -/

namespace DocblockSync.Document

open Text

theorem inBounds_of_applied {source result : Text} {edits : List Edit}
    (applied : applyEdits source edits = .ok result) :
    ∀ edit ∈ edits, InBounds (LineIndex.ofSource source) edit := by
  by_contra bounds
  obtain ⟨before, edit, after, rfl, inside, outside⟩ := exists_first_out_of_bounds bounds
  rw [applyEdits_error inside outside] at applied
  cases applied

theorem mem_descending {edits : List RangedEdit} {entry : RangedEdit} :
    entry ∈ descending edits ↔ entry ∈ edits := by
  rw [descending, List.mem_reverse, List.mem_mergeSort]

theorem isBoundary_start_of_applied {source result : Text} {edits : List Edit} {edit : Edit}
    (applied : applyEdits source edits = .ok result) (member : edit ∈ edits) :
    isBoundary (ranged (LineIndex.ofSource source) edit).start source = true := by
  have bounds := inBounds_of_applied applied
  rw [applyEdits_eq source (List.ne_nil_of_mem member), mapM_resolve bounds] at applied
  simp only [Except.bind] at applied
  split at applied
  · cases applied
  split at applied
  · cases applied
  · next none =>
      have start := List.find?_eq_none.1 none _ (mem_descending.2 (List.mem_map_of_mem member))
      simpa [RangedEdit.startsAtBoundary] using start

theorem columnsOnBoundaries_of_applied {source result : Text} {edits : List Edit}
    (applied : applyEdits source edits = .ok result) : ColumnsOnBoundaries source edits := by
  intro edit member place column text target found fits
  obtain ⟨line, here, rfl⟩ := Option.map_eq_some_iff.1 found
  have boundary := isBoundary_start_of_applied applied member
  obtain ⟨cut, start⟩ := exists_line_cut here
  simp only [ranged, target, LineIndex.lineStart?, here, Option.map_some, Option.getD_some]
    at boundary
  rw [start, offset] at boundary
  generalize ((physicalLines source).take place).flatten = front at cut boundary
  rw [cut, Line.content, List.append_assoc] at boundary
  exact isBoundary_of_append fits boundary

theorem exists_splice_of_applyEdits {source result : Text} {edits : List Edit}
    (applied : applyEdits source edits = .ok result) :
    ∃ ordered : List Edit, ordered.Perm edits ∧
      ordered.Pairwise (fun edit other => (ranged (LineIndex.ofSource source) edit).start ≤
        (ranged (LineIndex.ofSource source) other).start) ∧
      result = splice (LineEnding.ofSource source) source 0
        (ordered.map (ranged (LineIndex.ofSource source))) := by
  by_cases given : edits = []
  · subst given
    refine ⟨[], .refl _, .nil, ?_⟩
    rw [List.map_nil, splice, dropBytes_zero]
    exact (Except.ok.inj applied).symm
  have bounds := inBounds_of_applied applied
  have columns := columnsOnBoundaries_of_applied applied
  obtain ⟨listed, listing, written⟩ :=
    exists_listing (edits.map (ranged (LineIndex.ofSource source)))
  obtain ⟨ordered, order, same, sorted⟩ := exists_ordered listing
  have sequence : InSequence (listed.map Prod.fst) := by
    by_contra clash
    obtain ⟨line, failed⟩ := applyEdits_overlapping given bounds written clash
    rw [failed] at applied
    cases applied
  rw [applyEdits_splice given columns bounds listing written sequence] at applied
  exact ⟨ordered, order, sorted, by rw [same]; exact (Except.ok.inj applied).symm⟩

theorem mergeSort_start_sorted (edits : List RangedEdit) :
    (edits.mergeSort fun a b => a.start ≤ b.start).Pairwise fun a b => a.start ≤ b.start := by
  have sorted : (edits.mergeSort fun a b => a.start ≤ b.start).Pairwise
      fun a b => decide (a.start ≤ b.start) = true := by
    apply List.pairwise_mergeSort
    · intro a b c
      simp only [decide_eq_true_eq]
      omega
    · intro a b
      simp only [Bool.or_eq_true, decide_eq_true_eq]
      omega
  exact sorted.imp of_decide_eq_true

theorem descending_eq_of_perm {first second : List RangedEdit} (perm : first.Perm second)
    (apart : (first.map RangedEdit.start).Nodup) : descending first = descending second := by
  rw [descending, descending, List.reverse_inj]
  refine List.Perm.eq_of_pairwise (fun a b here there le ge => ?_) (mergeSort_start_sorted first)
    (mergeSort_start_sorted second)
    ((List.mergeSort_perm first _).trans (perm.trans (List.mergeSort_perm second _).symm))
  have member : b ∈ first := perm.mem_iff.2 (List.mem_mergeSort.1 there)
  exact List.inj_on_of_nodup_map apart (List.mem_mergeSort.1 here) member (Nat.le_antisymm le ge)

theorem applied_or_overlapping {source : Text} {edits : List Edit}
    (bounds : ∀ edit ∈ edits, InBounds (LineIndex.ofSource source) edit)
    (columns : ColumnsOnBoundaries source edits) :
    (∃ result, applyEdits source edits = .ok result) ∨
      ∃ line, applyEdits source edits = .error (.overlapping line) := by
  by_cases given : edits = []
  · subst given
    exact .inl ⟨source, rfl⟩
  obtain ⟨ordered, listing, written⟩ :=
    exists_listing (edits.map (ranged (LineIndex.ofSource source)))
  by_cases sequence : InSequence (ordered.map Prod.fst)
  · exact .inl ⟨_, applyEdits_splice given columns bounds listing written sequence⟩
  · exact .inr (applyEdits_overlapping given bounds written sequence)

/-- The order in which edits are given does not matter unless two of them start at one position:
any other order gives the same text, or the same overlap. -/
theorem edit_order_immaterial (source : Text) (edits others : List Edit) (perm : others.Perm edits)
    (bounds : ∀ edit ∈ edits, InBounds (LineIndex.ofSource source) edit)
    (columns : ColumnsOnBoundaries source edits)
    (apart : (edits.map fun edit => (ranged (LineIndex.ofSource source) edit).start).Nodup) :
    applyEdits source others = applyEdits source edits ∧
      ((∃ result, applyEdits source edits = .ok result) ∨
        ∃ line, applyEdits source edits = .error (.overlapping line)) := by
  refine ⟨?_, applied_or_overlapping bounds columns⟩
  by_cases given : edits = []
  · subst given
    rw [perm.eq_nil]
  have others_bounds : ∀ edit ∈ others, InBounds (LineIndex.ofSource source) edit :=
    fun edit member => bounds edit (perm.mem_iff.1 member)
  have others_given : others ≠ [] := by
    rintro rfl
    exact given perm.symm.eq_nil
  have starts : ((edits.map (ranged (LineIndex.ofSource source))).map RangedEdit.start).Nodup := by
    rw [List.map_map]
    exact apart
  have order := descending_eq_of_perm (perm.symm.map (ranged (LineIndex.ofSource source))) starts
  rw [applyEdits_eq source others_given, applyEdits_eq source given, mapM_resolve others_bounds,
    mapM_resolve bounds]
  simp only [Except.bind, order]

theorem edit_order_immaterial_touching :
    applyEdits "é\nb\nc".toList [⟨.insert 2 0, "z".toList, []⟩, ⟨.replace 1 1, "y".toList, []⟩,
        ⟨.insert 0 2, "x\n".toList, []⟩] = .ok "éx\n\ny\nzc".toList ∧
      applyEdits "é\nb\nc".toList [⟨.insert 0 2, "x\n".toList, []⟩, ⟨.replace 1 1, "y".toList, []⟩,
        ⟨.insert 2 0, "z".toList, []⟩] = .ok "éx\n\ny\nzc".toList := by
  have order : descending [⟨2, 2, ⟨.insert 0 2, "x\n".toList, []⟩⟩,
      ⟨3, 4, ⟨.replace 1 1, "y".toList, []⟩⟩, ⟨5, 5, ⟨.insert 2 0, "z".toList, []⟩⟩] =
      [⟨5, 5, ⟨.insert 2 0, "z".toList, []⟩⟩, ⟨3, 4, ⟨.replace 1 1, "y".toList, []⟩⟩,
        ⟨2, 2, ⟨.insert 0 2, "x\n".toList, []⟩⟩] := by
    simp [descending, List.mergeSort, List.MergeSort.Internal.splitInTwo]
  have applied : applyEdits "é\nb\nc".toList [⟨.insert 0 2, "x\n".toList, []⟩,
      ⟨.replace 1 1, "y".toList, []⟩, ⟨.insert 2 0, "z".toList, []⟩] =
      .ok "éx\n\ny\nzc".toList := by
    rw [applyEdits_of_descending (by simp) order rfl rfl rfl]
    rfl
  have same := edit_order_immaterial "é\nb\nc".toList _ [⟨.insert 2 0, "z".toList, []⟩,
    ⟨.replace 1 1, "y".toList, []⟩, ⟨.insert 0 2, "x\n".toList, []⟩] (by decide)
    (inBounds_of_applied applied) (columnsOnBoundaries_of_applied applied) (by decide)
  exact ⟨same.1.trans applied, applied⟩

end DocblockSync.Document
