import DocblockSync.Document.Edit
import DocblockSync.Proofs.PhysicalLines
import Mathlib.Data.List.Chain

/-! Applying edits is one simultaneous splice. Each edit in bounds stands for a byte range of the
unchanged source; listed by position, with edits at one position in the order given, the ranges
leave pieces of the source between them, and the result is those pieces with the edits' texts in
between. The only other outcomes are the error of the first edit out of bounds and an overlap. -/

namespace DocblockSync.Document

open Text

/-- The source has the lines and the column of an edit. -/
def InBounds (index : LineIndex) (edit : Edit) : Prop :=
  match edit.target with
  | .insert line column => ∃ text, index.lineText? line = some text ∧ column ≤ byteLength text
  | .replace startLine endLine => startLine ≤ endLine ∧ endLine < index.lineCount

def boundsError (index : LineIndex) (edit : Edit) : EditError :=
  match edit.target with
  | .insert line column =>
      if line < index.lineCount then .columnOutOfBounds line column
      else .lineOutOfBounds line index.lineCount
  | .replace startLine endLine => .lineOutOfBounds (max endLine startLine) index.lineCount

/-- An edit with its byte range: an insert has an empty one, a replace reaches from the start of its
first line to the end of the text of its last. -/
def ranged (index : LineIndex) (edit : Edit) : RangedEdit :=
  match edit.target with
  | .insert line column =>
      ⟨(index.lineStart? line).getD 0 + column, (index.lineStart? line).getD 0 + column, edit⟩
  | .replace startLine endLine =>
      ⟨(index.lineStart? startLine).getD 0,
        (index.lineStart? endLine).getD 0 + byteLength ((index.lineText? endLine).getD []), edit⟩

/-- The columns that lie inside their line lie between two characters of it. -/
def ColumnsOnBoundaries (source : Text) (edits : List Edit) : Prop :=
  ∀ edit ∈ edits, ∀ line column text, edit.target = .insert line column →
    (LineIndex.ofSource source).lineText? line = some text → column ≤ byteLength text →
      isBoundary column text = true

/-- Edits with their places in a list, ordered by start and then by place. -/
def IsListing (edits : List RangedEdit) (ordered : List (RangedEdit × Nat)) : Prop :=
  ordered.Perm edits.zipIdx ∧
    ordered.Pairwise fun a b => a.1.start < b.1.start ∨ (a.1.start = b.1.start ∧ a.2 < b.2)

/-- No edit of an ordered list reaches into the next. -/
def InSequence (ordered : List RangedEdit) : Prop := ordered.IsChain fun a b => a.stop ≤ b.start

/-- The source from a position on, with the ranges of ordered edits replaced by their texts. -/
def splice (ending : LineEnding) (source : Text) : Nat → List RangedEdit → Text
  | position, [] => dropBytes position source
  | position, edit :: rest =>
      sliceBytes position edit.start source ++
        (ending.normalize edit.edit.text ++ splice ending source edit.stop rest)

theorem resolve_of_inBounds {index : LineIndex} {edit : Edit} (bounds : InBounds index edit) :
    index.resolve edit = .ok (ranged index edit) := by
  obtain ⟨target, inserted⟩ := edit
  cases target with
  | insert line column =>
      obtain ⟨text, found, fits⟩ := bounds
      obtain ⟨line, here, rfl⟩ := Option.map_eq_some_iff.1 found
      have outside : ¬byteLength line.text < column := by omega
      simp [LineIndex.resolve, ranged, LineIndex.lineStart?, here, outside]
  | replace startLine endLine =>
      obtain ⟨order, below⟩ := bounds
      have upright : ¬endLine < startLine := by omega
      have last := List.getElem?_eq_getElem below
      have first := List.getElem?_eq_getElem (Nat.lt_of_le_of_lt order below)
      simp [LineIndex.resolve, ranged, LineIndex.lineStart?, LineIndex.lineText?, upright, first, last]

theorem resolve_of_not_inBounds {index : LineIndex} {edit : Edit} (bounds : ¬InBounds index edit) :
    index.resolve edit = .error (boundsError index edit) := by
  obtain ⟨target, inserted⟩ := edit
  cases target with
  | insert line column =>
      cases here : index.lines[line]? with
      | none =>
          have missing : ¬line < index.lineCount := by
            have := List.getElem?_eq_none_iff.1 here
            unfold LineIndex.lineCount
            omega
          simp [LineIndex.resolve, boundsError, here, missing]
      | some found =>
          have exists_line : line < index.lineCount := (List.getElem?_eq_some_iff.1 here).1
          have outside : byteLength found.text < column := by
            by_contra inside
            exact bounds ⟨found.text, by rw [LineIndex.lineText?, here]; rfl, by omega⟩
          simp [LineIndex.resolve, boundsError, here, outside, exists_line]
  | replace startLine endLine =>
      by_cases upright : endLine < startLine
      · simp [LineIndex.resolve, boundsError, upright]
      · have missing : index.lines[endLine]? = none := by
          apply List.getElem?_eq_none_iff.2
          have : ¬(startLine ≤ endLine ∧ endLine < index.lines.length) := bounds
          omega
        simp only [LineIndex.resolve, boundsError, if_neg upright, missing]
        cases index.lines[startLine]? <;> rfl

theorem isBoundary_start {source : Text} {place : Nat} {line : Line}
    (found : (LineIndex.ofSource source).lines[place]? = some line) :
    isBoundary line.start source = true := by
  obtain ⟨cut, start⟩ := exists_line_cut found
  exact isBoundary_iff.2 ⟨_, _, cut, start.symm⟩

theorem isBoundary_start_add {source : Text} {place column : Nat} {line : Line}
    (found : (LineIndex.ofSource source).lines[place]? = some line)
    (inside : isBoundary column line.text = true) :
    isBoundary (line.start + column) source = true := by
  obtain ⟨cut, start⟩ := exists_line_cut found
  have content : isBoundary column line.content = true :=
    isBoundary_append_left line.terminator inside
  have whole := isBoundary_add ((physicalLines source).take place).flatten
    (isBoundary_append_left ((physicalLines source).drop (place + 1)).flatten content)
  rw [← cut, ← offset, ← start] at whole
  exact whole

theorem ranged_boundaries {source : Text} {edits : List Edit} {edit : Edit}
    (columns : ColumnsOnBoundaries source edits) (member : edit ∈ edits)
    (bounds : InBounds (LineIndex.ofSource source) edit) :
    isBoundary (ranged (LineIndex.ofSource source) edit).start source = true ∧
      isBoundary (ranged (LineIndex.ofSource source) edit).stop source = true ∧
      (ranged (LineIndex.ofSource source) edit).start ≤
        (ranged (LineIndex.ofSource source) edit).stop := by
  unfold InBounds at bounds
  unfold ranged
  split at bounds
  · next place column target =>
      obtain ⟨text, found, fits⟩ := bounds
      have inside := columns edit member place column text target found fits
      obtain ⟨line, here, rfl⟩ := Option.map_eq_some_iff.1 found
      have boundary := isBoundary_start_add here inside
      simp only [LineIndex.lineStart?, here, Option.map_some, Option.getD_some]
      exact ⟨boundary, boundary, Nat.le_refl _⟩
  · next startLine endLine target =>
      obtain ⟨order, below⟩ := bounds
      have first := List.getElem?_eq_getElem (Nat.lt_of_le_of_lt order below)
      have last := List.getElem?_eq_getElem below
      have le := offset_le source order
      rw [← (exists_line_cut first).2, ← (exists_line_cut last).2] at le
      simp only [LineIndex.lineStart?, LineIndex.lineText?, first, last, Option.map_some,
        Option.getD_some]
      exact ⟨isBoundary_start first, isBoundary_start_add last (isBoundary_byteLength _), by omega⟩

/-- Writing ordered edits from the last to the first leaves the source up to any position before
them and splices from there on. -/
theorem foldr_write {ending : LineEnding} {source : Text} {ordered : List RangedEdit}
    {position : Nat}
    (ranges : ∀ edit ∈ ordered, isBoundary edit.start source = true ∧
      isBoundary edit.stop source = true ∧ edit.start ≤ edit.stop)
    (sequence : InSequence ordered) (boundary : isBoundary position source = true)
    (ahead : ∀ edit ∈ ordered.head?, position ≤ edit.start) :
    ordered.foldr (fun edit text => edit.write ending text) source =
      takeBytes position source ++ splice ending source position ordered := by
  induction ordered generalizing position with
  | nil => exact (takeBytes_append_dropBytes position source).symm
  | cons edit rest ih =>
      obtain ⟨start, stop, le⟩ := ranges edit List.mem_cons_self
      have next : ∀ other ∈ rest.head?, edit.stop ≤ other.start :=
        (List.isChain_cons.1 sequence).1
      have behind := ih (fun other member => ranges other (List.mem_cons_of_mem _ member))
        (List.isChain_cons.1 sequence).2 stop next
      have before : position ≤ edit.start := ahead edit rfl
      rw [List.foldr_cons, behind, RangedEdit.write, spliceBytes_takeBytes_append _ _ le start stop,
        splice, ← List.append_assoc (takeBytes position source),
        takeBytes_append_sliceBytes before boundary start]

theorem overlap?_eq_none_iff (edits : List RangedEdit) :
    overlap? edits = none ↔ edits.IsChain fun later earlier => earlier.stop ≤ later.start := by
  fun_induction overlap? edits with
  | case1 later earlier rest reaches =>
      simp only [reduceCtorEq, List.isChain_cons_cons, false_iff]
      omega
  | case2 later earlier rest apart ih =>
      rw [ih, List.isChain_cons_cons]
      simp only [Nat.not_lt] at apart
      simp [apart]
  | case3 edits short =>
      match edits, short with
      | [], _ => simp
      | [edit], _ => simp
      | later :: earlier :: rest, short => exact absurd rfl (short later earlier rest)

theorem exists_listing (edits : List RangedEdit) :
    ∃ ordered, IsListing edits ordered ∧ descending edits = (ordered.map Prod.fst).reverse := by
  let before : RangedEdit → RangedEdit → Bool := fun a b => a.start ≤ b.start
  refine ⟨edits.zipIdx.mergeSort (List.zipIdxLE before), ⟨List.mergeSort_perm _ _, ?_⟩, ?_⟩
  · have sorted : (edits.zipIdx.mergeSort (List.zipIdxLE before)).Pairwise
        fun a b => List.zipIdxLE before a b = true := by
      apply List.pairwise_mergeSort
      · exact List.zipIdxLE_trans fun a b c => by
          simp only [before, decide_eq_true_eq]
          omega
      · exact List.zipIdxLE_total fun a b => by
          simp only [before, Bool.or_eq_true, decide_eq_true_eq]
          omega
    have distinct : (edits.zipIdx.mergeSort (List.zipIdxLE before)).Pairwise
        fun a b => a.2 ≠ b.2 := by
      rw [← List.pairwise_map]
      have perm := (List.mergeSort_perm edits.zipIdx (List.zipIdxLE before)).map Prod.snd
      exact perm.nodup_iff.2 (by rw [List.zipIdx_map_snd]; exact List.nodup_range')
    refine (sorted.and distinct).imp ?_
    rintro ⟨a, i⟩ ⟨b, j⟩ ⟨le, different⟩
    simp only [List.zipIdxLE, before, decide_eq_true_eq] at le different ⊢
    split at le
    · split at le
      · simp only [decide_eq_true_eq] at le
        omega
      · omega
    · simp at le
  · rw [List.mergeSort_zipIdx, descending]

theorem mapM_resolve {index : LineIndex} {edits : List Edit}
    (bounds : ∀ edit ∈ edits, InBounds index edit) :
    edits.mapM index.resolve = .ok (edits.map (ranged index)) := by
  induction edits with
  | nil => rfl
  | cons edit edits ih =>
      have rest := ih fun other member => bounds other (List.mem_cons_of_mem _ member)
      rw [List.mapM_cons, resolve_of_inBounds (bounds edit List.mem_cons_self), rest]
      rfl

theorem mapM_resolve_error {index : LineIndex} {before after : List Edit} {edit : Edit}
    (bounds : ∀ other ∈ before, InBounds index other) (outside : ¬InBounds index edit) :
    (before ++ edit :: after).mapM index.resolve = .error (boundsError index edit) := by
  induction before with
  | nil =>
      rw [List.nil_append, List.mapM_cons, resolve_of_not_inBounds outside]
      rfl
  | cons other before ih =>
      have rest := ih fun other member => bounds other (List.mem_cons_of_mem _ member)
      rw [List.cons_append, List.mapM_cons, resolve_of_inBounds (bounds other List.mem_cons_self),
        rest]
      rfl

theorem applyEdits_eq (source : Text) {edits : List Edit} (given : edits ≠ []) :
    applyEdits source edits =
      (edits.mapM (LineIndex.ofSource source).resolve).bind fun resolved =>
        match overlap? (descending resolved) with
        | some line => .error (.overlapping line)
        | none =>
            match (descending resolved).find? fun e => !e.startsAtBoundary source with
            | some e => .error (insideCharacter e.edit)
            | none =>
                .ok ((descending resolved).foldl
                  (RangedEdit.write (LineEnding.ofSource source)) source) := by
  cases edits with
  | nil => exact absurd rfl given
  | cons edit edits =>
      rw [applyEdits]
      · simp only [bind, Except.bind]
        cases (edit :: edits).mapM (LineIndex.ofSource source).resolve with
        | error error => rfl
        | ok resolved =>
            simp only
            cases overlap? (descending resolved) with
            | some line => rfl
            | none =>
                simp only [pure, Except.pure]
                cases (descending resolved).find? fun e => !e.startsAtBoundary source <;> rfl
      · simp

theorem exists_first_out_of_bounds {index : LineIndex} {edits : List Edit}
    (bounds : ¬∀ edit ∈ edits, InBounds index edit) :
    ∃ before edit after, edits = before ++ edit :: after ∧
      (∀ other ∈ before, InBounds index other) ∧ ¬InBounds index edit := by
  induction edits with
  | nil => exact absurd (by simp) bounds
  | cons edit edits ih =>
      by_cases inside : InBounds index edit
      · have rest : ¬∀ other ∈ edits, InBounds index other :=
          fun all => bounds (List.forall_mem_cons.2 ⟨inside, all⟩)
        obtain ⟨before, other, after, rfl, good, bad⟩ := ih rest
        exact ⟨edit :: before, other, after, rfl, List.forall_mem_cons.2 ⟨inside, good⟩, bad⟩
      · exact ⟨[], edit, edits, rfl, by simp, inside⟩

theorem applyEdits_error {source : Text} {before after : List Edit} {edit : Edit}
    (bounds : ∀ other ∈ before, InBounds (LineIndex.ofSource source) other)
    (outside : ¬InBounds (LineIndex.ofSource source) edit) :
    applyEdits source (before ++ edit :: after) =
      .error (boundsError (LineIndex.ofSource source) edit) := by
  rw [applyEdits_eq source (by simp), mapM_resolve_error bounds outside]
  rfl

theorem inSequence_iff_overlap? {edits : List RangedEdit} {ordered : List (RangedEdit × Nat)}
    (written : descending edits = (ordered.map Prod.fst).reverse) :
    InSequence (ordered.map Prod.fst) ↔ overlap? (descending edits) = none := by
  rw [overlap?_eq_none_iff, written, List.isChain_reverse]
  rfl

theorem applyEdits_overlapping {source : Text} {edits : List Edit}
    {ordered : List (RangedEdit × Nat)} (given : edits ≠ [])
    (bounds : ∀ edit ∈ edits, InBounds (LineIndex.ofSource source) edit)
    (written : descending (edits.map (ranged (LineIndex.ofSource source))) =
      (ordered.map Prod.fst).reverse)
    (clash : ¬InSequence (ordered.map Prod.fst)) :
    ∃ line, applyEdits source edits = .error (.overlapping line) := by
  rw [inSequence_iff_overlap? written, ← ne_eq, Option.ne_none_iff_exists'] at clash
  obtain ⟨line, overlap⟩ := clash
  refine ⟨line, ?_⟩
  rw [applyEdits_eq source given, mapM_resolve bounds]
  simp only [Except.bind, overlap]

theorem applyEdits_of_descending {source : Text} {edits : List Edit}
    {resolved ordered : List RangedEdit} (given : edits ≠ []) (order : descending resolved = ordered)
    (ranges : edits.mapM (LineIndex.ofSource source).resolve = .ok resolved)
    (apart : overlap? ordered = none)
    (inside : ordered.find? (fun e => !e.startsAtBoundary source) = none) :
    applyEdits source edits =
      .ok (ordered.foldl (RangedEdit.write (LineEnding.ofSource source)) source) := by
  rw [applyEdits_eq source given, ranges]
  simp only [Except.bind, order, apart, inside]

/-- Edits in bounds and in sequence give the splice of their listing. -/
theorem applyEdits_splice {source : Text} {edits : List Edit}
    {ordered : List (RangedEdit × Nat)} (given : edits ≠ [])
    (columns : ColumnsOnBoundaries source edits)
    (bounds : ∀ edit ∈ edits, InBounds (LineIndex.ofSource source) edit)
    (listing : IsListing (edits.map (ranged (LineIndex.ofSource source))) ordered)
    (written : descending (edits.map (ranged (LineIndex.ofSource source))) =
      (ordered.map Prod.fst).reverse)
    (sequence : InSequence (ordered.map Prod.fst)) :
    applyEdits source edits =
      .ok (splice (LineEnding.ofSource source) source 0 (ordered.map Prod.fst)) := by
  have ranges : ∀ edit ∈ ordered.map Prod.fst, isBoundary edit.start source = true ∧
      isBoundary edit.stop source = true ∧ edit.start ≤ edit.stop := by
    intro edit member
    have place := (listing.1.map Prod.fst).mem_iff.1 member
    rw [List.zipIdx_map_fst] at place
    obtain ⟨unplaced, held, rfl⟩ := List.mem_map.1 place
    exact ranged_boundaries columns held (bounds unplaced held)
  have inside : (ordered.map Prod.fst).reverse.find? (fun e => !e.startsAtBoundary source) =
      none := by
    rw [List.find?_eq_none]
    intro edit member
    simp [RangedEdit.startsAtBoundary, (ranges edit (List.mem_reverse.1 member)).1]
  have apart := (inSequence_iff_overlap? written).1 sequence
  rw [written] at apart
  rw [applyEdits_of_descending given written (mapM_resolve bounds) apart inside,
    List.foldl_reverse, foldr_write ranges sequence (isBoundary_zero source) (by simp),
    takeBytes_zero, List.nil_append]

/-- Applying edits is simultaneous splicing against the unchanged source. Of edits whose columns
lie between characters, a list is applied exactly when all are in bounds and none reaches into the
next in the listing by start and place; the result is then the splice of that listing. Otherwise
the first edit out of bounds gives its error, or, with all in bounds, there is an overlap. -/
theorem applyEdits_eq_simultaneous_splice (source : Text) (edits : List Edit) (given : edits ≠ [])
    (columns : ColumnsOnBoundaries source edits) :
    ∃ ordered, IsListing (edits.map (ranged (LineIndex.ofSource source))) ordered ∧
      ((∃ result, applyEdits source edits = .ok result) ↔
        (∀ edit ∈ edits, InBounds (LineIndex.ofSource source) edit) ∧
          InSequence (ordered.map Prod.fst)) ∧
      (∀ result, applyEdits source edits = .ok result →
        result = splice (LineEnding.ofSource source) source 0 (ordered.map Prod.fst)) ∧
      (∀ before edit after, edits = before ++ edit :: after →
        (∀ other ∈ before, InBounds (LineIndex.ofSource source) other) →
        ¬InBounds (LineIndex.ofSource source) edit →
          applyEdits source edits = .error (boundsError (LineIndex.ofSource source) edit)) ∧
      ((∀ edit ∈ edits, InBounds (LineIndex.ofSource source) edit) →
        ¬InSequence (ordered.map Prod.fst) →
          ∃ line, applyEdits source edits = .error (.overlapping line)) := by
  obtain ⟨ordered, listing, written⟩ :=
    exists_listing (edits.map (ranged (LineIndex.ofSource source)))
  have applied := fun bounds sequence =>
    applyEdits_splice given columns bounds listing written sequence
  have success : ∀ result, applyEdits source edits = .ok result →
      (∀ edit ∈ edits, InBounds (LineIndex.ofSource source) edit) ∧
        InSequence (ordered.map Prod.fst) := by
    intro result done
    by_cases bounds : ∀ edit ∈ edits, InBounds (LineIndex.ofSource source) edit
    · refine ⟨bounds, ?_⟩
      by_contra clash
      obtain ⟨line, failed⟩ := applyEdits_overlapping given bounds written clash
      rw [failed] at done
      cases done
    · obtain ⟨before, edit, after, rfl, inside, outside⟩ := exists_first_out_of_bounds bounds
      rw [applyEdits_error inside outside] at done
      cases done
  refine ⟨ordered, listing, ⟨fun ⟨result, done⟩ => success result done, ?_⟩, ?_, ?_, ?_⟩
  · rintro ⟨bounds, sequence⟩
    exact ⟨_, applied bounds sequence⟩
  · intro result done
    obtain ⟨bounds, sequence⟩ := success result done
    rw [applied bounds sequence] at done
    exact (Except.ok.inj done).symm
  · rintro before edit after rfl inside outside
    exact applyEdits_error inside outside
  · intro bounds clash
    exact applyEdits_overlapping given bounds written clash

theorem applyEdits_eq_simultaneous_splice_shared_position :
    ∃ ordered, IsListing ([(⟨.insert 0 2, ['x', '\n'], []⟩ : Edit), ⟨.replace 1 1, ['c'], []⟩,
        ⟨.insert 0 2, ['y'], []⟩].map
          (ranged (LineIndex.ofSource ['é', '\r', '\n', 'b']))) ordered ∧
      splice .crlf ['é', '\r', '\n', 'b'] 0 (ordered.map Prod.fst) =
        ['é', 'x', '\r', '\n', 'y', '\r', '\n', 'c'] := by
  have order : descending [⟨2, 2, ⟨.insert 0 2, ['x', '\n'], []⟩⟩, ⟨4, 5, ⟨.replace 1 1, ['c'], []⟩⟩,
      ⟨2, 2, ⟨.insert 0 2, ['y'], []⟩⟩] = [⟨4, 5, ⟨.replace 1 1, ['c'], []⟩⟩,
        ⟨2, 2, ⟨.insert 0 2, ['y'], []⟩⟩, ⟨2, 2, ⟨.insert 0 2, ['x', '\n'], []⟩⟩] := by
    simp [descending, List.mergeSort, List.MergeSort.Internal.splitInTwo]
  have applied : applyEdits ['é', '\r', '\n', 'b'] [⟨.insert 0 2, ['x', '\n'], []⟩,
      ⟨.replace 1 1, ['c'], []⟩, ⟨.insert 0 2, ['y'], []⟩] =
      .ok ['é', 'x', '\r', '\n', 'y', '\r', '\n', 'c'] := by
    rw [applyEdits_of_descending (by simp) order rfl rfl rfl]
    rfl
  obtain ⟨ordered, listing, -, result, -⟩ :=
    applyEdits_eq_simultaneous_splice ['é', '\r', '\n', 'b'] [⟨.insert 0 2, ['x', '\n'], []⟩,
      ⟨.replace 1 1, ['c'], []⟩, ⟨.insert 0 2, ['y'], []⟩] (by simp) (by
        intro edit member line column text target found fits
        have place : line = 0 ∧ column = 2 := by
          simp only [List.mem_cons, List.not_mem_nil, or_false] at member
          rcases member with rfl | rfl | rfl <;> simp_all
        obtain ⟨rfl, rfl⟩ := place
        have content : (LineIndex.ofSource ['é', '\r', '\n', 'b']).lineText? 0 = some ['é'] := by
          decide
        rw [content, Option.some.injEq] at found
        subst found
        decide)
  exact ⟨ordered, listing, (result _ applied).symm⟩

end DocblockSync.Document
