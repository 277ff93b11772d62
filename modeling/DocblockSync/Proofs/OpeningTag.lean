import DocblockSync.Proofs.AppliedEdits
import DocblockSync.Proofs.DocblockOwners
import DocblockSync.Proofs.Trimming
import DocblockSync.Proofs.WrittenLines

/-! What stands before the opening tag. A docblock is put in above the line on which its declaration
starts, whatever else stands on that line. A source that begins with the opening tag keeps the tag
in front exactly as long as no documented declaration starts on the tag's own line; one that does
gets its docblock ahead of the tag, where the text is output and no comment. -/

namespace DocblockSync

open Text Docblock Document

def openingTag : Text := ['<', '?', 'p', 'h', 'p']

def Options.documents (options : Options) (declaration : Declaration) : Bool :=
  declaration.kind != .property || options.documentProperties

namespace Text

theorem exists_splitOn_cons {head : Text} (single : '\n' ∉ head) (t : Text) :
    ∃ segment segments, (head ++ t).splitOn '\n' = (head ++ segment) :: segments := by
  induction head with
  | nil =>
      obtain ⟨segment, segments, split⟩ := List.exists_cons_of_ne_nil (List.splitOn_ne_nil '\n' t)
      exact ⟨segment, segments, split⟩
  | cons c head ih =>
      rw [List.mem_cons, not_or] at single
      obtain ⟨segment, segments, split⟩ := ih single.2
      have differs : ¬(c == '\n') = true := by simpa using Ne.symm single.1
      refine ⟨segment, segments, ?_⟩
      rw [List.cons_append, List.splitOn_cons_eq_if_modifyHead, if_neg differs, split]
      rfl

theorem exists_lines_cons {source : Text} (opens : startsWith openingTag source = true) :
    ∃ first rest, lines source = ('<' :: first) :: rest := by
  obtain ⟨t, rfl⟩ := startsWith_iff.1 opens
  obtain ⟨segment, segments, split⟩ := exists_splitOn_cons (show '\n' ∉ openingTag by decide) t
  rw [lines, split]
  cases segments with
  | nil => exact ⟨_, _, rfl⟩
  | cons next segments =>
      have head : (cutReturn (openingTag ++ segment)).1 =
          '<' :: (cutReturn (['?', 'p', 'h', 'p'] ++ segment)).1 :=
        cutReturn_cons (fun back => absurd back (by decide))
      refine ⟨(cutReturn (['?', 'p', 'h', 'p'] ++ segment)).1, linesOfSegments (next :: segments), ?_⟩
      rw [linesOfSegments, head]
      simp

end Text

namespace Document

theorem exists_first_line {source : Text} (opens : startsWith openingTag source = true) :
    ∃ rest, ((physicalLines source).take 1).flatten = openingTag ++ rest := by
  obtain ⟨t, rfl⟩ := startsWith_iff.1 opens
  obtain ⟨segment, segments, split⟩ := exists_splitOn_cons (show '\n' ∉ openingTag by decide) t
  rw [physicalLines_eq, split]
  cases segments with
  | nil => exact ⟨segment, by simp [terminated]⟩
  | cons next segments => exact ⟨segment ++ ['\n'], by simp [terminated]⟩

theorem exists_first_line_kept {source result : Text} {edits : List Edit}
    (on : ∀ edit ∈ edits, OnLines source edit) (applied : applyEdits source edits = .ok result)
    (below : ∀ edit ∈ edits, edit.startLine ≠ 0) :
    ∃ rest, result = ((physicalLines source).take 1).flatten ++ rest := by
  obtain ⟨ordered, order, -, rfl⟩ := exists_splice_of_applyEdits applied
  have ahead : ∀ entry ∈ (ordered.map (ranged (LineIndex.ofSource source))).head?,
      offset source 1 ≤ entry.start ∧ isBoundary entry.start source = true := by
    intro entry head
    obtain ⟨edit, member, rfl⟩ := List.mem_map.1 (List.mem_of_mem_head? head)
    have listed := order.mem_iff.1 member
    rw [(on edit listed).start_eq]
    exact ⟨offset_le source (Nat.one_le_iff_ne_zero.2 (below edit listed)),
      isBoundary_offset source _⟩
  rw [splice_advance (LineEnding.ofSource source) (Nat.zero_le _) (isBoundary_zero source)
    (isBoundary_offset source 1) ahead]
  have first := sliceBytes_offset source 0 1
  rw [offset_zero, Nat.zero_add, List.drop_zero] at first
  exact ⟨_, by rw [first]⟩

theorem exists_text_in_front {source result : Text} {edits : List Edit}
    (on : ∀ edit ∈ edits, OnLines source edit) (applied : applyEdits source edits = .ok result)
    {edit : Edit} (member : edit ∈ edits) (top : edit.startLine = 0) :
    ∃ front ∈ edits, front.startLine = 0 ∧
      ∃ rest, result = (LineEnding.ofSource source).normalize front.text ++ rest := by
  obtain ⟨ordered, order, sorted, rfl⟩ := exists_splice_of_applyEdits applied
  cases ordered with
  | nil => simp [← order.mem_iff] at member
  | cons front rest =>
      have listed : front ∈ edits := order.mem_iff.1 List.mem_cons_self
      have start : offset source front.startLine ≤ 0 := by
        rcases List.mem_cons.1 (order.mem_iff.2 member) with same | later
        · rw [← same, top, offset_zero]
        · have before := (List.pairwise_cons.1 sorted).1 edit later
          rwa [(on front listed).start_eq, (on edit member).start_eq, top, offset_zero] at before
      have first : front.startLine = 0 := by
        by_contra below
        have bounds := (on front listed).upright
        have later : offset source 0 < offset source front.startLine :=
          offset_lt (by omega) (by omega)
        omega
      refine ⟨front, listed, first, splice (LineEnding.ofSource source) source
        (ranged (LineIndex.ofSource source) front).stop
        (rest.map (ranged (LineIndex.ofSource source))), ?_⟩
      rw [List.map_cons, splice, (on front listed).start_eq, first, offset_zero, ranged_edit,
        sliceBytes, Nat.sub_self, takeBytes_zero, List.nil_append]

theorem exists_normalize_cons (ending : LineEnding) {c : Char} (plain : c ≠ '\n' ∧ c ≠ '\r')
    (t : Text) : ∃ rest, ending.normalize (c :: t) = c :: rest := by
  cases ending with
  | lf => exact ⟨t, rfl⟩
  | crlf =>
      refine ⟨toCrlf t, ?_⟩
      rw [LineEnding.normalize, toCrlf]
      · exact fun tail back _ => plain.2 back
      · exact plain.1

end Document

namespace PlanContext

theorem exists_text_of_asks {context : PlanContext} {declaration : Declaration} {edit : Edit}
    (bare : existingDocblock? context.lines declaration.startLine = none)
    (asked : context.asks declaration = .ok (some edit)) :
    edit.startLine = declaration.startLine ∧
      ∃ rest, edit.text = context.padding declaration.startLine ++ (opener ++ rest) := by
  have laid : ∀ (first : Text) (lines : List Text), ∃ rest,
      joinLines (first :: lines) ++ ['\n'] = first ++ rest := by
    intro first lines
    cases lines with
    | nil => exact ⟨['\n'], by rw [joinLines_singleton]⟩
    | cons next lines =>
        exact ⟨'\n' :: (joinLines (next :: lines) ++ ['\n']), by
          rw [joinLines_cons _ (by simp)]; simp⟩
  unfold asks at asked
  simp only [bare, Option.isSome_none, Bool.or_false] at asked
  split at asked
  · split at asked
    · cases asked
    · obtain rfl := Option.some.inj (Except.ok.inj asked)
      obtain ⟨rest, same⟩ := laid (context.padding declaration.startLine ++ opener) _
      exact ⟨rfl, rest, by rw [← List.append_assoc, ← same]; rfl⟩
  · rw [docblockEdit?_eq] at asked
    cases names : context.settingsNames declaration with
    | error failure =>
        rw [names] at asked
        cases asked
    | ok settings =>
        rw [names] at asked
        obtain rfl := Option.some.inj (Except.ok.inj asked)
        obtain ⟨rest, same⟩ := laid (context.padding declaration.startLine ++ opener) _
        exact ⟨rfl, rest, by rw [← List.append_assoc, ← same]; rfl⟩

section FirstLine

variable {context : PlanContext} {first : Text} {rest : List Text}
  (head : context.lines = ('<' :: first) :: rest)

include head

theorem first_ne_zero {startLine : Nat} {range : LineRange}
    (found : existingDocblock? context.lines startLine = some range) : range.first ≠ 0 := by
  intro top
  have slice : ∃ others, range.slice context.lines = ('<' :: first) :: others := by
    rw [LineRange.slice, top, head]
    exact ⟨_, rfl⟩
  obtain ⟨others, slice⟩ := slice
  have looks := (foundAbove found).looks
  rw [slice] at looks
  have opens : startsWith opener (trim ('<' :: first)) = true := by
    cases looks <;> assumption
  obtain ⟨tail, same⟩ := startsWith_iff.1 opens
  obtain ⟨cut, whole⟩ := trimEnd_isPrefix ('<' :: first)
  rw [trim, trimStart_cons_of_not_blank (by decide)] at same
  rw [same] at whole
  exact absurd (List.cons.inj whole).1 (by decide)

theorem padding_zero : context.padding 0 = [] := by
  rw [padding, head]
  exact List.takeWhile_cons_of_neg (by decide)

theorem exists_asks_of_first_line {declaration : Declaration} (top : declaration.startLine = 0) :
    existingDocblock? context.lines declaration.startLine = none ∧
      ∃ edit, context.asks declaration = .ok edit ∧
        (edit = none ↔ declaration.kind = .property ∧ context.documentProperties = false) := by
  have bare : existingDocblock? context.lines declaration.startLine = none := by
    rw [top]
    rfl
  refine ⟨bare, ?_⟩
  have upright : declaration.startLine ≤ declaration.endLine := by omega
  obtain ⟨settings, read⟩ := exists_settingsNames context upright (by rw [top, head]; simp)
  unfold asks
  simp only [bare, docblockEdit?_eq, read]
  by_cases property : declaration.kind = .property
  · cases wanted : context.documentProperties <;> simp [property]
  · rw [if_neg property]
    exact ⟨_, rfl, by simp [property]⟩

end FirstLine

end PlanContext

section OpeningTag

theorem onLines_of_plan {source : Text} {options : Options} {descriptions : Descriptions}
    {declarations : List Declaration} {edits : List Edit}
    (planned : (planContext source options descriptions).plan declarations = .ok edits) :
    ∀ edit ∈ edits, OnLines source edit := by
  intro edit member
  obtain ⟨declaration, -, inside, placed⟩ := PlanContext.exists_placed_of_mem_plan planned member
  exact placed.onLines rfl inside

variable {outline : List Outline} {source result : Text} {options : Options}
  {descriptions : Descriptions} {edits : List Edit}
  (opens : startsWith openingTag source = true)
  (planned : (planContext source options descriptions).plan (Outline.forestDeclarations outline) =
    .ok edits)

include opens planned

theorem exists_edit_on_first_line_iff :
    (∃ edit ∈ edits, edit.startLine = 0) ↔
      ∃ declaration ∈ Outline.forestDeclarations outline,
        options.documents declaration = true ∧ declaration.startLine = 0 := by
  obtain ⟨first, rest, head⟩ := exists_lines_cons opens
  replace head : (planContext source options descriptions).lines = ('<' :: first) :: rest := head
  constructor
  · rintro ⟨edit, member, top⟩
    obtain ⟨declaration, listed, -, asked, -⟩ := (PlanContext.mem_plan_iff planned edit).1 member
    have start : declaration.startLine = 0 := by
      cases PlanContext.asks_placed asked with
      | insert bare => exact top
      | replace found => exact absurd top (PlanContext.first_ne_zero head found)
    obtain ⟨-, edit', asked', none⟩ := PlanContext.exists_asks_of_first_line head start
    refine ⟨declaration, listed, ?_, start⟩
    rw [asked, Except.ok.injEq] at asked'
    subst asked'
    simpa [Options.documents, planContext, imp_iff_not_or] using none
  · rintro ⟨declaration, listed, documented, start⟩
    obtain ⟨bare, edit, asked, none⟩ := PlanContext.exists_asks_of_first_line head start
    cases edit with
    | none => simp_all [Options.documents, planContext]
    | some edit =>
        refine ⟨edit, (PlanContext.mem_plan_iff planned edit).2 ⟨declaration, listed, ?_, asked, ?_⟩,
          (PlanContext.exists_text_of_asks bare asked).1.trans start⟩
        · rw [start, head]
          simp
        · intro range found
          rw [bare] at found
          cases found

theorem startsWith_opener_of_edit (applied : applyEdits source edits = .ok result)
    (above : ∃ edit ∈ edits, edit.startLine = 0) : ∃ rest, result = '/' :: rest := by
  obtain ⟨first, rest, head⟩ := exists_lines_cons opens
  obtain ⟨edit, member, top⟩ := above
  obtain ⟨front, listed, start, tail, rfl⟩ :=
    exists_text_in_front (onLines_of_plan planned) applied member top
  obtain ⟨declaration, -, -, asked, -⟩ := (PlanContext.mem_plan_iff planned front).1 listed
  cases PlanContext.asks_placed asked with
  | replace found => exact absurd start (PlanContext.first_ne_zero head found)
  | insert bare =>
      replace start : declaration.startLine = 0 := start
      obtain ⟨-, text, written⟩ := PlanContext.exists_text_of_asks bare asked
      rw [start, PlanContext.padding_zero head, List.nil_append] at written
      obtain ⟨more, same⟩ := exists_normalize_cons (LineEnding.ofSource source)
        (show '/' ≠ '\n' ∧ '/' ≠ '\r' by decide) (['*', '*'] ++ text)
      rw [written]
      exact ⟨more ++ tail, by rw [opener, List.cons_append, same]; rfl⟩

end OpeningTag

/-- Documenting a source that begins with the opening tag, whatever its outline, leaves the tag in
front exactly when no declaration that gets a docblock starts on the tag's line. -/
theorem documented_source_opens_iff (outline : List Outline) (source : Text) (options : Options)
    (descriptions : Descriptions) (edits : List Edit) (result : Text)
    (opens : startsWith openingTag source = true) (valid : options.validate = .ok ())
    (planned : generateFrom outline source options descriptions = .ok edits)
    (applied : applyEdits source edits = .ok result) :
    startsWith openingTag result = true ↔
      ∀ declaration ∈ Outline.forestDeclarations outline, options.documents declaration = true →
        declaration.startLine ≠ 0 := by
  rw [generateFrom_eq_ok_iff outline source options descriptions valid] at planned
  have above := exists_edit_on_first_line_iff opens planned
  constructor
  · intro kept declaration listed documented start
    obtain ⟨rest, rfl⟩ := startsWith_opener_of_edit opens planned applied
      (above.2 ⟨declaration, listed, documented, start⟩)
    exact absurd kept (by simp [openingTag, startsWith])
  · intro below
    obtain ⟨rest, rfl⟩ := exists_first_line_kept (onLines_of_plan planned) applied (by
      intro edit member top
      obtain ⟨declaration, listed, documented, start⟩ := above.1 ⟨edit, member, top⟩
      exact below declaration listed documented start)
    obtain ⟨more, same⟩ := exists_first_line opens
    rw [same, List.append_assoc]
    exact startsWith_append _ _

theorem documented_source_opens_iff_second_line :
    ∃ edits result,
      generate "<?php\nclass A \x7b\x7d".toList {} .empty = .ok edits ∧
      applyEdits "<?php\nclass A \x7b\x7d".toList edits = .ok result ∧
      startsWith openingTag result = true := by
  have planned : generate "<?php\nclass A \x7b\x7d".toList {} .empty = .ok
      [⟨.insert 1 0, "/**\n * class A\n */\n".toList, "Add docblock for class A".toList⟩] := by
    decide +kernel
  have applied : applyEdits "<?php\nclass A \x7b\x7d".toList
      [⟨.insert 1 0, "/**\n * class A\n */\n".toList, "Add docblock for class A".toList⟩] =
      .ok "<?php\n/**\n * class A\n */\nclass A \x7b\x7d".toList := by
    decide +kernel
  exact ⟨_, _, planned, applied, (documented_source_opens_iff _ _ _ _ _ _ (by decide) (by decide)
    planned applied).2 (by decide +kernel)⟩

/-- A class on the line of the opening tag gets its docblock ahead of the tag. -/
theorem docblock_written_before_tag :
    startsWith openingTag "<?php class A \x7b\x7d".toList = true ∧
      document "<?php class A \x7b\x7d".toList {} .empty =
        .ok "/**\n * class A\n */\n<?php class A \x7b\x7d".toList ∧
      startsWith openingTag "/**\n * class A\n */\n<?php class A \x7b\x7d".toList = false := by
  refine ⟨by decide, ?_, by decide⟩
  decide +kernel

end DocblockSync
