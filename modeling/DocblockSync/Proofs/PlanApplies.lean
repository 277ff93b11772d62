import DocblockSync.Generate
import DocblockSync.Proofs.LineEdits
import DocblockSync.Proofs.Planning

/-! A plan always applies. Declarations are planned from the last to the first, each docblock
belongs to one of them, and no declaration starts inside a docblock, so every edit lies above the
ones planned before it. Edits of whole lines that keep apart like this can be made in one go, and
they leave every line alone that they do not replace. -/

namespace DocblockSync.PlanContext

open Text Docblock Document

theorem Placed.onLines {source : Text} {context : PlanContext} {declaration : Declaration}
    {edit : Edit} (same : context.lines = Text.lines source)
    (placed : Placed context declaration edit)
    (inside : declaration.startLine < context.lines.length) : OnLines source edit := by
  have size := length_lines_le source
  rw [← same] at size
  cases placed with
  | @insert body message bare => exact .above (by omega) ⟨joinLines body, rfl⟩
  | @replace range body message found =>
      have facts := foundAbove found
      have last := facts.exists_last
      exact .instead facts.upright (by omega)

theorem Placed.found {context : PlanContext} {declaration : Declaration} {edit : Edit}
    {range : LineRange} (placed : Placed context declaration edit)
    (replaced : edit.replaced? = some range) :
    existingDocblock? context.lines declaration.startLine = some range := by
  cases placed with
  | insert bare => cases replaced
  | replace found =>
      obtain rfl := Option.some.inj replaced
      exact found

/-- No declaration starts on a line of a docblock found for one of them. -/
def StartsOutside (context : PlanContext) (declarations : List Declaration) : Prop :=
  ∀ declaration ∈ declarations, ∀ other ∈ declarations, ∀ range,
    existingDocblock? context.lines other.startLine = some range →
      ¬(range.first ≤ declaration.startLine ∧ declaration.startLine ≤ range.last)

theorem above_of_placed {context : PlanContext} {declaration other : Declaration}
    {edit earlier : Edit}
    (placed : Placed context declaration edit) (placed' : Placed context other earlier)
    (lower : declaration.startLine ≤ other.startLine)
    (outside : ∀ range, existingDocblock? context.lines other.startLine = some range →
      ¬(range.first ≤ declaration.startLine ∧ declaration.startLine ≤ range.last))
    (unclaimed : ∀ range, existingDocblock? context.lines other.startLine = some range →
      existingDocblock? context.lines declaration.startLine ≠ some range) : Above edit earlier := by
  have reach : edit.endLine ≤ declaration.startLine := by
    cases placed with
    | insert bare => exact Nat.le_refl _
    | replace found => exact Nat.le_of_lt (foundAbove found).above
  cases placed' with
  | insert bare' =>
      cases placed with
      | insert bare =>
          rcases Nat.lt_or_eq_of_le lower with less | same
          · exact .inl less
          · exact .inr ⟨other.startLine, by rw [insertAbove, same], rfl⟩
      | replace found => exact .inl (Nat.lt_of_lt_of_le (foundAbove found).above lower)
  | @replace range body message found' =>
      left
      -- Below its docblock only blank lines lead to the lower declaration, so a declaration between
      -- them would have found the same docblock.
      by_contra behind
      apply unclaimed range found'
      apply existingDocblock?_of_between found' _ lower
      have start : range.first ≤ declaration.startLine := by
        simp only [Edit.startLine] at behind
        omega
      have apart := outside range found'
      omega

/-- Along a run from the last declaration to the first, every edit lies above the earlier ones. -/
theorem Reached.pairwise_above {context : PlanContext} {declarations : List Declaration}
    {progress : Progress} (run : Reached context declarations progress)
    (sorted : declarations.Pairwise fun a b => b.startLine ≤ a.startLine)
    (outside : StartsOutside context declarations) :
    progress.edits.Pairwise fun earlier later => Above later earlier := by
  induction run with
  | start => exact .nil
  | @next declarations declaration progress after run step ih =>
      rw [List.pairwise_append] at sorted
      have before := ih sorted.1 fun other member further member' =>
        outside other (List.mem_append_left _ member) further (List.mem_append_left _ member')
      cases step with
      | passed => exact before
      | @planned added inside unclaimed placed =>
          cases added with
          | none => simpa using before
          | some edit =>
              rw [Option.toList_some, List.pairwise_append]
              refine ⟨before, List.pairwise_singleton _ _, ?_⟩
              intro earlier member later member'
              rw [List.mem_singleton.1 member']
              obtain ⟨other, listed, -, placed', claimed⟩ := run.exists_placed earlier member
              refine above_of_placed (placed edit rfl) placed'
                (sorted.2.2 other listed declaration (List.mem_singleton_self _)) ?_ ?_
              · intro range found
                exact outside declaration (by simp) other (List.mem_append_left _ listed) range
                  found
              · intro range found found'
                exact unclaimed range found' (claimed range found)

theorem exists_planNext (context : PlanContext) {declaration : Declaration}
    (upright : declaration.startLine ≤ declaration.endLine) (progress : Progress) :
    ∃ next, context.planNext progress declaration = .ok next := by
  unfold planNext
  split
  · exact ⟨_, rfl⟩
  next inside =>
    obtain ⟨settings, read⟩ := exists_settingsNames context upright (by omega)
    simp only [docblockEdit?_eq, read]
    split
    · exact ⟨_, rfl⟩
    · split
      · split <;> exact ⟨_, rfl⟩
      · exact ⟨_, rfl⟩

theorem exists_foldlM_planNext (context : PlanContext) {declarations : List Declaration}
    (upright : ∀ declaration ∈ declarations, declaration.startLine ≤ declaration.endLine)
    (progress : Progress) : ∃ final, declarations.foldlM context.planNext progress = .ok final := by
  induction declarations generalizing progress with
  | nil => exact ⟨progress, rfl⟩
  | cons declaration rest ih =>
      obtain ⟨next, once⟩ :=
        exists_planNext context (upright declaration List.mem_cons_self) progress
      obtain ⟨final, done⟩ :=
        ih (fun other member => upright other (List.mem_cons_of_mem _ member)) next
      refine ⟨final, ?_⟩
      rw [List.foldlM_cons, once]
      exact done

theorem exists_plan (context : PlanContext) {declarations : List Declaration}
    (upright : ∀ declaration ∈ declarations, declaration.startLine ≤ declaration.endLine) :
    ∃ edits, context.plan declarations = .ok edits := by
  obtain ⟨final, done⟩ := exists_foldlM_planNext context
    (fun declaration member => upright declaration (List.mem_mergeSort.1 member)) {}
  exact ⟨final.edits, by rw [plan, done]; rfl⟩

theorem pairwise_above_of_plan {context : PlanContext} {declarations : List Declaration}
    {edits : List Edit} (outside : StartsOutside context declarations)
    (done : context.plan declarations = .ok edits) :
    edits.Pairwise fun earlier later => Above later earlier := by
  obtain ⟨progress, rfl, run⟩ := reached_of_plan done
  have sorted : (declarations.mergeSort fun a b => b.startLine ≤ a.startLine).Pairwise
      fun a b => decide (b.startLine ≤ a.startLine) = true := by
    apply List.pairwise_mergeSort
    · intro a b c
      simp only [decide_eq_true_eq]
      omega
    · intro a b
      simp only [Bool.or_eq_true, decide_eq_true_eq]
      omega
  apply run.pairwise_above (sorted.imp of_decide_eq_true)
  intro declaration member other member'
  exact outside declaration (List.mem_mergeSort.1 member) other (List.mem_mergeSort.1 member')

/-- Planning declarations that start outside all docblocks gives edits from the last line to the
first, which replace each docblock at most once and only docblocks found for the declarations. The
edits can be made, and every line that they do not replace is a line of the result, in the same
order. -/
theorem plan_applies_cleanly (source : Text) (options : Options) (descriptions : Descriptions)
    (declarations : List Declaration)
    (upright : ∀ declaration ∈ declarations, declaration.startLine ≤ declaration.endLine)
    (outside : StartsOutside (planContext source options descriptions) declarations) :
    ∃ edits result, (planContext source options descriptions).plan declarations = .ok edits ∧
      edits.Pairwise (fun earlier later => later.startLine ≤ earlier.startLine) ∧
      (edits.filterMap Edit.replaced?).Nodup ∧
      (∀ range ∈ edits.filterMap Edit.replaced?, ∃ declaration ∈ declarations,
        existingDocblock? (Text.lines source) declaration.startLine = some range) ∧
      applyEdits source edits = .ok result ∧
      (untouched (edits.filterMap Edit.replaced?) 0 (physicalLines source)).Sublist
        (physicalLines result) := by
  obtain ⟨edits, done⟩ := exists_plan (planContext source options descriptions) upright
  have above := pairwise_above_of_plan outside done
  have on : ∀ edit ∈ edits, OnLines source edit := by
    intro edit member
    obtain ⟨declaration, -, inside, placed⟩ := exists_placed_of_mem_plan done member
    exact placed.onLines rfl inside
  obtain ⟨result, applied, kept⟩ := applyEdits_onLines on (above.imp Or.inr)
  refine ⟨edits, result, done, ?_, ?_, ?_, applied, kept⟩
  · exact above.imp_of_mem fun _ member order => startLine_le_of_above (on _ member) order
  · rw [List.Nodup, List.pairwise_filterMap]
    refine above.imp_of_mem ?_
    intro earlier later _ member order range replaced range' replaced'
    exact (replaced?_ne_of_above (on later member) order replaced' replaced).symm
  · intro range member
    obtain ⟨edit, listed, replaced⟩ := List.mem_filterMap.1 member
    obtain ⟨declaration, given, -, placed⟩ := exists_placed_of_mem_plan done listed
    exact ⟨declaration, given, placed.found replaced⟩

theorem plan_applies_cleanly_shared_line :
    ∃ edits result,
      (planContext "/** a */\nclass A; class B;\n".toList {} .empty).plan
        [{ kind := .classType, name := ['A'], startLine := 1, endLine := 1 },
          { kind := .classType, name := ['B'], startLine := 1, endLine := 1 }] = .ok edits ∧
      applyEdits "/** a */\nclass A; class B;\n".toList edits = .ok result ∧
      (untouched (edits.filterMap Edit.replaced?) 0
        (physicalLines "/** a */\nclass A; class B;\n".toList)).Sublist (physicalLines result) := by
  have lines : Text.lines "/** a */\nclass A; class B;\n".toList =
      ["/** a */".toList, "class A; class B;".toList] := by decide
  have found : existingDocblock? ["/** a */".toList, "class A; class B;".toList] 1 =
      some ⟨0, 0⟩ := by
    decide
  obtain ⟨edits, result, planned, -, -, -, applied, kept⟩ :=
    plan_applies_cleanly "/** a */\nclass A; class B;\n".toList {} .empty
      [{ kind := .classType, name := ['A'], startLine := 1, endLine := 1 },
        { kind := .classType, name := ['B'], startLine := 1, endLine := 1 }] (by simp) (by
          intro declaration member other member' range same
          have first : declaration.startLine = 1 := by aesop
          have second : other.startLine = 1 := by aesop
          rw [second, planContext, lines, found, Option.some.injEq] at same
          rw [first, ← same]
          decide)
  exact ⟨edits, result, planned, applied, kept⟩

end DocblockSync.PlanContext
