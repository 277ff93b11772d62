import DocblockSync.Proofs.DocblockSearch

/-! Planning, one declaration after another. A declaration is passed over or planned, a planned
one adds at most one edit, and that edit either puts a docblock in above the declaration or
replaces the one found there. What a whole plan does follows from its steps. -/

namespace DocblockSync.PlanContext

open Text Docblock Document

/-- An edit that a declaration can ask for. -/
inductive Placed (context : PlanContext) (declaration : Declaration) : Edit → Prop
  | insert {lines : List Text} {message : Text}
      (bare : existingDocblock? context.lines declaration.startLine = none) :
      Placed context declaration (insertAbove declaration lines message)
  | replace {range : LineRange} {lines : List Text} {message : Text}
      (found : existingDocblock? context.lines declaration.startLine = some range) :
      Placed context declaration ⟨.replace range.first range.last, joinLines lines, message⟩

inductive Step (context : PlanContext) (progress : Progress) (declaration : Declaration) :
    Progress → Prop
  | passed : Step context progress declaration progress
  | planned {edit : Option Edit} (inside : declaration.startLine < context.lines.length)
      (unclaimed : ∀ range, existingDocblock? context.lines declaration.startLine = some range →
        range ∉ progress.claimed)
      (placed : ∀ added ∈ edit, Placed context declaration added) :
      Step context progress declaration
        ⟨progress.claimed ++ (existingDocblock? context.lines declaration.startLine).toList,
          progress.edits ++ edit.toList⟩

theorem exists_settingsNames (context : PlanContext) {declaration : Declaration}
    (upright : declaration.startLine ≤ declaration.endLine)
    (inside : declaration.startLine < context.lines.length) :
    ∃ settings, context.settingsNames declaration = .ok settings := by
  have read : ∃ text, context.code declaration = .ok text := by
    unfold PlanContext.code
    rw [if_neg (by omega)]
    exact ⟨_, rfl⟩
  obtain ⟨text, read⟩ := read
  unfold settingsNames
  rw [read]
  split <;> exact ⟨_, rfl⟩

theorem docblockEdit?_eq (context : PlanContext) (declaration : Declaration)
    (existing : Option LineRange) :
    context.docblockEdit? declaration existing =
      (context.settingsNames declaration).map fun settings =>
        match existing with
        | some range =>
            if range.slice context.lines ==
                context.wantedLines declaration settings (some range) then none
            else
              some ⟨.replace range.first range.last,
                joinLines (context.wantedLines declaration settings (some range)),
                "Update docblock for ".toList ++ declaration.title⟩
        | none =>
            some (insertAbove declaration (context.wantedLines declaration settings none)
              ("Add docblock for ".toList ++ declaration.title)) := by
  unfold docblockEdit?
  cases context.settingsNames declaration with
  | error failure => rfl
  | ok settings =>
      cases existing with
      | none => rfl
      | some range =>
          simp only [bind, Except.bind, Except.map]
          split <;> rfl

theorem placed_of_docblockEdit? {context : PlanContext} {declaration : Declaration}
    {edit : Option Edit}
    (done : context.docblockEdit? declaration
      (existingDocblock? context.lines declaration.startLine) = .ok edit) :
    ∀ added ∈ edit, Placed context declaration added := by
  intro added member
  rw [Option.mem_def] at member
  subst member
  rw [docblockEdit?_eq] at done
  cases names : context.settingsNames declaration with
  | error failure =>
      rw [names] at done
      cases done
  | ok settings =>
      rw [names] at done
      replace done := Except.ok.inj done
      cases found : existingDocblock? context.lines declaration.startLine with
      | none =>
          rw [found] at done
          obtain rfl := Option.some.inj done
          exact .insert found
      | some range =>
          simp only [found] at done
          split at done
          · cases done
          · obtain rfl := Option.some.inj done
            exact .replace found

theorem step_of_planNext {context : PlanContext} {progress next : Progress}
    {declaration : Declaration} (done : context.planNext progress declaration = .ok next) :
    Step context progress declaration next := by
  unfold planNext at done
  by_cases inside : context.lines.length ≤ declaration.startLine
  · rw [if_pos inside, Except.ok.injEq] at done
    subst done
    exact .passed
  rw [if_neg inside] at done
  simp only at done
  split at done
  · rw [Except.ok.injEq] at done
    subst done
    exact .passed
  next free =>
    have unclaimed : ∀ range, existingDocblock? context.lines declaration.startLine = some range →
        range ∉ progress.claimed := by
      intro range found claimed
      exact free (by simpa [found] using claimed)
    split at done
    · split at done
      · rw [Except.ok.injEq] at done
        subst done
        have step := @Step.planned context progress declaration none (by omega) unclaimed (by simp)
        rwa [Option.toList_none, List.append_nil] at step
      · next bare =>
          rw [Except.ok.injEq] at done
          subst done
          have none : existingDocblock? context.lines declaration.startLine = none := by
            cases found : existingDocblock? context.lines declaration.startLine with
            | none => rfl
            | some range => simp [found] at bare
          refine @Step.planned context progress declaration
            (some (context.propertyEdit declaration)) (by omega) unclaimed ?_
          intro added member
          rw [Option.mem_some_iff] at member
          subst member
          exact .insert none
    · cases asked : context.docblockEdit? declaration
          (existingDocblock? context.lines declaration.startLine) with
      | error failure =>
          rw [asked] at done
          cases done
      | ok edit =>
          rw [asked] at done
          have done' := Except.ok.inj done
          subst done'
          exact .planned (by omega) unclaimed (placed_of_docblockEdit? asked)

theorem plan_singleton {context : PlanContext} {declaration : Declaration}
    (documented : declaration.kind ≠ .property)
    (inside : declaration.startLine < context.lines.length) :
    context.plan [declaration] =
      (context.docblockEdit? declaration
        (existingDocblock? context.lines declaration.startLine)).map Option.toList := by
  have free : (existingDocblock? context.lines declaration.startLine).any
      (fun range => ([] : List LineRange).contains range) = false := by
    cases existingDocblock? context.lines declaration.startLine <;> rfl
  rw [plan, List.mergeSort_singleton, List.foldlM_cons, planNext, if_neg (by omega)]
  simp only [free, Bool.false_eq_true, if_false, if_neg documented]
  cases context.docblockEdit? declaration
    (existingDocblock? context.lines declaration.startLine) <;> rfl

inductive Reached (context : PlanContext) : List Declaration → Progress → Prop
  | start : Reached context [] {}
  | next {declarations : List Declaration} {declaration : Declaration} {progress after : Progress}
      (run : Reached context declarations progress)
      (step : Step context progress declaration after) :
      Reached context (declarations ++ [declaration]) after

theorem Reached.foldlM {context : PlanContext} {past rest : List Declaration}
    {progress final : Progress} (run : Reached context past progress)
    (done : rest.foldlM context.planNext progress = .ok final) :
    Reached context (past ++ rest) final := by
  induction rest generalizing past progress with
  | nil =>
      have same : progress = final := Except.ok.inj done
      rwa [List.append_nil, ← same]
  | cons declaration rest ih =>
      rw [List.foldlM_cons] at done
      cases once : context.planNext progress declaration with
      | error failure =>
          rw [once] at done
          cases done
      | ok after =>
          rw [once] at done
          have further := ih (run.next (step_of_planNext once)) done
          rwa [List.append_assoc, List.singleton_append] at further

theorem reached_of_plan {context : PlanContext} {declarations : List Declaration}
    {edits : List Edit} (done : context.plan declarations = .ok edits) :
    ∃ progress, progress.edits = edits ∧
      Reached context (declarations.mergeSort fun a b => b.startLine ≤ a.startLine) progress := by
  unfold plan at done
  cases run : (declarations.mergeSort fun a b => b.startLine ≤ a.startLine).foldlM
      context.planNext {} with
  | error failure =>
      rw [run] at done
      cases done
  | ok progress =>
      rw [run] at done
      have reached := Reached.start.foldlM run
      exact ⟨progress, Except.ok.inj done, reached⟩

theorem Reached.exists_placed {context : PlanContext} {declarations : List Declaration}
    {progress : Progress} (run : Reached context declarations progress) :
    ∀ edit ∈ progress.edits, ∃ declaration ∈ declarations,
      declaration.startLine < context.lines.length ∧ Placed context declaration edit ∧
      ∀ range, existingDocblock? context.lines declaration.startLine = some range →
        range ∈ progress.claimed := by
  induction run with
  | start => simp
  | @next declarations declaration progress after run step ih =>
      have earlier : ∀ edit ∈ progress.edits, ∃ other ∈ declarations ++ [declaration],
          other.startLine < context.lines.length ∧ Placed context other edit ∧
          ∀ range, existingDocblock? context.lines other.startLine = some range →
            range ∈ progress.claimed := by
        intro edit member
        obtain ⟨other, listed, facts⟩ := ih edit member
        exact ⟨other, List.mem_append_left _ listed, facts⟩
      cases step with
      | passed => exact earlier
      | @planned added inside unclaimed placed =>
          intro edit member
          rcases List.mem_append.1 member with member | member
          · obtain ⟨other, listed, within, asked, claimed⟩ := earlier edit member
            exact ⟨other, listed, within, asked,
              fun range found => List.mem_append_left _ (claimed range found)⟩
          · refine ⟨declaration, by simp, inside, placed edit (by simpa using member), ?_⟩
            intro range found
            simp [found]

theorem exists_placed_of_mem_plan {context : PlanContext} {declarations : List Declaration}
    {edits : List Edit} (done : context.plan declarations = .ok edits) {edit : Edit}
    (member : edit ∈ edits) :
    ∃ declaration ∈ declarations, declaration.startLine < context.lines.length ∧
      Placed context declaration edit := by
  obtain ⟨progress, rfl, run⟩ := reached_of_plan done
  obtain ⟨declaration, listed, inside, placed, -⟩ := run.exists_placed edit member
  exact ⟨declaration, List.mem_mergeSort.1 listed, inside, placed⟩

end DocblockSync.PlanContext
