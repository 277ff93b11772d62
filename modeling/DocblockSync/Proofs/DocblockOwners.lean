import DocblockSync.Proofs.PlanApplies

/-! Who a docblock belongs to. Several declarations can find the same docblock above them; in a plan
it goes to the first of them in planning order, and the others are passed over. A plan for the
declarations at one line does not see the others, so that it can give a docblock away that belongs
to a declaration around them. -/

namespace DocblockSync

open Text Docblock Document

namespace Outline

mutual

theorem descend_declarations_subset (covers : Declaration → Bool) :
    ∀ outline : Outline, (descend covers outline).declarations ⊆ outline.declarations
  | .node declaration children => by
      cases inner : innermost? covers children with
      | none =>
          rw [descend, inner, Option.getD_none]
          exact fun _ member => member
      | some found =>
          rw [descend, inner, Option.getD_some, declarations]
          exact fun _ member =>
            List.mem_cons_of_mem _ (innermost?_declarations_subset covers children inner member)

theorem innermost?_declarations_subset (covers : Declaration → Bool) :
    ∀ (forest : List Outline) {found : Outline}, innermost? covers forest = some found →
      found.declarations ⊆ forestDeclarations forest
  | [], _, search => by simp [innermost?] at search
  | outline :: rest, found, search => by
      rw [innermost?] at search
      rw [forestDeclarations]
      split at search
      · obtain rfl := Option.some.inj search
        exact fun _ member =>
          List.mem_append_left _ (descend_declarations_subset covers outline member)
      · exact fun _ member =>
          List.mem_append_right _ (innermost?_declarations_subset covers rest search member)

end

theorem declaration_mem_declarations (outline : Outline) :
    outline.declaration ∈ outline.declarations := by
  cases outline with
  | node declaration children => exact List.mem_cons_self

theorem declaration_mem_forestDeclarations {outline : Outline} {forest : List Outline}
    (member : outline ∈ forest) : outline.declaration ∈ forestDeclarations forest := by
  induction forest with
  | nil => cases member
  | cons first rest ih =>
      rw [forestDeclarations]
      rcases List.mem_cons.1 member with rfl | member
      · exact List.mem_append_left _ outline.declaration_mem_declarations
      · exact List.mem_append_right _ (ih member)

theorem lineTargets_subset (outline : Outline) : lineTargets outline ⊆ outline.declarations := by
  intro target member
  rw [lineTargets] at member
  rcases List.mem_cons.1 member with rfl | member
  · exact outline.declaration_mem_declarations
  · split at member
    · obtain ⟨child, listed, rfl⟩ := List.mem_map.1 (List.mem_of_mem_filter member)
      cases outline with
      | node declaration children =>
          exact List.mem_cons_of_mem _ (declaration_mem_forestDeclarations listed)
    · cases member

end Outline

namespace PlanContext

/-- The edit that a declaration asks for when its docblock is its own. -/
def asks (context : PlanContext) (declaration : Declaration) : Except PlanError (Option Edit) :=
  let existing := existingDocblock? context.lines declaration.startLine
  if declaration.kind = .property then
    if !context.documentProperties || existing.isSome then .ok none
    else .ok (some (context.propertyEdit declaration))
  else context.docblockEdit? declaration existing

/-- Whether a declaration of the source finds a docblock above it. -/
def finds (context : PlanContext) (range : LineRange) (declaration : Declaration) : Bool :=
  declaration.startLine < context.lines.length &&
    existingDocblock? context.lines declaration.startLine == some range

def planningOrder (declarations : List Declaration) : List Declaration :=
  declarations.mergeSort fun a b => b.startLine ≤ a.startLine

def owner? (context : PlanContext) (declarations : List Declaration) (range : LineRange) :
    Option Declaration :=
  (planningOrder declarations).find? (context.finds range)

theorem finds_iff {context : PlanContext} {range : LineRange} {declaration : Declaration} :
    context.finds range declaration = true ↔ declaration.startLine < context.lines.length ∧
      existingDocblock? context.lines declaration.startLine = some range := by
  rw [finds, Bool.and_eq_true, decide_eq_true_eq, beq_iff_eq]

theorem planNext_eq (context : PlanContext) (progress : Progress) (declaration : Declaration) :
    context.planNext progress declaration =
      if context.lines.length ≤ declaration.startLine then .ok progress
      else if (existingDocblock? context.lines declaration.startLine).any
          fun range => progress.claimed.contains range then .ok progress
      else (context.asks declaration).map fun edit =>
        ⟨progress.claimed ++ (existingDocblock? context.lines declaration.startLine).toList,
          progress.edits ++ edit.toList⟩ := by
  unfold planNext asks
  simp only
  split
  · rfl
  · split
    · rfl
    · split
      · split
        · simp [Except.map]
        · rfl
      · rfl

theorem asks_placed {context : PlanContext} {declaration : Declaration} {edit : Edit}
    (asked : context.asks declaration = .ok (some edit)) : Placed context declaration edit := by
  unfold asks at asked
  simp only at asked
  split at asked
  · split at asked
    · cases asked
    · next bare =>
        obtain rfl := Option.some.inj (Except.ok.inj asked)
        cases found : existingDocblock? context.lines declaration.startLine with
        | none => exact .insert found
        | some range => simp [found] at bare
  · exact placed_of_docblockEdit? asked edit rfl

/-- What planning some declarations in turn has done: the docblocks that they find are claimed, and
each of those that come first to their docblock has got the edit it asks for. -/
structure Served (context : PlanContext) (past : List Declaration) (progress : Progress) : Prop where
  claimed : ∀ range, range ∈ progress.claimed ↔ (past.find? (context.finds range)).isSome
  edits : ∀ edit, edit ∈ progress.edits ↔ ∃ declaration ∈ past,
    declaration.startLine < context.lines.length ∧ context.asks declaration = .ok (some edit) ∧
    ∀ range, existingDocblock? context.lines declaration.startLine = some range →
      past.find? (context.finds range) = some declaration

theorem find?_concat (p : Declaration → Bool) (past : List Declaration)
    (declaration : Declaration) :
    (past ++ [declaration]).find? p =
      (past.find? p).or (if p declaration then some declaration else none) := by
  rw [List.find?_append, List.find?_cons, List.find?_nil]
  cases p declaration <;> rfl

theorem Served.pass {context : PlanContext} {past : List Declaration} {progress : Progress}
    {declaration : Declaration} (served : Served context past progress)
    (passed : declaration.startLine < context.lines.length → ∃ range,
      existingDocblock? context.lines declaration.startLine = some range ∧
        (past.find? (context.finds range)).isSome) :
    Served context (past ++ [declaration]) progress := by
  -- What the passed declaration finds has an owner before it, so no owner changes.
  have same : ∀ range, (past ++ [declaration]).find? (context.finds range) =
      past.find? (context.finds range) := by
    intro range
    rw [find?_concat]
    split
    · next here =>
        obtain ⟨inside, found⟩ := finds_iff.1 here
        obtain ⟨range', found', earlier⟩ := passed inside
        obtain rfl := Option.some.inj (found.symm.trans found')
        obtain ⟨owner, owned⟩ := Option.isSome_iff_exists.1 earlier
        rw [owned, Option.some_or]
    · exact Option.or_none
  refine ⟨fun range => by rw [same, served.claimed], fun edit => ?_⟩
  simp only [same, served.edits, List.mem_append, List.mem_singleton]
  constructor
  · rintro ⟨other, member, facts⟩
    exact ⟨other, .inl member, facts⟩
  · rintro ⟨other, member | rfl, inside, asked, owned⟩
    · exact ⟨other, member, inside, asked, owned⟩
    · obtain ⟨range, found, -⟩ := passed inside
      exact ⟨other, List.mem_of_find?_eq_some (owned range found), inside, asked, owned⟩

theorem Served.plan {context : PlanContext} {past : List Declaration} {progress : Progress}
    {declaration : Declaration} {edit : Option Edit} (served : Served context past progress)
    (inside : declaration.startLine < context.lines.length)
    (unclaimed : ∀ range, existingDocblock? context.lines declaration.startLine = some range →
      past.find? (context.finds range) = none)
    (asked : context.asks declaration = .ok edit) :
    Served context (past ++ [declaration])
      ⟨progress.claimed ++ (existingDocblock? context.lines declaration.startLine).toList,
        progress.edits ++ edit.toList⟩ := by
  constructor
  · intro range
    rw [find?_concat, Option.isSome_or, List.mem_append, served.claimed, Option.mem_toList,
      Bool.or_eq_true]
    by_cases here : context.finds range declaration = true
    · simp [here, (finds_iff.1 here).2]
    · have elsewhere : existingDocblock? context.lines declaration.startLine ≠ some range :=
        fun found => here (finds_iff.2 ⟨inside, found⟩)
      simp [here, elsewhere]
  · intro wanted
    rw [List.mem_append, served.edits, Option.mem_toList]
    simp only [List.mem_append, List.mem_singleton]
    constructor
    · rintro (⟨other, member, within, asked', owned⟩ | rfl)
      · refine ⟨other, .inl member, within, asked', fun range found => ?_⟩
        rw [find?_concat, owned range found, Option.some_or]
      · refine ⟨declaration, .inr rfl, inside, asked, fun range found => ?_⟩
        rw [find?_concat, unclaimed range found, Option.none_or,
          if_pos (finds_iff.2 ⟨inside, found⟩)]
    · rintro ⟨other, member | rfl, within, asked', owned⟩
      · refine .inl ⟨other, member, within, asked', fun range found => ?_⟩
        have earlier : (past.find? (context.finds range)).isSome = true :=
          List.find?_isSome.2 ⟨other, member, finds_iff.2 ⟨within, found⟩⟩
        obtain ⟨first, search⟩ := Option.isSome_iff_exists.1 earlier
        have first' := owned range found
        rwa [find?_concat, search, Option.some_or, ← search] at first'
      · exact .inr (Except.ok.inj (asked.symm.trans asked'))

theorem Served.step {context : PlanContext} {past : List Declaration} {progress next : Progress}
    {declaration : Declaration} (served : Served context past progress)
    (done : context.planNext progress declaration = .ok next) :
    Served context (past ++ [declaration]) next := by
  rw [planNext_eq] at done
  split at done
  · next outside =>
      obtain rfl := Except.ok.inj done
      exact served.pass fun inside => absurd inside (Nat.not_lt.2 outside)
  next within =>
    split at done
    · next taken =>
        obtain rfl := Except.ok.inj done
        obtain ⟨range, found, claimed⟩ := (Option.any_eq_true _ _).1 taken
        exact served.pass fun _ =>
          ⟨range, found, (served.claimed range).1 (List.contains_iff_mem.1 claimed)⟩
    · next free =>
        have unclaimed : ∀ range,
            existingDocblock? context.lines declaration.startLine = some range →
              past.find? (context.finds range) = none := by
          intro range found
          rw [← Option.not_isSome_iff_eq_none, ← served.claimed]
          intro claimed
          exact free (by simpa [found] using claimed)
        cases asked : context.asks declaration with
        | error failure =>
            rw [asked] at done
            cases done
        | ok edit =>
            rw [asked] at done
            obtain rfl := Except.ok.inj done
            exact served.plan (Nat.not_le.1 within) unclaimed asked

theorem Served.foldlM {context : PlanContext} {past rest : List Declaration}
    {progress final : Progress} (served : Served context past progress)
    (done : rest.foldlM context.planNext progress = .ok final) :
    Served context (past ++ rest) final := by
  induction rest generalizing past progress with
  | nil =>
      obtain rfl : progress = final := Except.ok.inj done
      rwa [List.append_nil]
  | cons declaration rest ih =>
      rw [List.foldlM_cons] at done
      cases once : context.planNext progress declaration with
      | error failure =>
          rw [once] at done
          cases done
      | ok next =>
          rw [once] at done
          have further := ih (served.step once) done
          rwa [List.append_assoc, List.singleton_append] at further

/-- The edits of a plan are those that its declarations ask for, each of them the owner of the
docblock that it finds. -/
theorem mem_plan_iff {context : PlanContext} {declarations : List Declaration} {edits : List Edit}
    (done : context.plan declarations = .ok edits) (edit : Edit) :
    edit ∈ edits ↔ ∃ declaration ∈ declarations,
      declaration.startLine < context.lines.length ∧ context.asks declaration = .ok (some edit) ∧
      ∀ range, existingDocblock? context.lines declaration.startLine = some range →
        context.owner? declarations range = some declaration := by
  have start : Served context [] {} := ⟨by simp, by simp⟩
  unfold PlanContext.plan at done
  cases run : (planningOrder declarations).foldlM context.planNext {} with
  | error failure =>
      rw [planningOrder] at run
      rw [run] at done
      cases done
  | ok final =>
      have served := start.foldlM run
      rw [planningOrder] at run
      rw [run] at done
      obtain rfl := Except.ok.inj done
      rw [served.edits]
      simp only [List.nil_append, planningOrder, List.mem_mergeSort, owner?]

theorem owner?_spec {context : PlanContext} {declarations : List Declaration} {range : LineRange}
    {owner : Declaration} (owned : context.owner? declarations range = some owner) :
    owner ∈ declarations ∧ owner.startLine < context.lines.length ∧
      existingDocblock? context.lines owner.startLine = some range := by
  have member := List.mem_of_find?_eq_some owned
  rw [planningOrder, List.mem_mergeSort] at member
  exact ⟨member, finds_iff.1 (List.find?_some owned)⟩

theorem asks_of_single_line (context : PlanContext) (declaration : Declaration) (line : Nat)
    (documented : declaration.kind ≠ .property)
    (upright : declaration.startLine ≤ declaration.endLine)
    (inside : declaration.startLine < context.lines.length)
    (found : existingDocblock? context.lines declaration.startLine = some ⟨line, line⟩) :
    ∃ text, context.asks declaration =
      .ok (some ⟨.replace line line, text, "Update docblock for ".toList ++ declaration.title⟩) := by
  obtain ⟨settings, read⟩ := exists_settingsNames context upright inside
  have differs : ((⟨line, line⟩ : LineRange).slice context.lines ==
      context.wantedLines declaration settings (some ⟨line, line⟩)) = false := by
    rw [beq_eq_false_iff_ne]
    intro same
    have size := congrArg List.length same
    simp only [LineRange.slice, wantedLines, render, List.length_take, List.length_append,
      List.length_cons, List.length_nil] at size
    omega
  refine ⟨joinLines (context.wantedLines declaration settings (some ⟨line, line⟩)), ?_⟩
  rw [asks]
  simp only [if_neg documented, docblockEdit?_eq, read, found, Except.map, differs]
  rfl

end PlanContext

section LineEdits

variable (outline : List Outline) (source : Text) (options : Options) (descriptions : Descriptions)

theorem mapError_ok_iff {α : Type} {planned : Except PlanError α} {result : α} :
    planned.mapError GenerateError.plan = .ok result ↔ planned = .ok result := by
  cases planned <;> simp [Except.mapError]

theorem generateFrom_eq_ok_iff (valid : options.validate = .ok ()) {edits : List Edit} :
    generateFrom outline source options descriptions = .ok edits ↔
      (planContext source options descriptions).plan (Outline.forestDeclarations outline) =
        .ok edits := by
  rw [generateFrom, valid]
  exact mapError_ok_iff

def targetsAt (line : Nat) : List Declaration :=
  match Outline.innermost? (coversLine (lines source) line) outline with
  | none => []
  | some found => lineTargets found

theorem targetsAt_subset (line : Nat) :
    targetsAt outline source line ⊆ Outline.forestDeclarations outline := by
  unfold targetsAt
  split
  · exact List.nil_subset _
  · next found search =>
      exact fun _ member =>
        Outline.innermost?_declarations_subset _ _ search (Outline.lineTargets_subset found member)

theorem generateForLineFrom_eq_ok_iff (valid : options.validate = .ok ()) (line : Nat)
    {edits : List Edit} :
    generateForLineFrom outline source line options descriptions = .ok edits ↔
      (planContext source options descriptions).plan (targetsAt outline source line) =
        .ok edits := by
  rw [generateForLineFrom, valid, targetsAt]
  cases Outline.innermost? (coversLine (lines source) line) outline with
  | none =>
      have nothing : (planContext source options descriptions).plan [] = .ok [] := by
        rw [PlanContext.plan, List.mergeSort_nil]
        rfl
      rw [nothing, Except.ok.injEq]
      exact iff_of_eq (Except.ok.injEq [] edits)
  | some found => exact mapError_ok_iff

theorem exists_line_edit (line place : Nat) (declaration : Declaration)
    (valid : options.validate = .ok ()) (target : targetsAt outline source line = [declaration])
    (documented : declaration.kind ≠ .property)
    (upright : declaration.startLine ≤ declaration.endLine)
    (inside : declaration.startLine < (lines source).length)
    (found : existingDocblock? (lines source) declaration.startLine = some ⟨place, place⟩) :
    ∃ edits text,
      generateForLineFrom outline source line options descriptions = .ok edits ∧
      ⟨.replace place place, text, "Update docblock for ".toList ++ declaration.title⟩ ∈ edits ∧
      (planContext source options descriptions).asks declaration = .ok (some
        ⟨.replace place place, text, "Update docblock for ".toList ++ declaration.title⟩) := by
  obtain ⟨text, asked⟩ := (planContext source options descriptions).asks_of_single_line declaration
    place documented upright inside found
  obtain ⟨edits, done⟩ := @PlanContext.exists_plan (planContext source options descriptions)
    [declaration] (by simpa using upright)
  refine ⟨edits, text, ?_, ?_, asked⟩
  · rw [generateForLineFrom_eq_ok_iff outline source options descriptions valid, target, done]
  · rw [PlanContext.mem_plan_iff done]
    refine ⟨declaration, List.mem_singleton_self _, inside, asked, fun range here => ?_⟩
    rw [PlanContext.owner?, PlanContext.planningOrder, List.mergeSort_singleton,
      List.find?_singleton, if_pos (PlanContext.finds_iff.2 ⟨inside, here⟩)]

/-- With valid options and declarations that end where they start or later, the edits at a line and
all edits can be planned. An edit at a line is one of all edits exactly when it puts a new docblock
in, or the owner of the docblock it replaces, among all declarations, asks for the same edit. -/
theorem line_edit_mem_iff_owner_asks (line : Nat) (valid : options.validate = .ok ()) :
    ((∀ declaration ∈ Outline.forestDeclarations outline,
        declaration.startLine ≤ declaration.endLine) →
      ∃ edits all, generateForLineFrom outline source line options descriptions = .ok edits ∧
        generateFrom outline source options descriptions = .ok all) ∧
    ∀ edits all, generateForLineFrom outline source line options descriptions = .ok edits →
      generateFrom outline source options descriptions = .ok all →
      ∀ edit ∈ edits, (edit ∈ all ↔ ∀ range, edit.replaced? = some range →
        ∃ owner, (planContext source options descriptions).owner?
            (Outline.forestDeclarations outline) range = some owner ∧
          (planContext source options descriptions).asks owner = .ok (some edit)) := by
  constructor
  · intro upright
    obtain ⟨edits, done⟩ := (planContext source options descriptions).exists_plan
      fun declaration member => upright declaration (targetsAt_subset outline source line member)
    obtain ⟨all, whole⟩ := (planContext source options descriptions).exists_plan upright
    exact ⟨edits, all, (generateForLineFrom_eq_ok_iff outline source options descriptions valid
      line).2 done, (generateFrom_eq_ok_iff outline source options descriptions valid).2 whole⟩
  · intro edits all done whole edit member
    rw [generateForLineFrom_eq_ok_iff outline source options descriptions valid] at done
    rw [generateFrom_eq_ok_iff outline source options descriptions valid] at whole
    obtain ⟨target, listed, inside, asked, -⟩ := (PlanContext.mem_plan_iff done edit).1 member
    constructor
    · intro among range replaced
      obtain ⟨owner, -, -, asked', owned⟩ := (PlanContext.mem_plan_iff whole edit).1 among
      exact ⟨owner, owned range ((PlanContext.asks_placed asked').found replaced), asked'⟩
    · intro owned
      rw [PlanContext.mem_plan_iff whole]
      cases replaced : edit.replaced? with
      | none =>
          refine ⟨target, targetsAt_subset outline source line listed, inside, asked, ?_⟩
          intro range found
          cases PlanContext.asks_placed asked with
          | insert bare => simp [bare] at found
          | replace => cases replaced
      | some range =>
          obtain ⟨owner, first, asked'⟩ := owned range replaced
          obtain ⟨known, within, found⟩ := PlanContext.owner?_spec first
          refine ⟨owner, known, within, asked', fun range' found' => ?_⟩
          rwa [← Option.some.inj (found.symm.trans found')]

end LineEdits

def documentedInterface : Declaration where
  kind := .interfaceType
  name := ['A']
  startLine := 1
  endLine := 2

def interfaceMethod (line : Nat) : Declaration where
  kind := .method
  name := ['f']
  startLine := line
  endLine := line
  hasBody := false

def interfaceOutline (line : Nat) : List Outline :=
  [.node documentedInterface [.node (interfaceMethod line) []]]

def separateLines : Text := "/** A. */\ninterface A \x7b\nfunction f(); \x7d\n".toList

def sharedLine : Text := "/** A. */\ninterface A \x7b function f();\n\x7d\n".toList

theorem line_edit_mem_iff_owner_asks_own_docblock :
    ∃ edits all edit,
      generateForLineFrom (interfaceOutline 2) separateLines 1 {} .empty = .ok edits ∧
      generateFrom (interfaceOutline 2) separateLines {} .empty = .ok all ∧
      edit ∈ edits ∧ edit.replaced? = some ⟨0, 0⟩ ∧ edit ∈ all := by
  have valid : ({} : Options).validate = .ok () := by decide
  have order : PlanContext.planningOrder (Outline.forestDeclarations (interfaceOutline 2)) =
      [interfaceMethod 2, documentedInterface] := by
    simp [PlanContext.planningOrder, List.mergeSort, interfaceOutline, documentedInterface,
      interfaceMethod, Outline.forestDeclarations, Outline.declarations]
  obtain ⟨edits, text, done, member, asked⟩ := exists_line_edit (interfaceOutline 2) separateLines
    {} .empty 1 0 documentedInterface valid (by decide) (by decide) (by decide) (by decide)
    (by decide)
  obtain ⟨total, among⟩ := line_edit_mem_iff_owner_asks (interfaceOutline 2) separateLines {}
    .empty 1 valid
  obtain ⟨-, all, -, whole⟩ := total (by decide)
  refine ⟨edits, all, _, done, whole, member, rfl, (among edits all done whole _ member).2 ?_⟩
  intro range replaced
  obtain rfl := Option.some.inj replaced
  refine ⟨documentedInterface, ?_, asked⟩
  rw [PlanContext.owner?, order]
  decide

/-- At the line of a method that starts on the line of its interface, the docblock of the interface
is replaced by one for the method; among all edits it stays with the interface. -/
theorem method_takes_interface_docblock :
    ∃ edits all edit,
      generateForLineFrom (interfaceOutline 1) sharedLine 1 {} .empty = .ok edits ∧
      generateFrom (interfaceOutline 1) sharedLine {} .empty = .ok all ∧
      edit ∈ edits ∧ edit ∉ all := by
  have valid : ({} : Options).validate = .ok () := by decide
  have order : PlanContext.planningOrder (Outline.forestDeclarations (interfaceOutline 1)) =
      [documentedInterface, interfaceMethod 1] := by
    simp [PlanContext.planningOrder, List.mergeSort, interfaceOutline, documentedInterface,
      interfaceMethod, Outline.forestDeclarations, Outline.declarations]
  have owned : (planContext sharedLine {} .empty).owner?
      (Outline.forestDeclarations (interfaceOutline 1)) ⟨0, 0⟩ = some documentedInterface := by
    rw [PlanContext.owner?, order]
    decide
  obtain ⟨edits, text, done, member, -⟩ := exists_line_edit (interfaceOutline 1) sharedLine {}
    .empty 1 0 (interfaceMethod 1) valid (by decide) (by decide) (by decide) (by decide)
    (by decide)
  obtain ⟨text', asked'⟩ := (planContext sharedLine {} .empty).asks_of_single_line
    documentedInterface 0 (by decide) (by decide) (by decide) (by decide)
  obtain ⟨all, whole⟩ := @PlanContext.exists_plan (planContext sharedLine {} .empty)
    (Outline.forestDeclarations (interfaceOutline 1)) (by decide)
  refine ⟨edits, all, _, done, (generateFrom_eq_ok_iff _ _ _ _ valid).2 whole, member, ?_⟩
  intro among
  obtain ⟨owner, -, -, asked, first⟩ := (PlanContext.mem_plan_iff whole _).1 among
  have same := first ⟨0, 0⟩ ((PlanContext.asks_placed asked).found rfl)
  obtain rfl := Option.some.inj (owned.symm.trans same)
  have titles : "Update docblock for ".toList ++ documentedInterface.title =
      "Update docblock for ".toList ++ (interfaceMethod 1).title :=
    congrArg Edit.message (Option.some.inj (Except.ok.inj (asked'.symm.trans asked)))
  exact absurd titles (by decide)

end DocblockSync
