import DocblockSync.Generate
import DocblockSync.Proofs.Planning
import DocblockSync.Proofs.WrittenLines

/-! Planning a declaration again after its docblock was written. The second search finds its way
by the written lines alone, and the declaration itself is unchanged below them, so there is
nothing left to do exactly when one more pass over the written docblock leaves it as it is. -/

namespace DocblockSync

open Text Docblock Document

def Declaration.moved (declaration : Declaration) (before after : Nat) : Declaration :=
  { declaration with
    startLine := declaration.startLine + after - before
    endLine := declaration.endLine + after - before }

@[simp]
theorem Declaration.moved_self (declaration : Declaration) (count : Nat) :
    declaration.moved count count = declaration := by
  simp [moved]

/-- The lines of a docblock after another pass: read, brought up to date and laid out. -/
def Docblock.renewed (derived : DerivedFields) (site : Site) (lines : List Text) : List Text :=
  ((ofLines lines).merge derived).render site

/-- Whether another pass over written lines finds a docblock at their end and leaves it as it is. -/
def isSettled (derived : DerivedFields) (site : Site) (written : List Text) : Bool :=
  match existingDocblock? written written.length with
  | some range => range.slice written == renewed derived site (range.slice written)
  | none => false

def LineRange.shift (range : LineRange) (count : Nat) : LineRange :=
  ⟨range.first + count, range.last + count⟩

/-- Lines that open and close a comment the way a docblock is laid out. -/
def Delimited (padding : Text) (written : List Text) : Prop :=
  ∃ middle, written = (padding ++ opener) :: (middle ++ [padding ++ " */".toList])

theorem LineRange.slice_shift {range : LineRange} {before written rest : List Text}
    (upright : range.first ≤ range.last) (inside : range.last < written.length) :
    (range.shift before.length).slice (before ++ (written ++ rest)) = range.slice written := by
  have count : range.last + before.length + 1 - (range.first + before.length) =
      range.last + 1 - range.first := by omega
  have skip : (before ++ (written ++ rest)).drop (range.first + before.length) =
      (written ++ rest).drop range.first := by
    rw [Nat.add_comm, List.drop_length_add_append]
  have fits : range.last + 1 - range.first ≤ (written.drop range.first).length := by
    rw [List.length_drop]
    omega
  simp only [shift, slice, count, skip]
  rw [List.drop_append_of_le_length (by omega), List.take_append_of_le_length fits]

theorem openingLine?_append {opening : Text} (opens : startsWith opener (trim opening) = true)
    (nearer before : List Text) :
    openingLine? (nearer ++ opening :: before) =
      (openingLine? (nearer ++ [opening])).map (· + before.length) := by
  induction nearer with
  | nil =>
      rw [List.nil_append, List.nil_append, openingLine?, openingLine?, if_pos opens, if_pos opens]
      simp
  | cons line nearer ih =>
      rw [List.cons_append, List.cons_append, openingLine?, openingLine?, ih]
      split
      · simp
        omega
      · split <;> rfl

theorem existingDocblock?_closing {lines above blanks : List Text} {closing : Text}
    {startLine : Nat}
    (split : lines.take startLine = above ++ closing :: blanks) (closes : trim closing = closer)
    (blank : ∀ line ∈ blanks, (trim line).isEmpty = true) :
    existingDocblock? lines startLine =
      (openingLine? above.reverse).map fun first => ⟨first, above.length⟩ := by
  have near : (lines.take startLine).reverse.dropWhile (fun line => (trim line).isEmpty) =
      closing :: above.reverse :=
    reverse_dropWhile_eq_cons_iff.2
      ⟨by rw [closes]; rfl, blanks, by rw [split, List.reverse_reverse], blank⟩
  rw [existingDocblock?, near]
  simp only [closes, List.length_reverse]
  rfl

theorem trim_append_of_blank {padding : Text} (blank : ∀ c ∈ padding, isBlank c = true) (t : Text) :
    trim (padding ++ t) = trim t := by
  rw [trim, trimStart_append_of_blank blank, trim]

theorem existingDocblock?_written {lines before written blanks rest : List Text} {padding : Text}
    (delimited : Delimited padding written) (blank : ∀ c ∈ padding, isBlank c = true)
    (blanks_below : ∀ line ∈ blanks, (trim line).isEmpty = true)
    (cut : lines = before ++ (written ++ (blanks ++ rest))) :
    existingDocblock? lines (before.length + written.length + blanks.length) =
      (existingDocblock? written written.length).map (LineRange.shift · before.length) := by
  obtain ⟨middle, rfl⟩ := delimited
  have opens : startsWith opener (trim (padding ++ opener)) = true := by
    rw [trim_append_of_blank blank]
    rfl
  have closes : trim (padding ++ " */".toList) = closer := by
    rw [trim_append_of_blank blank]
    rfl
  have whole : lines.take (before.length +
        ((padding ++ opener) :: (middle ++ [padding ++ " */".toList])).length + blanks.length) =
      (before ++ (padding ++ opener) :: middle) ++ (padding ++ " */".toList) :: blanks := by
    have front : lines = ((before ++ (padding ++ opener) :: middle) ++
        (padding ++ " */".toList) :: blanks) ++ rest := by
      rw [cut]
      simp
    rw [front]
    apply List.take_left'
    simp only [List.length_append, List.length_cons, List.length_nil]
    omega
  have alone : ((padding ++ opener) :: (middle ++ [padding ++ " */".toList])).take
        ((padding ++ opener) :: (middle ++ [padding ++ " */".toList])).length =
      ((padding ++ opener) :: middle) ++ (padding ++ " */".toList) :: [] := by
    rw [List.take_length]
    rfl
  rw [existingDocblock?_closing whole closes blanks_below,
    existingDocblock?_closing alone closes (by simp), List.reverse_append, List.reverse_cons,
    List.append_assoc, List.singleton_append, openingLine?_append opens, Option.map_map,
    Option.map_map, List.length_reverse]
  congr 1
  funext first
  simp only [Function.comp, LineRange.shift, List.length_append, List.length_cons]
  rw [Nat.add_comm before.length]

theorem lines_of_not_mem {t : Text} (some : t ≠ []) (single : '\n' ∉ t) : lines t = [t] := by
  rw [lines, List.splitOn_eq_singleton single, linesOfSegments, if_neg (by simpa using some)]

/-- The lines of a docblock that was laid out: a field may hold line feeds, so that the lines
between the delimiters need not be the ones laid out. -/
theorem delimited_render (docblock : Docblock) (site : Site) (single : '\n' ∉ site.padding) :
    (∃ front, joinLines (docblock.render site) = front ++ ['/']) ∧
      Delimited site.padding (lines (joinLines (docblock.render site))) := by
  obtain ⟨front, closed, same⟩ :=
    exists_joinLines_concat ((bodyLines docblock site).filterMap sanitize?)
  have split : joinLines (docblock.render site) =
      ((site.padding ++ ['/', '*']) ++ ['*'] ++ ['\n']) ++
        (front ++ (site.padding ++ " */".toList)) := by
    rw [render, List.cons_append, joinLines_cons _ (by simp), same]
    simp [opener]
  have first : lines ((site.padding ++ ['/', '*']) ++ ['*'] ++ ['\n']) =
      [site.padding ++ opener] := by
    have ended := lines_append_terminator (c := '*') (by decide) (site.padding ++ ['/', '*'])
      (.inl rfl)
    rw [List.nil_append] at ended
    rw [ended, lines_of_not_mem (by simp) (by simp [single])]
    simp [opener]
  constructor
  · refine ⟨(site.padding ++ ['/', '*']) ++ ['*'] ++ ['\n'] ++
      (front ++ (site.padding ++ [' ', '*'])), ?_⟩
    rw [split]
    simp
  · refine ⟨lines front, ?_⟩
    rw [split, lines_append_of_isClosed (.inr ⟨_, rfl⟩), first, lines_append_of_isClosed closed,
      lines_of_not_mem (t := site.padding ++ " */".toList) (by simp) (by simp [single])]
    rfl

namespace PlanContext

theorem padding_blank (context : PlanContext) (line : Nat) :
    ∀ c ∈ context.padding line, isBlank c = true :=
  fun _ member => List.mem_takeWhile_imp member

theorem padding_single {context : PlanContext} {source : Text}
    (same : context.lines = Text.lines source) (line : Nat) : '\n' ∉ context.padding line := by
  intro feed
  have member := (List.takeWhile_sublist isBlank).subset feed
  cases here : context.lines[line]? with
  | none => simp [here] at member
  | some text =>
      rw [here] at member
      exact not_mem_of_mem_lines (same ▸ List.mem_of_getElem? here) member

def site (context : PlanContext) (declaration : Declaration) : Site where
  kind := declaration.kind
  name := declaration.name
  padding := context.padding declaration.startLine

theorem plan_eq_nil_iff {context : PlanContext} {declaration : Declaration} {settings : List Text}
    (documented : declaration.kind ≠ .property)
    (inside : declaration.startLine < context.lines.length)
    (read : context.settingsNames declaration = .ok settings) :
    context.plan [declaration] = .ok [] ↔
      ∃ range, existingDocblock? context.lines declaration.startLine = some range ∧
        range.slice context.lines =
          renewed (DerivedFields.ofDeclaration declaration settings context.descriptions)
            (context.site declaration) (range.slice context.lines) := by
  rw [plan_singleton documented inside, docblockEdit?_eq, read]
  cases existingDocblock? context.lines declaration.startLine with
  | none => simp [Except.map]
  | some range =>
      have wanted : context.wantedLines declaration settings (some range) =
          renewed (DerivedFields.ofDeclaration declaration settings context.descriptions)
            (context.site declaration) (range.slice context.lines) := rfl
      simp only [Except.map, Except.ok.injEq, Option.some.injEq, exists_eq_left', ← wanted]
      by_cases same : range.slice context.lines =
        context.wantedLines declaration settings (some range)
      · rw [if_pos (beq_iff_eq.2 same)]
        exact ⟨fun _ => same, fun _ => rfl⟩
      · rw [if_neg (fun equal => same (beq_iff_eq.1 equal))]
        exact ⟨fun empty => absurd empty (by simp), fun equal => absurd equal same⟩

theorem padding_of_drop_eq {context context' : PlanContext} {line line' : Nat}
    (below : context'.lines.drop line' = context.lines.drop line) :
    context'.padding line' = context.padding line := by
  have first := congrArg (fun lines => lines[0]?) below
  simp only [List.getElem?_drop, Nat.add_zero] at first
  rw [padding, padding, first]

theorem settingsNames_moved {context context' : PlanContext} {declaration : Declaration}
    {before after : Nat} (functions : context'.settingsFunctions = context.settingsFunctions)
    (upright : declaration.startLine ≤ declaration.endLine)
    (inside : declaration.startLine < context.lines.length)
    (enough : before ≤ declaration.startLine + after)
    (below : context'.lines.drop (declaration.moved before after).startLine =
      context.lines.drop declaration.startLine) :
    context'.settingsNames (declaration.moved before after) =
      context.settingsNames declaration := by
  have size := congrArg List.length below
  rw [List.length_drop, List.length_drop] at size
  have start : (declaration.moved before after).startLine =
      declaration.startLine + after - before := rfl
  have stop : (declaration.moved before after).endLine = declaration.endLine + after - before := rfl
  have count : min (declaration.moved before after).endLine (context'.lines.length - 1) + 1 -
        (declaration.moved before after).startLine =
      min declaration.endLine (context.lines.length - 1) + 1 - declaration.startLine := by omega
  have code : context'.code (declaration.moved before after) = context.code declaration := by
    unfold PlanContext.code
    simp only [LineRange.slice, below, count]
    rw [if_neg (by omega), if_neg (by omega)]
  have kind : (declaration.moved before after).kind = declaration.kind := rfl
  rw [settingsNames, settingsNames, code, kind, functions]

/-- Once the lines above a declaration are some lines, a written comment and blank lines, a second
plan has nothing to do exactly when the written lines are settled. -/
theorem plan_moved_eq_nil_iff (context context' : PlanContext) {declaration : Declaration}
    {settings before written blanks : List Text} (documented : declaration.kind ≠ .property)
    (upright : declaration.startLine ≤ declaration.endLine)
    (inside : declaration.startLine < context.lines.length)
    (functions : context'.settingsFunctions = context.settingsFunctions)
    (descriptions : context'.descriptions = context.descriptions)
    (read : context.settingsNames declaration = .ok settings)
    (delimited : Delimited (context.padding declaration.startLine) written)
    (blank : ∀ line ∈ blanks, (trim line).isEmpty = true)
    (cut : context'.lines =
      before ++ (written ++ (blanks ++ context.lines.drop declaration.startLine))) :
    context'.plan [declaration.moved context.lines.length context'.lines.length] = .ok [] ↔
      isSettled (DerivedFields.ofDeclaration declaration settings context.descriptions)
        (context.site declaration) written = true := by
  have size := congrArg List.length cut
  simp only [List.length_append, List.length_drop] at size
  have start : (declaration.moved context.lines.length context'.lines.length).startLine =
      before.length + written.length + blanks.length := by
    simp only [Declaration.moved]
    omega
  have below : context'.lines.drop
      (declaration.moved context.lines.length context'.lines.length).startLine =
        context.lines.drop declaration.startLine := by
    rw [start, cut, ← List.append_assoc, ← List.append_assoc]
    apply List.drop_left'
    simp only [List.length_append]
  have read' : context'.settingsNames
      (declaration.moved context.lines.length context'.lines.length) = .ok settings := by
    rw [settingsNames_moved functions upright inside (by omega) below, read]
  have place : context'.site (declaration.moved context.lines.length context'.lines.length) =
      context.site declaration := by
    rw [site, padding_of_drop_eq below]
    rfl
  have derived : DerivedFields.ofDeclaration
        (declaration.moved context.lines.length context'.lines.length) settings
        context'.descriptions =
      DerivedFields.ofDeclaration declaration settings context.descriptions := by
    rw [descriptions]
    rfl
  have documented' :
      (declaration.moved context.lines.length context'.lines.length).kind ≠ .property := documented
  rw [plan_eq_nil_iff documented' (by omega) read', place, derived, start,
    existingDocblock?_written delimited (context.padding_blank _) blank cut, isSettled]
  cases search : existingDocblock? written written.length with
  | none => simp
  | some range =>
      have facts := foundAbove search
      have slice : (range.shift before.length).slice context'.lines = range.slice written := by
        rw [cut]
        exact LineRange.slice_shift facts.upright facts.exists_last
      simp only [Option.map_some, Option.some.injEq, exists_eq_left', slice, beq_iff_eq]

def LeavesSettled (context : PlanContext) (declaration : Declaration) (edit : Edit) : Prop :=
  ∀ settings, context.settingsNames declaration = .ok settings →
    isSettled (DerivedFields.ofDeclaration declaration settings context.descriptions)
      (context.site declaration) (Text.lines edit.text) = true

theorem leavesSettled_iff {context : PlanContext} {declaration : Declaration} {settings : List Text}
    (read : context.settingsNames declaration = .ok settings) (edit : Edit) :
    context.LeavesSettled declaration edit ↔
      isSettled (DerivedFields.ofDeclaration declaration settings context.descriptions)
        (context.site declaration) (Text.lines edit.text) = true := by
  unfold LeavesSettled
  rw [read]
  simp

section Rerun

variable (source : Text) (options : Options) (descriptions : Descriptions)
  {declaration : Declaration} (documented : declaration.kind ≠ .property)
  (upright : declaration.startLine ≤ declaration.endLine)
  (inside : declaration.startLine < (Text.lines source).length) (docblock : Docblock)
  (message : Text)

include documented upright inside

theorem exists_insert_and_rerun :
    let context := planContext source options descriptions
    let edit := insertAbove declaration (docblock.render (context.site declaration)) message
    ∃ result, applyEdits source [edit] = .ok result ∧
      ((planContext result options descriptions).plan
          [declaration.moved (Text.lines source).length (Text.lines result).length] = .ok [] ↔
        context.LeavesSettled declaration edit) := by
  intro context edit
  obtain ⟨settings, read⟩ := exists_settingsNames context upright inside
  obtain ⟨⟨front, ended⟩, delimited⟩ :=
    delimited_render docblock (context.site declaration) (padding_single rfl _)
  have closed := lines_append_terminator (c := '/') (by decide) front (.inl rfl)
  rw [List.nil_append, ← ended] at closed
  have text : Text.lines edit.text =
      Text.lines (joinLines (docblock.render (context.site declaration))) := closed
  obtain ⟨result, applied, cut⟩ := exists_applyEdits_above
    (joinLines (docblock.render (context.site declaration))) message
    (Nat.lt_of_lt_of_le inside (length_lines_le source))
  rw [closed, ← List.nil_append ((Text.lines source).drop declaration.startLine)] at cut
  refine ⟨result, applied, ?_⟩
  rw [leavesSettled_iff read, text]
  exact plan_moved_eq_nil_iff context (planContext result options descriptions) documented upright
    inside rfl rfl read delimited (by simp) cut

theorem exists_replace_and_rerun {range : LineRange}
    (found : existingDocblock? (Text.lines source) declaration.startLine = some range) :
    let context := planContext source options descriptions
    let edit : Edit := ⟨.replace range.first range.last,
      joinLines (docblock.render (context.site declaration)), message⟩
    ∃ result, applyEdits source [edit] = .ok result ∧
      ((planContext result options descriptions).plan
          [declaration.moved (Text.lines source).length (Text.lines result).length] = .ok [] ↔
        context.LeavesSettled declaration edit) := by
  intro context edit
  obtain ⟨settings, read⟩ := exists_settingsNames context upright inside
  obtain ⟨⟨front, ended⟩, delimited⟩ :=
    delimited_render docblock (context.site declaration) (padding_single rfl _)
  obtain ⟨blanks, gap, blank⟩ := exists_blanks_below found
  have facts := foundAbove found
  have above := facts.above
  have size := length_lines_le source
  obtain ⟨result, applied, cut⟩ :=
    @exists_applyEdits_instead source range.first range.last '/' front message (by decide)
      facts.upright (by omega)
  rw [← ended] at applied cut
  rw [gap] at cut
  refine ⟨result, applied, ?_⟩
  rw [leavesSettled_iff read]
  exact plan_moved_eq_nil_iff context (planContext result options descriptions) documented upright
    inside rfl rfl read delimited blank cut

end Rerun

theorem ne_property {kind : DeclarationKind}
    (shape : kind.isFunctionLike = true ∨ kind.isClassLike = true) : kind ≠ .property := by
  rintro rfl
  simp [DeclarationKind.isFunctionLike, DeclarationKind.isClassLike] at shape

theorem plan_outside {context : PlanContext} {declaration : Declaration}
    (outside : context.lines.length ≤ declaration.startLine) :
    context.plan [declaration] = .ok [] := by
  rw [plan, List.mergeSort_singleton, List.foldlM_cons, planNext, if_pos outside]
  rfl

/-- Planning a declaration and writing its docblock always succeeds, and planning it again where it
stands then gives no edits exactly when what was written is settled. -/
theorem second_plan_empty_iff_settled (source : Text) (options : Options)
    (descriptions : Descriptions) (declaration : Declaration)
    (shape : declaration.kind.isFunctionLike = true ∨ declaration.kind.isClassLike = true)
    (upright : declaration.startLine ≤ declaration.endLine) :
    ∃ edits result, (planContext source options descriptions).plan [declaration] = .ok edits ∧
      applyEdits source edits = .ok result ∧
      ((planContext result options descriptions).plan
          [declaration.moved (Text.lines source).length (Text.lines result).length] = .ok [] ↔
        ∀ edit ∈ edits,
          (planContext source options descriptions).LeavesSettled declaration edit) := by
  by_cases done : (planContext source options descriptions).plan [declaration] = .ok []
  · refine ⟨[], source, done, rfl, ?_⟩
    rw [Declaration.moved_self, done]
    simp
  have inside : declaration.startLine < (Text.lines source).length := by
    by_contra outside
    exact done (plan_outside (Nat.le_of_not_lt outside))
  have documented := ne_property shape
  obtain ⟨settings, read⟩ :=
    exists_settingsNames (planContext source options descriptions) upright inside
  have planned := @plan_singleton (planContext source options descriptions) _ documented inside
  rw [docblockEdit?_eq, read] at planned
  cases found : existingDocblock? (planContext source options descriptions).lines
      declaration.startLine with
  | none =>
      rw [found] at planned
      obtain ⟨result, applied, again⟩ := exists_insert_and_rerun source options descriptions
        documented upright inside _ _
      exact ⟨_, result, planned, applied, again.trans List.forall_mem_singleton.symm⟩
  | some range =>
      simp only [found, Except.map] at planned
      split at planned
      · exact absurd planned done
      · obtain ⟨result, applied, again⟩ := exists_replace_and_rerun source options descriptions
          documented upright inside _ _ found
        exact ⟨_, result, planned, applied, again.trans List.forall_mem_singleton.symm⟩

theorem second_plan_empty_iff_settled_plain_class :
    ∃ result, applyEdits "class D\r\n".toList
        [⟨.insert 0 0, "/**\n * class D\n */\n".toList, "Add docblock for class D".toList⟩] =
        .ok result ∧
      (planContext result {} .empty).plan
        [({ kind := .classType, name := ['D'], startLine := 0, endLine := 0 } : Declaration).moved 1
          (Text.lines result).length] = .ok [] := by
  have planned : (planContext "class D\r\n".toList {} .empty).plan
      [{ kind := .classType, name := ['D'], startLine := 0, endLine := 0 }] =
      .ok [⟨.insert 0 0, "/**\n * class D\n */\n".toList, "Add docblock for class D".toList⟩] := by
    rw [plan_singleton (by decide) (by decide)]
    decide
  obtain ⟨edits, result, planned', applied, again⟩ :=
    second_plan_empty_iff_settled "class D\r\n".toList {} .empty
      { kind := .classType, name := ['D'], startLine := 0, endLine := 0 } (.inr rfl) (by decide)
  obtain rfl := Except.ok.inj (planned.symm.trans planned')
  refine ⟨result, applied, again.2 ?_⟩
  intro edit member settings read
  rw [List.mem_singleton.1 member,
    ← Except.ok.inj (show Except.ok [] = Except.ok settings from read)]
  decide

def spacedUnion : Declaration where
  kind := .method
  name := ['f']
  startLine := 0
  endLine := 0
  declaredReturn := some "int | string".toList
  hasBody := false

/-- A declared type with blanks in it is read back as a type and a description, so the second plan
writes the end of the type once more. -/
theorem spaced_union_not_settled :
    ∃ edits result,
      (planContext "function f(): int | string;\n".toList {} .empty).plan [spacedUnion] =
        .ok edits ∧
      applyEdits "function f(): int | string;\n".toList edits = .ok result ∧
      (planContext result {} .empty).plan [spacedUnion.moved 1 (Text.lines result).length] ≠
        .ok [] := by
  have documented : spacedUnion.kind ≠ .property := by decide
  have upright : spacedUnion.startLine ≤ spacedUnion.endLine := by decide
  have inside : spacedUnion.startLine <
      (Text.lines "function f(): int | string;\n".toList).length := by decide
  obtain ⟨settings, read⟩ := exists_settingsNames
    (planContext "function f(): int | string;\n".toList {} .empty) upright inside
  have planned := @plan_singleton (planContext "function f(): int | string;\n".toList {} .empty)
    spacedUnion documented inside
  rw [docblockEdit?_eq, read] at planned
  obtain ⟨result, applied, again⟩ := exists_insert_and_rerun
    "function f(): int | string;\n".toList {} .empty documented upright inside
    (Docblock.merge {} { parameters := some [], returnType := some "int | string".toList })
    "Add docblock for function f".toList
  refine ⟨_, result, planned, applied, fun empty => ?_⟩
  have settled : isSettled { parameters := some [], returnType := some "int | string".toList }
      ⟨.method, ['f'], []⟩ ["/**".toList, " * function f".toList, " *".toList,
        " * @return int | string".toList, " */".toList] = true := again.1 empty settings read
  exact absurd settled (by decide)

end PlanContext

end DocblockSync
