import DocblockSync.Proofs.Planning

/-! Whether the lines that a plan replaces are one comment and nothing else. They look like a
docblock, so they open with one delimiter and close with the other; they are a single comment
exactly when no closing delimiter stands behind the opening one before the last line ends. -/

namespace DocblockSync

open Text Docblock

def closesFirstAtEnd (t : Text) : Bool :=
  match splitOnce? closer t with
  | some (_, []) => true
  | _ => false

/-- Whether a text opens with the delimiter and the first closing delimiter behind it ends the
text. -/
def isOneComment (t : Text) : Bool := (after? opener t).any closesFirstAtEnd

/-- Whether the lines behind an opening delimiter hold a closing one only at the end of the last,
blanks aside. -/
def closesOnlyAtEnd : List Text → Bool
  | [] => false
  | [last] => closesFirstAtEnd (trimEnd last)
  | line :: rest => !contains closer line && closesOnlyAtEnd rest

def behindOpener : List Text → List Text
  | [] => []
  | first :: rest => dropHead opener (trimStart first) :: rest

theorem after?_closer_cons (c : Char) (t : Text) :
    after? closer (c :: t) = if c = '*' then after? ['/'] t else none := by
  by_cases star : c = '*'
  · subst star
    rfl
  · have differs : ('*' == c) = false := beq_eq_false_iff_ne.2 (Ne.symm star)
    simp [after?, closer, List.isPrefixOf?, differs, star]

theorem closesFirstAtEnd_cons (c : Char) (t : Text) :
    closesFirstAtEnd (c :: t) =
      match after? closer (c :: t) with
      | some rest => rest.isEmpty
      | none => closesFirstAtEnd t := by
  rw [closesFirstAtEnd, splitOnce?]
  cases after? closer (c :: t) with
  | some rest => cases rest <;> rfl
  | none =>
      rw [closesFirstAtEnd]
      cases splitOnce? closer t with
      | none => rfl
      | some parts => obtain ⟨front, _ | _⟩ := parts <;> rfl

theorem startsWith_eq_isSome (head t : Text) : startsWith head t = (after? head t).isSome :=
  (List.isSome_isPrefixOf?_eq_isPrefixOf head t).symm

theorem closesFirstAtEnd_append_newline (line rest : Text) :
    closesFirstAtEnd (line ++ '\n' :: rest) = (!contains closer line && closesFirstAtEnd rest) := by
  induction line with
  | nil =>
      rw [List.nil_append, closesFirstAtEnd_cons, after?_closer_cons]
      rfl
  | cons c line ih =>
      rw [List.cons_append, closesFirstAtEnd_cons, contains, startsWith_eq_isSome,
        after?_closer_cons, after?_closer_cons, ih]
      by_cases star : c = '*'
      · rw [if_pos star, if_pos star]
        cases line with
        | nil => rfl
        | cons d line =>
            by_cases slash : d = '/'
            · subst slash
              simp [after?, List.isPrefixOf?]
            · have differs : ('/' == d) = false := beq_eq_false_iff_ne.2 (Ne.symm slash)
              simp [after?, List.isPrefixOf?, differs]
      · rw [if_neg star, if_neg star]
        rfl

theorem closesOnlyAtEnd_cons (line : Text) {rest : List Text} (some : rest ≠ []) :
    closesOnlyAtEnd (line :: rest) = (!contains closer line && closesOnlyAtEnd rest) := by
  rw [closesOnlyAtEnd]
  exact some

theorem closesFirstAtEnd_joinLines (upper : List Text) (last : Text) :
    closesFirstAtEnd (joinLines (upper ++ [trimEnd last])) = closesOnlyAtEnd (upper ++ [last]) := by
  induction upper with
  | nil => rw [List.nil_append, List.nil_append, joinLines_singleton, closesOnlyAtEnd]
  | cons line upper ih =>
      rw [List.cons_append, joinLines_cons _ (by simp), closesFirstAtEnd_append_newline, ih,
        List.cons_append, closesOnlyAtEnd_cons _ (by simp)]

theorem exists_behindOpener {line : Text} (opens : startsWith opener (trim line) = true) :
    ∃ rest, trimStart line = opener ++ rest := by
  obtain ⟨rest, split⟩ := startsWith_iff.1 opens
  obtain ⟨blanks, whole⟩ := exists_trimStart_eq line
  exact ⟨rest ++ blanks, by rw [whole, split, List.append_assoc]⟩

theorem trimEnd_opener_append (rest : Text) : trimEnd (opener ++ rest) = opener ++ trimEnd rest :=
  trimEnd_append_cons_of_not_blank (c := '*') (by decide) ['/', '*'] rest

theorem LooksLikeDocblock.exists_trim_joinLines {body : List Text}
    (looks : LooksLikeDocblock body) :
    ∃ rest, trim (joinLines body) = opener ++ rest ∧
      endsWith closer (trim (joinLines body)) = true ∧
      closesFirstAtEnd rest = closesOnlyAtEnd (behindOpener body) := by
  cases looks with
  | @single line opens closes =>
      obtain ⟨rest, split⟩ := exists_behindOpener opens
      refine ⟨trimEnd rest, ?_, ?_, ?_⟩
      · rw [joinLines_singleton, trim, split, trimEnd_opener_append]
      · rwa [joinLines_singleton]
      · rw [behindOpener, split, dropHead_append, closesOnlyAtEnd]
  | @several opening closing middle opens marked closes plain =>
      obtain ⟨rest, split⟩ := exists_behindOpener opens
      have solid : trimStart opening ≠ [] := by simp [split, opener]
      have solid' : trim closing ≠ [] := by simpa using not_blank_of_closes closes
      have ending := trimEnd_eq solid'
      have lower : trimEnd closing ≠ [] := by simp [ending, solid']
      have joined : trim (joinLines (opening :: (middle ++ [closing]))) =
          opener ++ (rest ++ '\n' :: joinLines (middle ++ [trimEnd closing])) := by
        rw [trim, joinLines_cons _ (by simp), trimStart_append solid, split, List.append_assoc,
          ← joinLines_cons _ (by simp), ← List.cons_append, trimEnd_opener_append,
          trimEnd_joinLines lower, List.cons_append, joinLines_cons _ (by simp)]
      refine ⟨_, joined, ?_, ?_⟩
      · obtain ⟨front, close⟩ := endsWith_iff.1 closes
        obtain ⟨upper, -, bottom⟩ := exists_joinLines_concat middle
        refine endsWith_iff.2 ⟨opener ++
          (rest ++ '\n' :: (upper ++ (indentation closing ++ front))), ?_⟩
        rw [joined, bottom, ending, close]
        simp
      · rw [behindOpener, split, dropHead_append, closesFirstAtEnd_append_newline,
          closesFirstAtEnd_joinLines, closesOnlyAtEnd_cons _ (by simp)]

theorem plan_of_single_line (context : PlanContext) (declaration : Declaration) (line : Nat)
    (shape : declaration.kind.isClassLike = true)
    (inside : declaration.startLine < context.lines.length)
    (found : existingDocblock? context.lines declaration.startLine = some ⟨line, line⟩) :
    ∃ text message, context.plan [declaration] = .ok [⟨.replace line line, text, message⟩] := by
  have documented : declaration.kind ≠ .property := by
    intro property
    rw [property] at shape
    cases shape
  have unsettled : declaration.kind.isFunctionLike = false := by
    cases kind : declaration.kind <;> simp_all [DeclarationKind.isClassLike,
      DeclarationKind.isFunctionLike]
  have differs : ((⟨line, line⟩ : LineRange).slice context.lines ==
      context.wantedLines declaration [] (some ⟨line, line⟩)) = false := by
    rw [beq_eq_false_iff_ne]
    intro same
    have size := congrArg List.length same
    simp only [LineRange.slice, PlanContext.wantedLines, render, List.length_take,
      List.length_append, List.length_cons, List.length_nil] at size
    omega
  refine ⟨joinLines (context.wantedLines declaration [] (some ⟨line, line⟩)),
    "Update docblock for ".toList ++ declaration.title, ?_⟩
  rw [PlanContext.plan_singleton documented inside, PlanContext.docblockEdit?_eq,
    PlanContext.settingsNames, unsettled, found]
  simp only [Bool.false_eq_true, if_false, Except.map, differs]
  rfl

/-- The lines that a planned edit replaces exist, open with one delimiter and close with the
other, and they are one comment with no code in it exactly when the only closing delimiter behind
the opening one ends the last of them. -/
theorem replaced_lines_one_comment_iff (context : PlanContext) (declarations : List Declaration)
    (outline : List Outline) (edits : List Document.Edit)
    (planned : context.plan declarations = .ok edits ∨ context.planAll outline = .ok edits)
    (edit : Document.Edit) (member : edit ∈ edits) (range : LineRange)
    (target : edit.target = .replace range.first range.last) :
    range.first ≤ range.last ∧ range.last < context.lines.length ∧
      startsWith opener (trim (joinLines (range.slice context.lines))) = true ∧
      endsWith closer (trim (joinLines (range.slice context.lines))) = true ∧
      (isOneComment (trim (joinLines (range.slice context.lines))) = true ↔
        closesOnlyAtEnd (behindOpener (range.slice context.lines)) = true) := by
  have origin : ∃ declaration, PlanContext.Placed context declaration edit := by
    rcases planned with done | done
    · obtain ⟨declaration, -, -, placed⟩ := PlanContext.exists_placed_of_mem_plan done member
      exact ⟨declaration, placed⟩
    · obtain ⟨declaration, -, -, placed⟩ := PlanContext.exists_placed_of_mem_plan done member
      exact ⟨declaration, placed⟩
  obtain ⟨declaration, placed⟩ := origin
  cases placed with
  | insert bare => cases target
  | @replace found lines message search =>
      obtain ⟨first, last⟩ := range
      obtain ⟨rfl, rfl⟩ := Document.Target.replace.inj target
      have facts := foundAbove search
      obtain ⟨rest, opens, closes, extent⟩ := facts.looks.exists_trim_joinLines
      refine ⟨facts.upright, facts.exists_last, startsWith_iff.2 ⟨rest, opens⟩, closes, ?_⟩
      rw [isOneComment, opens, after?_append, Option.any_some, extent]

theorem replaced_lines_one_comment_iff_short_note :
    ∃ edits edit, (⟨["  /** old */".toList, "  class D".toList], [], .empty, true⟩ :
        PlanContext).plan [{ kind := .classType, name := ['D'], startLine := 1, endLine := 1 }] =
        .ok edits ∧
      edit ∈ edits ∧ edit.target = .replace 0 0 ∧ isOneComment "/** old */".toList = true := by
  obtain ⟨text, message, plan⟩ := plan_of_single_line
    ⟨["  /** old */".toList, "  class D".toList], [], .empty, true⟩
    { kind := .classType, name := ['D'], startLine := 1, endLine := 1 } 0 rfl (by decide)
    (by decide)
  have facts := replaced_lines_one_comment_iff _ _ [] _ (.inl plan) _ (List.mem_singleton_self _)
    ⟨0, 0⟩ rfl
  exact ⟨_, _, plan, List.mem_singleton_self _, rfl, facts.2.2.2.2.2 (by decide)⟩

/-- A comment, a statement and another comment on one line are taken for a docblock and replaced. -/
theorem statement_between_comments_replaced :
    ∃ text message, (⟨["/** a */ b(); /* c */".toList, "class D".toList], [], .empty, true⟩ :
        PlanContext).plan [{ kind := .classType, name := ['D'], startLine := 1, endLine := 1 }] =
        .ok [⟨.replace 0 0, text, message⟩] ∧
      isOneComment (trim (joinLines (LineRange.slice ⟨0, 0⟩
        ["/** a */ b(); /* c */".toList, "class D".toList]))) = false := by
  obtain ⟨text, message, plan⟩ := plan_of_single_line
    ⟨["/** a */ b(); /* c */".toList, "class D".toList], [], .empty, true⟩
    { kind := .classType, name := ['D'], startLine := 1, endLine := 1 } 0 rfl (by decide)
    (by decide)
  exact ⟨text, message, plan, by decide⟩

end DocblockSync
