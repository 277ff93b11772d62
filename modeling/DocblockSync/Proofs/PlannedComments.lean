import DocblockSync.Proofs.DocblockOwners
import DocblockSync.Proofs.Rerun
import DocblockSync.Proofs.ClosingDelimiter

/-! What planned edits write. Lines between an opening and a closing line are one comment exactly when
none of them has a closing delimiter. A docblock is laid out so, whatever its fields hold; the type of
a property is written as it stands in the source, so a comment in it closes the new one early. -/

namespace DocblockSync

open Text Docblock Document

def Text.withoutFinalNewline (t : Text) : Text := (before? ['\n'] t).getD t

/-- A text that is one comment, blanks in front of it aside: it starts with the opening delimiter, and
the closing one occurs once, at its very end. -/
structure IsWholeComment (t : Text) : Prop where
  opens : startsWith opener (trimStart t) = true
  closes : ∃ body, t = body ++ closer ∧
    ∀ before after, t = before ++ (closer ++ after) → before = body ∧ after = []

theorem withoutFinalNewline_concat (t : Text) : withoutFinalNewline (t ++ ['\n']) = t := by
  rw [withoutFinalNewline, before?_eq_some_iff.2 rfl, Option.getD_some]

theorem withoutFinalNewline_of_solid {c : Char} (solid : c ≠ '\n') (front : Text) :
    withoutFinalNewline (front ++ [c]) = front ++ [c] := by
  have none : before? ['\n'] (front ++ [c]) = none := by
    rw [Option.eq_none_iff_forall_ne_some]
    intro body found
    have same := congrArg List.getLast? (before?_eq_some_iff.1 found)
    simp only [List.getLast?_concat, Option.some.injEq] at same
    exact solid same
  rw [withoutFinalNewline, none, Option.getD_none]

theorem closes_once_iff (body : Text) :
    (∃ body', body ++ closer = body' ++ closer ∧
        ∀ before after, body ++ closer = before ++ (closer ++ after) →
          before = body' ∧ after = []) ↔
      contains closer (body ++ ['*']) = false := by
  constructor
  · rintro ⟨body', -, only⟩
    rw [not_contains_closer_iff]
    intro before rest split
    have early : body ++ closer = before ++ (closer ++ (rest ++ ['/'])) := by
      have star : body ++ closer = (body ++ ['*']) ++ ['/'] := by simp [closer]
      rw [star, split]
      simp
    have none := (only before (rest ++ ['/']) early).2
    simp at none
  · intro first
    exact ⟨body, rfl, fun before after split => eq_of_eq_append_closer first split⟩

theorem isWholeComment_joinLines_iff {padding : Text} (blank : ∀ c ∈ padding, isBlank c = true)
    (middle : List Text) :
    IsWholeComment (joinLines ((padding ++ opener) :: middle ++ [padding ++ " */".toList])) ↔
      ∀ line ∈ middle, contains closer line = false := by
  obtain ⟨unclosed, ends⟩ := contains_closer_blanks blank
  have opening : contains closer (padding ++ opener) = false := by
    rw [contains_closer_append, unclosed, ends]
    rfl
  have last : contains closer (blankLine padding) = false := by
    rw [blankLine, contains_closer_append, unclosed, ends]
    rfl
  obtain ⟨front, -, same⟩ := exists_joinLines_concat ((padding ++ opener) :: middle)
  have whole : joinLines ((padding ++ opener) :: middle ++ [padding ++ " */".toList]) =
      front ++ (padding ++ [' ']) ++ closer := by
    rw [same]
    simp [closer]
  have star : front ++ (padding ++ [' ']) ++ ['*'] =
      joinLines ((padding ++ opener) :: middle ++ [blankLine padding]) := by
    rw [same]
    simp [blankLine]
  have opens : startsWith opener
      (trimStart (joinLines ((padding ++ opener) :: middle ++ [padding ++ " */".toList]))) = true := by
    have start : trimStart opener = opener := rfl
    rw [List.cons_append, joinLines_cons _ (by simp), List.append_assoc,
      trimStart_append_of_blank blank, trimStart_append (by rw [start]; decide), start]
    exact startsWith_append _ _
  have once : IsWholeComment (joinLines ((padding ++ opener) :: middle ++ [padding ++ " */".toList])) ↔
      contains closer (front ++ (padding ++ [' ']) ++ ['*']) = false := by
    rw [← closes_once_iff, ← whole]
    exact ⟨fun comment => comment.closes, fun closes => ⟨opens, closes⟩⟩
  rw [once, star, contains_closer_joinLines, List.any_eq_false]
  simp only [Bool.not_eq_true, List.forall_mem_append, List.forall_mem_cons, opening, last,
    List.not_mem_nil, IsEmpty.forall_iff, implies_true, and_true, true_and]

theorem isWholeComment_render (docblock : Docblock) (site : Site)
    (blank : ∀ c ∈ site.padding, isBlank c = true) :
    IsWholeComment (joinLines (docblock.render site)) := by
  refine (isWholeComment_joinLines_iff blank _).2 fun line member => ?_
  obtain ⟨laid, -, kept⟩ := List.mem_filterMap.1 member
  exact contains_closer_of_sanitize? kept

theorem isWholeComment_renderProperty_iff {padding : Text}
    (blank : ∀ c ∈ padding, isBlank c = true) (typeHint : Option Text) :
    IsWholeComment (joinLines (renderProperty padding typeHint)) ↔
      ∀ type ∈ typeHint, contains closer type = false := by
  obtain ⟨unclosed, ends⟩ := contains_closer_blanks blank
  have line : ∀ type : Text, contains closer (padding ++ " * @var ".toList ++ type) =
      contains closer type := by
    intro type
    rw [List.append_assoc, contains_closer_append, unclosed, ends]
    simp [contains_closer_cons]
  have middle := isWholeComment_joinLines_iff blank
    [padding ++ " * @var ".toList ++ typeHint.getD "mixed".toList]
  rw [List.forall_mem_singleton, line] at middle
  refine middle.trans ?_
  cases typeHint with
  | none => exact iff_of_true (by decide) (by simp)
  | some type => simp

namespace PlanContext

theorem withoutFinalNewline_insertAbove (declaration : Declaration) (lines : List Text)
    (message : Text) :
    withoutFinalNewline (insertAbove declaration lines message).text = joinLines lines :=
  withoutFinalNewline_concat _

theorem isWholeComment_propertyEdit_iff (context : PlanContext) (declaration : Declaration) :
    IsWholeComment (withoutFinalNewline (context.propertyEdit declaration).text) ↔
      ∀ type ∈ declaration.typeHint, contains closer type = false := by
  rw [propertyEdit, withoutFinalNewline_insertAbove]
  exact isWholeComment_renderProperty_iff (context.padding_blank _) _

theorem withoutFinalNewline_render (docblock : Docblock) (site : Site)
    (blank : ∀ c ∈ site.padding, isBlank c = true) :
    withoutFinalNewline (joinLines (docblock.render site)) = joinLines (docblock.render site) := by
  obtain ⟨body, ended, -⟩ := (isWholeComment_render docblock site blank).closes
  have last : body ++ closer = (body ++ ['*']) ++ ['/'] := by simp [closer]
  rw [ended, last]
  exact withoutFinalNewline_of_solid (by decide) _

theorem isWholeComment_docblockEdit? {context : PlanContext} {declaration : Declaration}
    {existing : Option LineRange} {edit : Edit}
    (asked : context.docblockEdit? declaration existing = .ok (some edit)) :
    IsWholeComment (withoutFinalNewline edit.text) := by
  rw [docblockEdit?_eq] at asked
  cases read : context.settingsNames declaration with
  | error failure =>
      rw [read] at asked
      cases asked
  | ok settings =>
      rw [read] at asked
      replace asked := Except.ok.inj asked
      have blank := context.padding_blank declaration.startLine
      cases existing with
      | none =>
          obtain rfl := Option.some.inj asked
          rw [withoutFinalNewline_insertAbove]
          exact isWholeComment_render _ (context.site declaration) blank
      | some range =>
          simp only at asked
          split at asked
          · cases asked
          · obtain rfl := Option.some.inj asked
            have kept : withoutFinalNewline
                (joinLines (context.wantedLines declaration settings (some range))) =
                joinLines (context.wantedLines declaration settings (some range)) :=
              withoutFinalNewline_render _ (context.site declaration) blank
            rw [kept]
            exact isWholeComment_render _ (context.site declaration) blank

/-- Every edit of a plan writes one comment and closes it once, at its end, unless it is the edit for
a property whose type has a closing delimiter in it. -/
theorem planned_text_whole_iff (context : PlanContext) (declarations : List Declaration)
    (edits : List Edit) (planned : context.plan declarations = .ok edits) (edit : Edit)
    (member : edit ∈ edits) :
    IsWholeComment (withoutFinalNewline edit.text) ↔
      ∀ declaration ∈ declarations, declaration.kind = .property →
        edit = context.propertyEdit declaration →
          ∀ type ∈ declaration.typeHint, contains closer type = false := by
  constructor
  · rintro comment declaration - - rfl
    exact (isWholeComment_propertyEdit_iff context declaration).1 comment
  · intro unclosed
    obtain ⟨declaration, listed, -, asked, -⟩ := (mem_plan_iff planned edit).1 member
    unfold asks at asked
    simp only at asked
    split at asked
    · next property =>
        split at asked
        · cases asked
        · obtain rfl := Option.some.inj (Except.ok.inj asked)
          exact (isWholeComment_propertyEdit_iff context declaration).2
            (unclosed declaration listed property rfl)
    · exact isWholeComment_docblockEdit? asked

theorem plan_property {context : PlanContext} {declaration : Declaration}
    (property : declaration.kind = .property) (wanted : context.documentProperties = true)
    (inside : declaration.startLine < context.lines.length)
    (bare : existingDocblock? context.lines declaration.startLine = none) :
    context.plan [declaration] = .ok [context.propertyEdit declaration] := by
  rw [plan, List.mergeSort_singleton, List.foldlM_cons, planNext, if_neg (by omega)]
  simp only [bare, property, wanted]
  rfl

theorem planned_text_whole_iff_spaced_union :
    ∃ edit, (⟨["\tpublic int | A $a;".toList], [], .empty, true⟩ : PlanContext).plan
        [{ kind := .property, name := ['a'], startLine := 0, endLine := 0,
           typeHint := some "int | A".toList }] = .ok [edit] ∧
      IsWholeComment (withoutFinalNewline edit.text) := by
  have planned := @plan_property ⟨["\tpublic int | A $a;".toList], [], .empty, true⟩
    { kind := .property, name := ['a'], startLine := 0, endLine := 0,
      typeHint := some "int | A".toList } rfl rfl (by decide) (by decide)
  refine ⟨_, planned, ?_⟩
  refine (planned_text_whole_iff _ _ _ planned _ (List.mem_singleton_self _)).2 ?_
  intro declaration member _ _ type typed
  obtain rfl := List.mem_singleton.1 member
  obtain rfl := Option.some.inj typed
  decide

/-- The comment in a property's type ends the new docblock in its second line. -/
theorem commented_type_closes_early :
    ∃ edit, (⟨["public int|/* b */A $a;".toList], [], .empty, true⟩ : PlanContext).plan
        [{ kind := .property, name := ['a'], startLine := 0, endLine := 0,
           typeHint := some "int|/* b */A".toList }] = .ok [edit] ∧
      ¬IsWholeComment (withoutFinalNewline edit.text) := by
  have planned := @plan_property ⟨["public int|/* b */A $a;".toList], [], .empty, true⟩
    { kind := .property, name := ['a'], startLine := 0, endLine := 0,
      typeHint := some "int|/* b */A".toList } rfl rfl (by decide) (by decide)
  refine ⟨_, planned, fun comment => ?_⟩
  have unclosed := (isWholeComment_propertyEdit_iff _ _).1 comment _ rfl
  exact absurd unclosed (by decide)

end PlanContext

end DocblockSync
