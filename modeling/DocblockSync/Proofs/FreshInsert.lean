import DocblockSync.Proofs.FreshDocblock
import DocblockSync.Proofs.Recognition
import DocblockSync.Proofs.Rerun

/-! Planning a declaration without a docblock, and planning it again below the docblock it got. The
written docblock is found line by line and read back, so that the second plan has work left only
where a setting borrows the description of another entry. -/

namespace DocblockSync.Text

theorem cutReturn_of_trimEnd_eq {t : Text} (trimmed : trimEnd t = t) : cutReturn t = (t, []) := by
  refine cutReturn_of_not_concat fun front same => ?_
  obtain ⟨blanks, split, -⟩ := exists_blanks_trimEnd front
  have shorter : trimEnd t = trimEnd front := by
    rw [same, trimEnd_append_of_blank (List.forall_mem_singleton.2 (by decide))]
  have sizes := congrArg List.length (trimmed.symm.trans shorter)
  have whole := congrArg List.length same
  have part := congrArg List.length split
  simp only [List.length_append, List.length_singleton] at whole part
  omega

theorem lines_joinLines_newline {written : List Text} (some : written ≠ [])
    (whole : ∀ line ∈ written, trimEnd line = line ∧ '\n' ∉ line) :
    lines (joinLines written ++ ['\n']) = written := by
  induction written with
  | nil => exact absurd rfl some
  | cons line rest ih =>
      obtain ⟨⟨trimmed, single⟩, below⟩ := List.forall_mem_cons.1 whole
      have first : (line.splitOn '\n').map (fun segment => (cutReturn segment).1) = [line] := by
        rw [List.splitOn_eq_singleton single, List.map_singleton, cutReturn_of_trimEnd_eq trimmed]
      by_cases last : rest = []
      · subst last
        rw [joinLines_singleton, lines_append_newline, first]
        rfl
      · rw [joinLines_cons _ last, List.append_assoc, List.cons_append, lines_append_newline, first,
          ih last below, List.singleton_append]

end DocblockSync.Text

namespace DocblockSync

open Text Docblock Document

theorem lines_insertAbove_render {docblock : Docblock} {site : Site} (orderly : IsOrderly docblock)
    (plain : site.IsPlain) (single : '\n' ∉ site.padding) (declaration : Declaration)
    (message : Text) :
    lines (PlanContext.insertAbove declaration (docblock.render site) message).text =
      docblock.render site := by
  refine lines_joinLines_newline (by simp [render]) ?_
  rw [render_eq_map_texts orderly plain]
  have opening : site.padding ++ opener = (site.padding ++ ['/', '*']) ++ ['*'] := by simp [opener]
  have closing : site.padding ++ " */".toList = (site.padding ++ [' ', '*']) ++ ['/'] := by simp
  simp only [List.forall_mem_append, List.forall_mem_cons, List.forall_mem_map]
  refine ⟨⟨⟨?_, by simp [opener, single]⟩, fun t member => ?_⟩, ⟨?_, by simp [single]⟩, by simp⟩
  · rw [opening]
    exact trimEnd_concat_of_not_blank (by decide) _
  · have content := isContent_of_mem_texts orderly plain member
    refine ⟨trimEnd_textLine content, ?_⟩
    unfold textLine
    split
    · simp [blankLine, single]
    · simp [single, content.single]
  · rw [closing]
    exact trimEnd_concat_of_not_blank (by decide) _

theorem isSettled_render_iff (derived : DerivedFields) {site : Site} (docblock : Docblock)
    (blank : ∀ c ∈ site.padding, isBlank c = true) :
    isSettled derived site (docblock.render site) = true ↔
      renewed derived site (docblock.render site) = docblock.render site := by
  have found : existingDocblock? (docblock.render site) (docblock.render site).length =
      some ⟨0, (docblock.render site).length - 1⟩ :=
    existingDocblock?_eq_some_iff.2 ⟨[], docblock.render site, [], by simp,
      looksLikeDocblock_render docblock blank, by simp, by simp⟩
  have slice : (⟨0, (docblock.render site).length - 1⟩ : LineRange).slice (docblock.render site) =
      docblock.render site := by
    simp [LineRange.slice, render]
  rw [isSettled, found]
  simp only [slice, beq_iff_eq]
  exact eq_comm

theorem Docblock.merge_nothing (docblock : Docblock) : docblock.merge {} = docblock := rfl

/-- A declaration whose texts can stand in a docblock. -/
structure Declaration.IsPlain (declaration : Declaration) : Prop where
  named : declaration.name ≠ []
  name : IsContent declaration.name
  distinct : (declaration.parameters.map Parameter.name).Nodup
  parameters : ∀ p ∈ declaration.parameters,
    p.name ≠ [] ∧ (∀ c ∈ p.name, isWordChar c = true) ∧ ∀ type ∈ p.declaredType, IsPlainType type
  declaredReturn : ∀ type ∈ declaration.declaredReturn, IsPlainType type
  inferredReturn : ∀ type ∈ declaration.inferredReturn, IsPlainType type
  thrown : ∀ type ∈ declaration.thrown, IsPlainType type

theorem isPlainType_of_word {t : Text} (solid : t ≠ []) (word : t.all isWordChar = true) :
    IsPlainType t := by
  rw [List.all_eq_true] at word
  have apart : ∀ c, isWordChar c = false → c ∉ t := by
    intro c other member
    rw [word c member] at other
    cases other
  have first : ∀ c, isWordChar c = false → startsWith [c] t = false := by
    intro c other
    obtain ⟨d, rest, rfl⟩ := List.exists_cons_of_ne_nil solid
    have differs : c ≠ d := fun same => apart c other (by simp [same])
    rw [startsWith_cons_cons, beq_eq_false_iff_ne.2 differs, Bool.false_and]
  refine ⟨solid, fun c member => not_isBlank_of_isWordChar (word c member), apart '$' (by decide), ?_,
    first '&' (by decide), first '.' (by decide)⟩
  rw [not_contains_closer_iff]
  intro front rest split
  exact apart '*' (by decide) (by rw [split]; simp [closer])

theorem isPlainType_collapseMixed {type : Text} (plain : IsPlainType type) :
    IsPlainType (collapseMixed type) := by
  have trimmed := trim_of_unspaced plain.unspaced
  unfold collapseMixed
  split
  · exact isPlainType_of_word (by decide) (by decide)
  · rwa [trimmed]

theorem isPlainFields_ofDeclaration {declaration : Declaration} (plain : declaration.IsPlain)
    {settings : List Text} {descriptions : Descriptions}
    (entries : ∀ name ∈ settings, IsReadEntry (descriptions.usage name)) :
    IsPlainFields (DerivedFields.ofDeclaration declaration settings descriptions) := by
  have declared : ∀ type ∈ declaration.declaredReturn.map collapseMixed, IsPlainType type := by
    intro type known
    obtain ⟨source, member, rfl⟩ := Option.map_eq_some_iff.1 known
    exact isPlainType_collapseMixed (plain.declaredReturn source member)
  unfold DerivedFields.ofDeclaration
  split
  · exact ⟨by simp, by simp, by simp, by simp, by simp⟩
  · simp only
    split
    · exact ⟨by simpa using plain.distinct, by simpa using plain.parameters, declared, by simp,
        by simp⟩
    · refine ⟨by simpa using plain.distinct, by simpa using plain.parameters, ?_,
        by simpa using plain.thrown, by simpa using entries⟩
      intro type known
      obtain rfl := Option.some.inj known
      cases written : declaration.declaredReturn.map collapseMixed with
      | some type => exact declared type written
      | none =>
          cases inferred : declaration.inferredReturn with
          | some type => exact plain.inferredReturn type inferred
          | none => exact isPlainType_of_word (by decide) (by decide)

theorem renewed_made_eq_iff {declaration : Declaration} {settings : List Text}
    {descriptions : Descriptions} {site : Site} (kind : site.kind = declaration.kind)
    (source : IsPlainFields (DerivedFields.ofDeclaration declaration settings descriptions))
    (plain : site.IsPlain) :
    renewed (DerivedFields.ofDeclaration declaration settings descriptions) site
        ((made (DerivedFields.ofDeclaration declaration settings descriptions)).render site) =
      (made (DerivedFields.ofDeclaration declaration settings descriptions)).render site ↔
    ∀ usages ∈ (DerivedFields.ofDeclaration declaration settings descriptions).settings,
      ∀ usage ∈ usages, borrows usages usage = false := by
  -- A class determines nothing, so that another pass is a plain reformatting.
  cases function : declaration.kind.isFunctionLike with
  | true =>
      have used : ∀ derived : DerivedFields, (made derived).settings = derived.settings.getD [] :=
        fun derived => by rw [made_eq]
      have renders := render_remade_eq_iff source plain (by rw [kind, function])
      rw [used] at renders
      refine renders.trans ?_
      cases (DerivedFields.ofDeclaration declaration settings descriptions).settings <;> simp
  | false =>
      have nothing : DerivedFields.ofDeclaration declaration settings descriptions = {} := by
        rw [DerivedFields.ofDeclaration, function]
        rfl
      have unused : (made {}).settings = [] := by rw [made_eq]; rfl
      rw [nothing] at source ⊢
      have again := render_ofLines_eq_iff (isOrderly_made source) plain
        (isSettled_sections_made {} site)
      rw [unused] at again
      rw [renewed, merge_nothing]
      exact again.trans (by simp)

namespace PlanContext

theorem plan_of_bare {context : PlanContext} {declaration : Declaration} {settings : List Text}
    (documented : declaration.kind ≠ .property)
    (inside : declaration.startLine < context.lines.length)
    (bare : existingDocblock? context.lines declaration.startLine = none)
    (read : context.settingsNames declaration = .ok settings) :
    context.plan [declaration] =
      .ok [insertAbove declaration
        ((made (DerivedFields.ofDeclaration declaration settings context.descriptions)).render
          (context.site declaration))
        ("Add docblock for ".toList ++ declaration.title)] := by
  rw [plan_singleton documented inside, docblockEdit?_eq, read, bare]
  rfl

theorem moved_inserted {source result : Text} {declaration : Declaration} {written : List Text}
    (inside : declaration.startLine < (Text.lines source).length)
    (cut : Text.lines result = (Text.lines source).take declaration.startLine ++
      (written ++ (Text.lines source).drop declaration.startLine)) :
    declaration.moved (Text.lines source).length (Text.lines result).length =
      declaration.moved 0 written.length := by
  have size := congrArg List.length cut
  simp only [List.length_append, List.length_take, List.length_drop] at size
  have start : declaration.startLine + (Text.lines result).length - (Text.lines source).length =
      declaration.startLine + written.length - 0 := by omega
  have stop : declaration.endLine + (Text.lines result).length - (Text.lines source).length =
      declaration.endLine + written.length - 0 := by omega
  rw [Declaration.moved, Declaration.moved, start, stop]

/-- A declaration without a docblock gets one, above its first line, and planning it again where
it stands then gives no edits exactly if another pass over the new docblock leaves it. -/
theorem exists_rerun_of_bare (source : Text) (options : Options) (descriptions : Descriptions)
    {declaration : Declaration} {settings : List Text} (documented : declaration.kind ≠ .property)
    (upright : declaration.startLine ≤ declaration.endLine)
    (inside : declaration.startLine < (Text.lines source).length)
    (bare : existingDocblock? (Text.lines source) declaration.startLine = none)
    (plain : declaration.IsPlain)
    (read : (planContext source options descriptions).settingsNames declaration = .ok settings)
    (entries : ∀ name ∈ settings, IsReadEntry (descriptions.usage name)) :
    let derived := DerivedFields.ofDeclaration declaration settings descriptions
    let site := (planContext source options descriptions).site declaration
    ∃ edit result, (planContext source options descriptions).plan [declaration] = .ok [edit] ∧
      edit.target = .insert declaration.startLine 0 ∧
      applyEdits source [edit] = .ok result ∧
      ((planContext result options descriptions).plan
          [declaration.moved 0 (Text.lines edit.text).length] = .ok [] ↔
        renewed derived site ((made derived).render site) = (made derived).render site) := by
  intro derived site
  have fields : IsPlainFields derived := isPlainFields_ofDeclaration plain entries
  have place : site.IsPlain := ⟨plain.named, plain.name, padding_blank _ _⟩
  have text := lines_insertAbove_render (isOrderly_made fields) place (padding_single rfl _)
    declaration ("Add docblock for ".toList ++ declaration.title)
  obtain ⟨result, applied, again⟩ := exists_insert_and_rerun source options descriptions documented
    upright inside (made derived) ("Add docblock for ".toList ++ declaration.title)
  obtain ⟨result', applied', cut⟩ := exists_applyEdits_above (joinLines ((made derived).render site))
    ("Add docblock for ".toList ++ declaration.title)
    (Nat.lt_of_lt_of_le inside (length_lines_le source))
  obtain rfl := Except.ok.inj (applied.symm.trans applied')
  rw [moved_inserted inside cut, leavesSettled_iff read, text] at again
  exact ⟨_, result, plan_of_bare documented inside bare read, rfl, applied,
    again.trans (isSettled_render_iff derived (made derived) place.padding)⟩

/-- A declaration without a docblock gets one, above its first line, and planning it again where
it stands then gives no edits exactly if no setting without a description borrows one from an entry
that is read under its name. -/
theorem inserted_docblock_up_to_date_iff (source : Text) (options : Options)
    (descriptions : Descriptions) (declaration : Declaration)
    (shape : declaration.kind.isFunctionLike = true ∨ declaration.kind.isClassLike = true)
    (upright : declaration.startLine ≤ declaration.endLine)
    (inside : declaration.startLine < (Text.lines source).length)
    (bare : existingDocblock? (Text.lines source) declaration.startLine = none)
    (plain : declaration.IsPlain)
    (entries : ∀ settings,
      (planContext source options descriptions).settingsNames declaration = .ok settings →
        ∀ name ∈ settings, IsReadEntry (descriptions.usage name)) :
    ∃ settings edit result,
      (planContext source options descriptions).settingsNames declaration = .ok settings ∧
      (planContext source options descriptions).plan [declaration] = .ok [edit] ∧
      edit.target = .insert declaration.startLine 0 ∧
      applyEdits source [edit] = .ok result ∧
      ((planContext result options descriptions).plan
          [declaration.moved 0 (Text.lines edit.text).length] = .ok [] ↔
        ∀ usages ∈ (DerivedFields.ofDeclaration declaration settings descriptions).settings,
          ∀ usage ∈ usages, borrows usages usage = false) := by
  obtain ⟨settings, read⟩ :=
    exists_settingsNames (planContext source options descriptions) upright inside
  obtain ⟨edit, result, planned, place, applied, again⟩ := exists_rerun_of_bare source options
    descriptions (ne_property shape) upright inside bare plain read (entries settings read)
  refine ⟨settings, edit, result, read, planned, place, applied, again.trans ?_⟩
  exact renewed_made_eq_iff rfl (isPlainFields_ofDeclaration plain (entries settings read))
    ⟨plain.named, plain.name, padding_blank _ _⟩

def settingReader : Declaration where
  kind := .function
  name := ['f']
  startLine := 1
  endLine := 1
  parameters := [⟨['a'], some "array".toList⟩, ⟨['b'], none⟩]
  declaredReturn := some "int".toList
  thrown := [['E'], ['F']]

def readerSource : Text :=
  ("<?php\r\nfunction f(array $a, $b): int \x7b return getSetting('k') ?? getSetting('l'); \x7d" ++
    "\r\n").toList

theorem isPlain_settingReader : settingReader.IsPlain where
  named := by decide
  name := ⟨by decide, by decide, by decide⟩
  distinct := by decide
  parameters := by
    have array : IsPlainType "array".toList := isPlainType_of_word (by decide) (by decide)
    have words : isWordChar 'a' = true ∧ isWordChar 'b' = true := by decide
    simp only [settingReader, List.forall_mem_cons, Option.mem_some_iff, forall_eq']
    exact ⟨⟨by decide, by simp [words], array⟩, ⟨by decide, by simp [words], by simp⟩, by simp⟩
  declaredReturn := by
    rintro type ⟨⟩
    exact isPlainType_of_word (by decide) (by decide)
  inferredReturn := by rintro type ⟨⟩
  thrown := by
    simp only [settingReader, List.forall_mem_cons]
    exact ⟨isPlainType_of_word (by decide) (by decide), isPlainType_of_word (by decide) (by decide),
      by simp⟩

theorem inserted_docblock_up_to_date_iff_reader :
    ∃ edit result,
      (planContext readerSource {} ⟨[(['k'], "a : b".toList)]⟩).plan [settingReader] = .ok [edit] ∧
      applyEdits readerSource [edit] = .ok result ∧
      (planContext result {} ⟨[(['k'], "a : b".toList)]⟩).plan
        [settingReader.moved 0 (Text.lines edit.text).length] = .ok [] := by
  have used : (planContext readerSource {} ⟨[(['k'], "a : b".toList)]⟩).settingsNames
      settingReader = .ok [['k'], ['l']] := by decide +kernel
  have entries : ∀ name ∈ [['k'], ['l']],
      IsReadEntry ((⟨[(['k'], "a : b".toList)]⟩ : Descriptions).usage name) := by
    have described : IsReadEntry (readSettingsEntry "k : a : b".toList) :=
      isReadEntry_of_text (t := "- k : a : b".toList) ⟨by decide, by decide, by decide⟩ rfl
    have undescribed : IsReadEntry (readSettingsEntry ['l']) :=
      isReadEntry_of_text (t := "- l".toList) ⟨by decide, by decide, by decide⟩ rfl
    simp only [List.forall_mem_cons]
    exact ⟨described, undescribed, by simp⟩
  obtain ⟨settings, edit, result, read, planned, -, applied, again⟩ :=
    inserted_docblock_up_to_date_iff readerSource {} ⟨[(['k'], "a : b".toList)]⟩ settingReader
      (.inl rfl) (by decide) (by decide) (by decide) isPlain_settingReader
      (fun settings read => Except.ok.inj (used.symm.trans read) ▸ entries)
  obtain rfl := Except.ok.inj (used.symm.trans read)
  refine ⟨edit, result, planned, applied, again.2 ?_⟩
  rintro usages ⟨⟩
  decide

def colonReader : Declaration where
  kind := .function
  name := ['f']
  startLine := 1
  endLine := 1

def colonSource : Text :=
  "<?php\nfunction f() \x7b getSetting('a'); getSetting('a :'); \x7d\n".toList

/-- The entry `a : : b` is read under the name `a`, and the setting `a`, which has no description,
borrows the one found there. -/
theorem cut_name_lends_description :
    existingDocblock? (Text.lines colonSource) colonReader.startLine = none ∧
    colonReader.IsPlain ∧
    (planContext colonSource {} ⟨[("a :".toList, ['b'])]⟩).settingsNames colonReader =
      .ok [['a'], "a :".toList] ∧
    (∀ name ∈ [['a'], "a :".toList],
      IsReadEntry ((⟨[("a :".toList, ['b'])]⟩ : Descriptions).usage name)) ∧
    ∃ edit result,
      (planContext colonSource {} ⟨[("a :".toList, ['b'])]⟩).plan [colonReader] = .ok [edit] ∧
      applyEdits colonSource [edit] = .ok result ∧
      (planContext result {} ⟨[("a :".toList, ['b'])]⟩).plan
        [colonReader.moved 0 (Text.lines edit.text).length] ≠ .ok [] := by
  have bare : existingDocblock? (Text.lines colonSource) colonReader.startLine = none := by decide
  have plain : colonReader.IsPlain :=
    ⟨by decide, ⟨by decide, by decide, by decide⟩, by decide, by simp [colonReader],
      by simp [colonReader], by simp [colonReader], by simp [colonReader]⟩
  have read : (planContext colonSource {} ⟨[("a :".toList, ['b'])]⟩).settingsNames colonReader =
      .ok [['a'], "a :".toList] := by decide +kernel
  have entries : ∀ name ∈ [['a'], "a :".toList],
      IsReadEntry ((⟨[("a :".toList, ['b'])]⟩ : Descriptions).usage name) := by
    have undescribed : IsReadEntry (readSettingsEntry ['a']) :=
      isReadEntry_of_text (t := "- a".toList) ⟨by decide, by decide, by decide⟩ rfl
    have described : IsReadEntry (readSettingsEntry "a :\t : b".toList) :=
      isReadEntry_of_text (t := "- a :\t : b".toList) ⟨by decide, by decide, by decide⟩ rfl
    simp only [List.forall_mem_cons]
    exact ⟨undescribed, described, by simp⟩
  obtain ⟨edit, result, planned, -, applied, again⟩ := exists_rerun_of_bare colonSource {}
    ⟨[("a :".toList, ['b'])]⟩ (by decide) (by decide) (by decide) bare plain read entries
  refine ⟨bare, plain, read, entries, edit, result, planned, applied, fun empty => ?_⟩
  -- The second pass writes `- a : : b` for both settings.
  have settled := again.1 empty
  revert settled
  decide +kernel

end PlanContext

end DocblockSync
