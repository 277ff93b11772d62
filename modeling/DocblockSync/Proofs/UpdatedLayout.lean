import DocblockSync.Proofs.BodySpacing
import DocblockSync.Proofs.MergedFields
import DocblockSync.Proofs.Sections

/-! The layout of a function's docblock once it is brought up to date. Whatever the author wrote and
the source determines, the merged docblock can be written: its texts close nothing, and its only
return tag is the one the layout writes below all others. -/

namespace DocblockSync.Docblock

open Text

/-- Derived fields without a closing delimiter. -/
structure IsUnclosedFields (derived : DerivedFields) : Prop where
  parameters : ∀ parameters ∈ derived.parameters, ∀ param ∈ parameters,
    contains closer param.name = false ∧ ∀ type ∈ param.declaredType, contains closer type = false
  returnType : ∀ type ∈ derived.returnType, contains closer type = false
  throws : ∀ thrown ∈ derived.throws, ∀ type ∈ thrown, contains closer type = false
  settings : ∀ usages ∈ derived.settings, ∀ usage ∈ usages,
    contains closer usage.name = false ∧ ∀ d ∈ usage.description, contains closer d = false

theorem contains_closer_paramType {declared documented : Option Text}
    (first : ∀ type ∈ declared, contains closer type = false)
    (second : ∀ type ∈ documented, contains closer type = false) :
    contains closer (paramType declared documented) = false := by
  cases declared with
  | none =>
      cases documented with
      | none => decide
      | some documented => exact second documented rfl
  | some declared =>
      cases documented with
      | none => exact first declared rfl
      | some documented =>
          rw [paramType]
          split
          · exact second documented rfl
          · exact first declared rfl

section Merge

variable {old : Docblock} (legible : IsLegible old) {derived : DerivedFields}
  (unclosed : IsUnclosedFields derived)

include legible unclosed

theorem parameters_merge_writable :
    ∀ param ∈ (old.merge derived).parameters, contains closer (paramText param) = false ∧
      ∀ t ∈ param.continuation, IsFree t := by
  cases known : derived.parameters with
  | none =>
      have same : (old.merge derived).parameters = old.parameters := by rw [merge, known]
      rw [same]
      intro param member
      obtain ⟨readable, continuation⟩ := legible.parameters param member
      exact ⟨readable.isContent_paramText.unclosed, continuation⟩
  | some parameters =>
      rw [parameters_merge old known]
      intro doc member
      obtain ⟨param, inside, rfl⟩ := List.mem_map.1 member
      obtain ⟨name, declared⟩ := unclosed.parameters parameters known param inside
      have documented : ∀ doc ∈ old.param? param.name, IsReadableParam doc ∧
          ∀ t ∈ doc.continuation, IsFree t := fun doc found =>
        legible.parameters doc (List.mem_of_find?_eq_some found)
      refine ⟨contains_closer_paramText ?_ name ?_, ?_⟩
      · rintro type ⟨⟩
        refine contains_closer_paramType declared fun type found => ?_
        obtain ⟨doc, first, typed⟩ := Option.bind_eq_some_iff.1 found
        exact ((documented doc first).1.type type typed).unclosed
      · intro d found
        obtain ⟨doc, first, described⟩ := Option.bind_eq_some_iff.1 found
        exact ((documented doc first).1.description d described).1.unclosed
      · intro t inside
        cases first : old.param? param.name with
        | none =>
            rw [mergeParam, first] at inside
            cases inside
        | some doc =>
            rw [mergeParam, first] at inside
            exact (documented doc first).2 t inside

theorem settings_merge_writable :
    ∀ usage ∈ (old.merge derived).settings, contains closer (settingsEntry usage) = false := by
  cases known : derived.settings with
  | none =>
      have same : (old.merge derived).settings = old.settings := by rw [merge, known]
      rw [same]
      exact fun usage member => (isContent_settingsEntry (legible.settings usage member)).unclosed
  | some usages =>
      rw [settings_merge old known]
      intro merged member
      obtain ⟨usage, inside, rfl⟩ := List.mem_map.1 member
      obtain ⟨name, description⟩ := unclosed.settings usages known usage inside
      refine contains_closer_settingsEntry name fun d found => ?_
      rcases Option.or_eq_some_iff.1 found with own | ⟨-, documented⟩
      · exact description d own
      · obtain ⟨usage', inside', described⟩ := exists_of_documentedDescription? documented
        exact ((legible.settings usage' inside').description d described).1.unclosed

theorem otherTags_merge_writable :
    ∀ tag ∈ (old.merge derived).otherTags,
      IsKept tag ∨ ∃ type, contains closer type = false ∧ tag = Tag.throwing type := by
  cases known : derived.throws with
  | none =>
      have same : (old.merge derived).otherTags = old.otherTags := by rw [merge, known]
      rw [same]
      exact fun tag member => .inl (legible.tags tag member)
  | some thrown =>
      rw [otherTags_merge old known]
      intro tag member
      rcases exists_of_mem_foldl_addThrow member with kept | ⟨type, inside, rfl⟩
      · exact .inl (legible.tags tag (List.mem_of_mem_filter kept))
      · exact .inr ⟨type, unclosed.throws thrown known type inside, rfl⟩

theorem returnText_merge_unclosed : contains closer (returnText (old.merge derived)) = false := by
  refine contains_closer_returnText (fun type known => ?_) fun d known =>
    (legible.returns.description d known).1.unclosed
  rcases Option.or_eq_some_iff.1 known with found | ⟨-, found⟩
  · exact unclosed.returnType type found
  · have readable := legible.returns.unclosed
    rwa [found, Option.getD_some] at readable

theorem isWritable_merge (tidy : IsTidy old.summary) : IsWritable (old.merge derived) where
  tidy := tidy
  summary := legible.summary
  settings := settings_merge_writable legible unclosed
  parameters := parameters_merge_writable legible unclosed
  tags := otherTags_merge_writable legible unclosed
  returns := returnText_merge_unclosed legible unclosed
  returnContinuation := legible.returnContinuation

end Merge

namespace IsWritable

variable {docblock : Docblock} {site : Site} (writable : IsWritable docblock)
  (blank : ∀ c ∈ site.padding, isBlank c = true)

include writable blank

theorem isSolid_of_mem_continuation :
    ∀ line ∈ docblock.returnContinuation.map (textLine site.padding),
      IsSolid line ∧ lineTag? line = none := by
  intro line member
  obtain ⟨t, inside, rfl⟩ := List.mem_map.1 member
  have free := writable.returnContinuation t inside
  exact ⟨free.isSolid_textLine blank, lineTag?_textLine_of_isFree blank free⟩

theorem lineTag?_returnLine :
    lineTag? (textLine site.padding (returnText docblock)) = some "@return".toList :=
  lineTag?_textLine blank writable.returns (tagName?_returnText docblock)

theorem isBlankTag_returnLine :
    isBlankTag (textLine site.padding (returnText docblock)) = false :=
  isBlankTag_textLine_of_tagged blank writable.returns (tagName?_returnText docblock)

end IsWritable

theorem filter_isReturn {front below : List Text} {line : Text}
    (quiet : ∀ line ∈ front, lineTag? line ≠ some "@return".toList)
    (returns : lineTag? line = some "@return".toList)
    (untagged : ∀ line ∈ below, lineTag? line = none) :
    (front ++ line :: below).filter (fun line => lineTag? line == some "@return".toList) =
      [line] := by
  have above : front.filter (fun line => lineTag? line == some "@return".toList) = [] := by
    rw [List.filter_eq_nil_iff]
    exact fun other inside => by simpa using quiet other inside
  have rest : below.filter (fun line => lineTag? line == some "@return".toList) = [] := by
    rw [List.filter_eq_nil_iff]
    exact fun other inside => by simp [untagged other inside]
  rw [List.filter_append, above, List.filter_cons_of_pos (by simp [returns]), rest, List.nil_append]

/-- A function's docblock that is brought up to date starts with a line that is not blank and has
single blank lines. Its only return tag stands behind one of them, below all other tags and above
nothing but its own continuation. -/
theorem updated_body_spaced_with_return_last {existing : Option (List Text)}
    (closes : ∀ lines ∈ existing, closesAtMostAtEnd lines = true)
    (single : ∀ lines ∈ existing, ∀ line ∈ lines, '\n' ∉ line) {derived : DerivedFields}
    (unclosed : IsUnclosedFields derived) {site : Site} (plain : site.IsPlain)
    (function : site.kind.isFunctionLike = true) :
    ∃ body, ((existing.elim {} ofLines).merge derived).render site =
        (site.padding ++ opener) :: body ++ [site.padding ++ " */".toList] ∧
      IsSpaced site.padding body ∧
      ∃ above returnLine below, body = above ++ blankLine site.padding :: returnLine :: below ∧
        EndsSolid above ∧
        body.filter (fun line => lineTag? line == some "@return".toList) = [returnLine] ∧
        below = (existing.elim {} ofLines).returnContinuation.map (textLine site.padding) ∧
        ∀ line ∈ below, lineTag? line = none := by
  have blank := plain.padding
  have orderly : IsOrderly (existing.elim {} ofLines) := by
    cases existing with
    | none =>
        have empty : closesAtMostAtEnd [] = true := rfl
        exact isOrderly_ofLines empty (by simp)
    | some lines => exact isOrderly_ofLines (closes lines rfl) (single lines rfl)
  have writable := isWritable_merge orderly.toIsLegible unclosed orderly.tidy
  obtain ⟨above, preamble, body⟩ :=
    writable.exists_bodyLines blank plain.named plain.name.unclosed function
  have below := writable.isSolid_of_mem_continuation blank
  have whole : ∀ line ∈ bodyLines ((existing.elim {} ofLines).merge derived) site,
      contains closer line = false := by
    rw [body, List.forall_mem_append, List.map_cons, List.forall_mem_cons]
    exact ⟨fun line inside => (preamble.quiet line inside).unclosed,
      (contains_closer_textLine blank _).trans writable.returns,
      fun line inside => (below line inside).1.unclosed⟩
  rw [render, filterMap_sanitize?_of_unclosed whole, body, List.map_cons]
  refine ⟨_, rfl, preamble.toIsSpaced.append_solid ?_, above, _, _, List.append_assoc _ _ _,
    preamble.toIsSpaced.endsSolid blank, ?_, rfl, fun line inside => (below line inside).2⟩
  · rw [List.forall_mem_cons]
    exact ⟨writable.isBlankTag_returnLine blank, fun line inside => (below line inside).1.solid⟩
  · exact filter_isReturn (fun line inside => (preamble.quiet line inside).unreturned)
      (writable.lineTag?_returnLine blank) fun line inside => (below line inside).2

/-- A docblock with blank lines in a row, a tag above all others, a thrown type that is gone and a
return tag in the middle that goes on below. -/
def scatteredSections : List Text :=
  ["/**", " *", " * Adds up.", " *", " *", " * In order.", " * @deprecated since 2", " *   soon",
    " * @return int the sum", " *   of all", " * @throws Gone", " * @see other", " * @param int $a first",
    " */"].map String.toList

def scatteredFields : DerivedFields where
  parameters := some [⟨"a".toList, some "int".toList⟩, ⟨"b".toList, none⟩]
  returnType := some "float".toList
  throws := some ["Late ".toList]
  settings := some [⟨"size".toList, none⟩]

def scatteredBody : List Text :=
  [" * function add", " * Adds up.", " *", " * In order.", " *", " * @settings", " * - size", " *",
    " * @deprecated since 2", " *   soon", " * @param int $a first", " * @param mixed $b", " *",
    " * @throws Late ", " *", " * @see other", " *", " * @return float the sum",
    " *   of all"].map String.toList

theorem updated_body_spaced_with_return_last_scattered :
    IsUnclosedFields scatteredFields ∧
      ((ofLines scatteredSections).merge scatteredFields).render ⟨.function, "add".toList, []⟩ =
        "/**".toList :: scatteredBody ++ [" */".toList] ∧
      IsSpaced [] scatteredBody := by
  have unclosed : IsUnclosedFields scatteredFields := by
    refine ⟨?_, ?_, ?_, ?_⟩
    · rintro parameters ⟨⟩
      decide
    · rintro type ⟨⟩
      decide
    · rintro thrown ⟨⟩
      decide
    · rintro usages ⟨⟩
      decide
  have rendered : ((ofLines scatteredSections).merge scatteredFields).render
      ⟨.function, "add".toList, []⟩ = "/**".toList :: scatteredBody ++ [" */".toList] := by
    decide +kernel
  have plain : Site.IsPlain ⟨.function, "add".toList, []⟩ :=
    ⟨by decide, ⟨by decide, by decide, by decide⟩, by simp⟩
  have closes : ∀ lines ∈ some scatteredSections, closesAtMostAtEnd lines = true := by
    rintro lines ⟨⟩
    decide +kernel
  have single : ∀ lines ∈ some scatteredSections, ∀ line ∈ lines, '\n' ∉ line := by
    rintro lines ⟨⟩
    decide +kernel
  obtain ⟨body, same, spaced, -⟩ :=
    updated_body_spaced_with_return_last closes single unclosed plain rfl
  have whole : body = scatteredBody := by
    have lines := same.symm.trans rendered
    exact List.append_cancel_right (List.cons.inj lines).2
  exact ⟨unclosed, rendered, whole ▸ spaced⟩

end DocblockSync.Docblock
