import DocblockSync.Proofs.ThrownTypes

/-! Merging what the source determines, field by field. Each rule is stable on its own result: a type
shown once is shown again, a description filled in is found again under its name, and throws tags
that are up to date stay so. Merging the same fields a second time therefore changes nothing. -/

namespace DocblockSync.Docblock

open Text

attribute [ext] Docblock

@[simp]
theorem summary_merge (old : Docblock) (derived : DerivedFields) :
    (old.merge derived).summary = old.summary := rfl

@[simp]
theorem returnDescription_merge (old : Docblock) (derived : DerivedFields) :
    (old.merge derived).returnDescription = old.returnDescription := rfl

@[simp]
theorem returnContinuation_merge (old : Docblock) (derived : DerivedFields) :
    (old.merge derived).returnContinuation = old.returnContinuation := rfl

theorem parameters_merge (old : Docblock) {derived : DerivedFields} {parameters : List Parameter}
    (known : derived.parameters = some parameters) :
    (old.merge derived).parameters =
      parameters.map fun param => mergeParam param (old.param? param.name) := by
  rw [merge, known]

theorem settings_merge (old : Docblock) {derived : DerivedFields} {usages : List SettingsUsage}
    (known : derived.settings = some usages) :
    (old.merge derived).settings = mergeSettings usages old.settings := by
  rw [merge, known]

theorem otherTags_merge (old : Docblock) {derived : DerivedFields} {thrown : List Text}
    (known : derived.throws = some thrown) :
    (old.merge derived).otherTags = reconcileThrows old.otherTags thrown := by
  rw [merge, known]

theorem paramType_paramType (declared documented : Option Text) :
    paramType declared (some (paramType declared documented)) = paramType declared documented := by
  cases declared with
  | none => cases documented <;> rfl
  | some declared =>
      cases documented with
      | none =>
          rw [paramType, paramType]
          exact ite_self declared
      | some documented =>
          by_cases refined : refines declared documented = true
          · simp [paramType, refined]
          · simp [paramType, refined]

theorem mergeParam_mergeParam (param : Parameter) (old : Option ParamDoc) :
    mergeParam param (some (mergeParam param old)) = mergeParam param old := by
  simp [mergeParam, paramType_paramType]

theorem find?_map_mergeParam {parameters : List Parameter}
    (distinct : (parameters.map Parameter.name).Nodup) (old : Parameter → Option ParamDoc)
    {param : Parameter} (member : param ∈ parameters) :
    (parameters.map fun param => mergeParam param (old param)).find?
      (fun doc => doc.name == param.name) = some (mergeParam param (old param)) := by
  induction parameters with
  | nil => cases member
  | cons first rest ih =>
      rw [List.map_cons, List.nodup_cons] at distinct
      rw [List.map_cons]
      rcases List.mem_cons.1 member with rfl | member
      · exact List.find?_cons_of_pos (by simp [mergeParam])
      · have other : first.name ≠ param.name := fun same =>
          distinct.1 (same ▸ List.mem_map_of_mem member)
        rw [List.find?_cons_of_neg (by simpa [mergeParam] using other)]
        exact ih distinct.2 member

theorem documentedDescription?_cons (usage : SettingsUsage) (rest : List SettingsUsage)
    (name : Text) :
    documentedDescription? (usage :: rest) name =
      (documentedDescription? rest name).or (if usage.name == name then usage.description else none) := by
  simp [documentedDescription?, List.findSome?_append]

theorem exists_of_documentedDescription? {old : List SettingsUsage} {name description : Text}
    (found : documentedDescription? old name = some description) :
    ∃ usage ∈ old, usage.description = some description := by
  obtain ⟨usage, member, here⟩ := List.exists_of_findSome?_eq_some found
  split at here
  · exact ⟨usage, List.mem_reverse.1 member, here⟩
  · cases here

theorem documentedDescription?_of_not_mem {usages : List SettingsUsage} {name : Text}
    (absent : name ∉ usages.map SettingsUsage.name) : documentedDescription? usages name = none := by
  induction usages with
  | nil => rfl
  | cons usage rest ih =>
      rw [List.map_cons, List.mem_cons, not_or] at absent
      rw [documentedDescription?_cons, ih absent.2, Option.none_or,
        if_neg (by simpa using Ne.symm absent.1)]

theorem documentedDescription?_of_mem {usages : List SettingsUsage}
    (distinct : (usages.map SettingsUsage.name).Nodup) {usage : SettingsUsage}
    (member : usage ∈ usages) : documentedDescription? usages usage.name = usage.description := by
  induction usages with
  | nil => cases member
  | cons first rest ih =>
      rw [List.map_cons, List.nodup_cons] at distinct
      rw [documentedDescription?_cons]
      rcases List.mem_cons.1 member with rfl | member
      · rw [documentedDescription?_of_not_mem distinct.1, Option.none_or, if_pos (by simp)]
      · have other : first.name ≠ usage.name := fun same =>
          distinct.1 (same ▸ List.mem_map_of_mem member)
        rw [ih distinct.2 member, if_neg (by simpa using other), Option.or_none]

theorem mergeSettings_idem {usages : List SettingsUsage}
    (distinct : (usages.map SettingsUsage.name).Nodup) (old : List SettingsUsage) :
    mergeSettings usages (mergeSettings usages old) = mergeSettings usages old := by
  have names : (mergeSettings usages old).map SettingsUsage.name = usages.map SettingsUsage.name := by
    simp [mergeSettings]
  refine List.map_congr_left fun usage member => ?_
  have filled := documentedDescription?_of_mem (names ▸ distinct)
    (List.mem_map_of_mem (f := fun usage : SettingsUsage =>
      { usage with description := usage.description.or (documentedDescription? old usage.name) })
      member)
  rw [mergeSettings, filled, ← Option.or_assoc, Option.or_self]

/-- Derived fields with one parameter and one setting of each name, and thrown types that are
words. -/
structure IsDistinctFields (derived : DerivedFields) : Prop where
  parameters : ∀ parameters ∈ derived.parameters, (parameters.map Parameter.name).Nodup
  settings : ∀ usages ∈ derived.settings, (usages.map SettingsUsage.name).Nodup
  throws : ∀ thrown ∈ derived.throws, ∀ type ∈ thrown, IsWord type

theorem merge_merge (old : Docblock) {derived : DerivedFields} (distinct : IsDistinctFields derived) :
    (old.merge derived).merge derived = old.merge derived := by
  have parameters : ((old.merge derived).merge derived).parameters =
      (old.merge derived).parameters := by
    cases known : derived.parameters with
    | none => simp only [merge, known]
    | some parameters =>
        rw [parameters_merge _ known, parameters_merge old known]
        refine List.map_congr_left fun param member => ?_
        rw [param?, parameters_merge old known, find?_map_mergeParam
          (distinct.parameters parameters known) (fun param => old.param? param.name) member,
          mergeParam_mergeParam]
  have settings : ((old.merge derived).merge derived).settings = (old.merge derived).settings := by
    cases known : derived.settings with
    | none => simp only [merge, known]
    | some usages =>
        rw [settings_merge _ known, settings_merge old known,
          mergeSettings_idem (distinct.settings usages known)]
  have tags : ((old.merge derived).merge derived).otherTags = (old.merge derived).otherTags := by
    cases known : derived.throws with
    | none => simp only [merge, known]
    | some thrown =>
        rw [otherTags_merge _ known, otherTags_merge old known,
          reconcileThrows_idem (distinct.throws thrown known)]
  have returnType : ((old.merge derived).merge derived).returnType =
      (old.merge derived).returnType := by
    simp only [merge, ← Option.or_assoc, Option.or_self]
  exact Docblock.ext rfl parameters returnType rfl rfl settings tags

theorem texts_of_mem_merge {old : Docblock} {derived : DerivedFields} {parameters : List Parameter}
    (known : derived.parameters = some parameters) {doc : ParamDoc}
    (member : doc ∈ (old.merge derived).parameters) :
    doc.description = (old.param? doc.name).bind ParamDoc.description ∧
      doc.continuation = ((old.param? doc.name).map ParamDoc.continuation).getD [] := by
  rw [parameters_merge old known] at member
  obtain ⟨param, -, rfl⟩ := List.mem_map.1 member
  exact ⟨rfl, rfl⟩

theorem param?_of_first {old : Docblock} {above below : List ParamDoc} {first : ParamDoc}
    (split : old.parameters = above ++ first :: below)
    (new : ∀ doc ∈ above, doc.name ≠ first.name) : old.param? first.name = some first := by
  rw [param?, List.find?_eq_some_iff_append]
  exact ⟨by simp, above, below, split, fun doc inside => by simpa using new doc inside⟩

theorem param?_of_absent {old : Docblock} {name : Text}
    (absent : ∀ doc ∈ old.parameters, doc.name ≠ name) : old.param? name = none := by
  rw [param?, List.find?_eq_none]
  exact fun doc inside => by simpa using absent doc inside

/-- Merging the same fields twice is merging them once, and it keeps what the author wrote: the
summary, the texts of the return tag, and the texts of every parameter that is still there. -/
theorem merge_stable_and_keeps_texts (old : Docblock) {derived : DerivedFields}
    (distinct : IsDistinctFields derived) :
    (old.merge derived).merge derived = old.merge derived ∧
      (old.merge derived).summary = old.summary ∧
      (old.merge derived).returnDescription = old.returnDescription ∧
      (old.merge derived).returnContinuation = old.returnContinuation ∧
      ∀ parameters, derived.parameters = some parameters →
        (old.merge derived).parameters.map ParamDoc.name = parameters.map Parameter.name ∧
        ∀ doc ∈ (old.merge derived).parameters,
          (∀ above first below, old.parameters = above ++ first :: below →
            first.name = doc.name → (∀ other ∈ above, other.name ≠ doc.name) →
            doc.description = first.description ∧ doc.continuation = first.continuation) ∧
          ((∀ other ∈ old.parameters, other.name ≠ doc.name) →
            doc.description = none ∧ doc.continuation = []) := by
  refine ⟨merge_merge old distinct, rfl, rfl, rfl, fun parameters known => ⟨?_, ?_⟩⟩
  · rw [parameters_merge old known, List.map_map]
    exact List.map_congr_left fun param _ => rfl
  · intro doc member
    obtain ⟨description, continuation⟩ := texts_of_mem_merge known member
    rw [description, continuation]
    constructor
    · intro above first below split same new
      rw [← same] at new ⊢
      rw [param?_of_first split new]
      exact ⟨rfl, rfl⟩
    · intro absent
      rw [param?_of_absent absent]
      exact ⟨rfl, rfl⟩

def documentedTwice : Docblock where
  parameters := [⟨"limit".toList, some "int".toList, some "First".toList, ["more".toList]⟩,
    ⟨"limit".toList, some "float".toList, some "Second".toList, []⟩,
    ⟨"rows".toList, some "int[]".toList, none, []⟩]
  settings := [⟨"size".toList, some "old".toList⟩, ⟨"size".toList, some "new".toList⟩]
  otherTags := [{ text := "@throws gone".toList }]

def refinedFields : DerivedFields where
  parameters := some [⟨"rows".toList, some "array".toList⟩, ⟨"limit".toList, none⟩]
  throws := some ["\\Gone".toList]
  settings := some [⟨"size".toList, none⟩]

theorem merge_stable_and_keeps_texts_refined :
    IsDistinctFields refinedFields ∧ ∃ merged : Docblock,
      documentedTwice.merge refinedFields = merged ∧ merged.merge refinedFields = merged ∧
      merged.parameters = [⟨"rows".toList, some "int[]".toList, none, []⟩,
        ⟨"limit".toList, some "int".toList, some "First".toList, ["more".toList]⟩] ∧
      merged.settings = [⟨"size".toList, some "new".toList⟩] ∧
      merged.otherTags = documentedTwice.otherTags := by
  have distinct : IsDistinctFields refinedFields := by
    refine ⟨?_, ?_, ?_⟩
    · rintro parameters ⟨⟩
      decide
    · rintro usages ⟨⟩
      decide
    · rintro thrown ⟨⟩ type member
      rw [List.mem_singleton.1 member]
      decide
  obtain ⟨again, -⟩ := merge_stable_and_keeps_texts documentedTwice distinct
  exact ⟨distinct, _, rfl, again, by decide, by decide, by decide⟩

end DocblockSync.Docblock
