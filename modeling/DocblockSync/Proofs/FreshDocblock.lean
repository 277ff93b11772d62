import DocblockSync.Proofs.MergedFields
import DocblockSync.Proofs.Reformatting

/-! A docblock made from the source alone, written and read again. Parameters, the return type and the
thrown types come back as they were, so merging the source into what was read changes nothing in
them. Only a setting without a description can gain one: from another entry whose name ends with
` :` and is cut to its own name. -/

namespace DocblockSync.Docblock

open Text

/-- A type that stands in a tag as one word and cannot be taken for a variable. -/
structure IsPlainType (t : Text) : Prop where
  solid : t ≠ []
  unspaced : ∀ c ∈ t, isBlank c = false
  unnamed : '$' ∉ t
  unclosed : contains closer t = false
  unsigned : startsWith ['&'] t = false ∧ startsWith ['.'] t = false

theorem typeToken_of_unspaced {t : Text} (unspaced : ∀ c ∈ t, isBlank c = false) (depth : Int) :
    typeToken depth t = t := by
  fun_induction typeToken depth t with
  | case1 => rfl
  | case4 _ c _ _ _ ended => simp [unspaced c (by simp)] at ended
  | case2 _ _ _ _ ih | case3 _ _ _ _ _ ih | case5 _ _ _ _ _ _ ih =>
      rw [ih fun c member => unspaced c (List.mem_cons_of_mem _ member)]

namespace IsPlainType

theorem isWord {t : Text} (plain : IsPlainType t) : IsWord t := ⟨plain.solid, plain.unspaced⟩

theorem isContent {t : Text} (plain : IsPlainType t) : IsContent t where
  trimmed := trimEnd_of_unspaced plain.unspaced
  unclosed := plain.unclosed
  single := fun feed => absurd (plain.unspaced '\n' feed) (by decide)

theorem isParamType {t : Text} (plain : IsPlainType t) : IsParamType t where
  toIsContent := plain.isContent
  starts := by
    obtain ⟨c, rest, rfl⟩ := List.exists_cons_of_ne_nil plain.solid
    have dollar : c ≠ '$' := fun same => plain.unnamed (by simp [same])
    have ampersand : c ≠ '&' := fun same => by simpa [same, startsWith] using plain.unsigned.1
    have dot : c ≠ '.' := fun same => by simpa [same, startsWith] using plain.unsigned.2
    exact ⟨c, rest, rfl, by simp [startsType, plain.unspaced c (by simp), dollar, ampersand, dot]⟩
  unread := by
    intro u v split solid
    obtain ⟨c, rest, rfl⟩ := List.exists_cons_of_ne_nil solid
    have member : c ∈ t := List.mem_of_mem_tail (by rw [split]; simp)
    exact readVariable?_cons_of_not_blank (plain.unspaced c member) rest

theorem isReadableReturn {t : Text} (plain : IsPlainType t) : IsReadableReturn t none where
  starts := by
    obtain ⟨c, rest, rfl⟩ := List.exists_cons_of_ne_nil plain.solid
    exact ⟨c, rest, rfl, plain.unspaced c (by simp)⟩
  unclosed := plain.unclosed
  single := plain.isContent.single
  trimmed := fun _ => plain.isContent.trimmed
  token := by
    rw [describedTail, List.append_nil]
    exact typeToken_of_unspaced plain.unspaced 0
  description := by simp

theorem isContent_throwing {t : Text} (plain : IsPlainType t) : IsContent (Tag.throwing t).text := by
  have text : (Tag.throwing t).text = "@throws ".toList ++ t := rfl
  rw [text]
  refine ⟨trimEnd_append_of_trimEnd_eq plain.isContent.trimmed plain.solid _, ?_, ?_⟩
  · simpa [contains_closer_cons] using plain.unclosed
  · simpa using plain.isContent.single

theorem isKept_throwing {t : Text} (plain : IsPlainType t) : IsKept (Tag.throwing t) where
  content := plain.isContent_throwing
  solid := fun empty => by
    have tagged := tagName?_throwing t
    rw [empty] at tagged
    cases tagged
  authored := by
    rw [trimStart_of_tagName? (tagName?_throwing t), isRegenerated, tagName?_throwing]
    simp
  start := fun _ => trimStart_of_tagName? (tagName?_throwing t)
  faithful := by
    intro padding blank laid
    obtain ⟨-, rest, split⟩ := exists_of_isLaidOut laid
    have raw : (Tag.throwing t).raw = [] := rfl
    rw [raw] at split
    have size := congrArg List.length split
    have three : " * ".toList.length = 3 := rfl
    simp only [List.length_append, List.length_nil] at size
    omega
  continuation := by
    have none : (Tag.throwing t).continuation = [] := rfl
    simp [none]

end IsPlainType

theorem isSorted_foldl_addThrow (thrown : List Text) : IsSorted (thrown.foldl addThrow []) := by
  refine ⟨fun tag member leading => ?_, fun tag found => ?_, fun tag member => ?_⟩
  · obtain ⟨t, -, rfl⟩ := exists_throwing_of_mem member
    cases leading
  · obtain ⟨t, -, rfl⟩ := exists_throwing_of_mem (List.mem_of_find?_eq_some found)
    cases List.find?_some found
  · obtain ⟨t, -, rfl⟩ := exists_throwing_of_mem member
    have raw : (Tag.throwing t).raw = [] := rfl
    rw [raw]
    decide

theorem reconcileThrows_of_texts {thrown : List Text} (plain : ∀ t ∈ thrown, IsPlainType t)
    {tags : List Tag} (texts : tags.map Tag.text = (thrown.foldl addThrow []).map Tag.text) :
    reconcileThrows tags thrown = tags := by
  have byText : ∀ tags : List Tag, tags.filterMap Tag.throwsType? =
      (tags.map Tag.text).filterMap fun text => Tag.throwsType? { text } := by
    intro tags
    rw [List.filterMap_map]
    rfl
  have stays : ∀ tag ∈ tags, staysThrown thrown tag = true := by
    intro tag member
    have listed : tag.text ∈ (thrown.foldl addThrow []).map Tag.text := by
      rw [← texts]
      exact List.mem_map_of_mem member
    obtain ⟨added, inside, same⟩ := List.mem_map.1 listed
    obtain ⟨t, among, rfl⟩ := exists_throwing_of_mem inside
    have type : tag.throwsType? = some t := by
      have alike : tag.throwsType? = Tag.throwsType? { text := tag.text } := rfl
      rw [alike, ← same]
      exact throwsType?_throwing (plain t among).isWord
    have named : (thrown.any fun type => sameType type t) = true :=
      List.any_eq_true.2 ⟨t, among, sameType_self t⟩
    rw [staysThrown, type, Option.any_some, named, Bool.or_true]
  refine reconcileThrows_eq_self stays fun t member => ?_
  rw [documentsThrow, byText, texts, ← byText]
  exact documentsThrow_of_mem (fun t among => (plain t among).isWord) member []

/-- Derived fields whose texts can stand in tags, with one parameter of each name. -/
structure IsPlainFields (derived : DerivedFields) : Prop where
  distinct : ∀ parameters ∈ derived.parameters, (parameters.map Parameter.name).Nodup
  parameters : ∀ parameters ∈ derived.parameters, ∀ p ∈ parameters,
    p.name ≠ [] ∧ (∀ c ∈ p.name, isWordChar c = true) ∧ ∀ type ∈ p.declaredType, IsPlainType type
  returnType : ∀ type ∈ derived.returnType, IsPlainType type
  throws : ∀ thrown ∈ derived.throws, ∀ type ∈ thrown, IsPlainType type
  settings : ∀ usages ∈ derived.settings, ∀ usage ∈ usages, IsReadEntry usage

theorem mergeSettings_nil (usages : List SettingsUsage) : mergeSettings usages [] = usages := by
  have same : ∀ usage : SettingsUsage,
      { usage with description := usage.description.or (documentedDescription? [] usage.name) } =
        usage := by
    intro usage
    simp [documentedDescription?]
  simp [mergeSettings, same]

def made (derived : DerivedFields) : Docblock := merge {} derived

theorem made_eq (derived : DerivedFields) :
    made derived =
      { parameters := (derived.parameters.getD []).map fun param => mergeParam param none
        returnType := derived.returnType
        settings := derived.settings.getD []
        otherTags := (derived.throws.getD []).foldl addThrow [] } := by
  rw [made, merge, Option.or_none]
  congr 1
  · cases derived.parameters <;> rfl
  · cases derived.settings <;> simp [mergeSettings_nil]
  · cases derived.throws <;> rfl

theorem forall_getD {α : Type} {known : Option (List α)} {P : α → Prop}
    (all : ∀ entries ∈ known, ∀ x ∈ entries, P x) : ∀ x ∈ known.getD [], P x := by
  cases known with
  | none => simp
  | some entries => exact all entries rfl

theorem isReadableParam_mergeParam {p : Parameter} (named : p.name ≠ [])
    (word : ∀ c ∈ p.name, isWordChar c = true) (plain : ∀ type ∈ p.declaredType, IsPlainType type) :
    IsReadableParam (mergeParam p none) := by
  refine ⟨named, word, fun type known => ?_, by simp [mergeParam]⟩
  obtain rfl := Option.some.inj known
  cases declared : p.declaredType with
  | none => exact isParamType_mixed
  | some written => exact (plain written declared).isParamType

theorem isOrderly_made {derived : DerivedFields} (plain : IsPlainFields derived) :
    IsOrderly (made derived) := by
  rw [made_eq]
  refine
    { summary := by simp
      parameters := fun param member => ?_
      returns := ?_
      returnContinuation := by simp
      settings := forall_getD plain.settings
      tags := fun tag member => ?_
      tidy := isTidy_nil
      sorted := isSorted_foldl_addThrow _ }
  · obtain ⟨p, inside, rfl⟩ := List.mem_map.1 member
    obtain ⟨named, word, type⟩ := forall_getD plain.parameters p inside
    exact ⟨isReadableParam_mergeParam named word type, by simp [mergeParam]⟩
  · cases known : derived.returnType with
    | none => exact isReadableReturn_void (by simp)
    | some type => exact (plain.returnType type known).isReadableReturn
  · obtain ⟨t, among, rfl⟩ := exists_throwing_of_mem member
    exact (forall_getD plain.throws t among).isKept_throwing

/-- Whether a setting without a description gains one from the entries as they are read back. -/
def borrows (usages : List SettingsUsage) (usage : SettingsUsage) : Bool :=
  usage.description.isNone &&
    (documentedDescription? (usages.map SettingsUsage.reread) usage.name).any (· != usage.name)

theorem isReadEntry_merged {old : List SettingsUsage} (read : ∀ usage ∈ old, IsReadEntry usage)
    {usage : SettingsUsage} (entry : IsReadEntry usage) :
    IsReadEntry { usage with
      description := usage.description.or (documentedDescription? old usage.name) } where
  named := entry.named
  start := entry.start
  name := entry.name
  undivided := entry.undivided
  description := by
    intro d known
    rcases Option.or_eq_some_iff.1 known with own | ⟨-, found⟩
    · exact entry.description d own
    · obtain ⟨other, member, described⟩ := exists_of_documentedDescription? found
      exact (read other member).description d described

theorem settingsEntry_merged_iff {usages : List SettingsUsage}
    (read : ∀ usage ∈ usages, IsReadEntry usage) {usage : SettingsUsage} (member : usage ∈ usages) :
    settingsEntry { usage with
        description := usage.description.or
          (documentedDescription? (usages.map SettingsUsage.reread) usage.name) } =
      settingsEntry usage ↔ borrows usages usage = false := by
  have entry := read usage member
  have reread : ∀ other ∈ usages.map SettingsUsage.reread, IsReadEntry other := by
    intro other inside
    obtain ⟨source, among, rfl⟩ := List.mem_map.1 inside
    exact (read source among).reread
  have merged := isReadEntry_merged reread entry
  rw [settingsEntry_eq merged, settingsEntry_eq entry, List.append_cancel_left_eq, entryText,
    entryText, borrows]
  obtain ⟨name, description⟩ := usage
  cases description with
  | some d => simp
  | none =>
      cases documentedDescription? (usages.map SettingsUsage.reread) name with
      | none => simp
      | some d =>
          have none : (SettingsUsage.mk name none).withoutEcho.description = none := rfl
          rw [Option.none_or, SettingsUsage.description_withoutEcho, none]
          by_cases echo : d = name <;> simp [echo]

theorem throws_of_mem_made {derived : DerivedFields} {tag : Tag}
    (member : tag ∈ (made derived).otherTags) : tag.isThrows = true := by
  rw [made_eq] at member
  obtain ⟨t, -, rfl⟩ := exists_throwing_of_mem member
  exact isThrows_throwing t

theorem filter_silent_made (derived : DerivedFields) :
    ((made derived).otherTags.filter fun tag => !tag.isThrows) = [] := by
  rw [List.filter_eq_nil_iff]
  intro tag member
  simp [throws_of_mem_made member]

theorem sections_made (derived : DerivedFields) (site : Site) :
    (sections (made derived) site).leading = [] ∧
      (sections (made derived) site).trailing = [] := by
  have silent := filter_silent_made derived
  constructor
  · show (leadingTags (made derived)).flatMap _ = []
    rw [leadingTags, silent]
    rfl
  · show (trailingTags (made derived)).flatMap _ = []
    rw [trailingTags, silent]
    rfl

theorem isSettled_sections_made (derived : DerivedFields) (site : Site) :
    (sections (made derived) site).IsSettled := by
  obtain ⟨leading, trailing⟩ := sections_made derived site
  refine ⟨fun _ => leading, fun _ _ _ => ?_⟩
  rw [Sections.joined, Sections.tagged, leading, trailing]
  exact ⟨rfl, rfl⟩

theorem otherTags_eq_throwsTags {docblock : Docblock} (site : Site)
    (leading : (sections docblock site).leading = [])
    (trailing : (sections docblock site).trailing = []) :
    docblock.otherTags = docblock.throwsTags := by
  have upper : leadingTags docblock = [] := by
    rw [← List.isEmpty_iff, ← isEmpty_flatMap_tagTexts site.padding, List.isEmpty_iff]
    exact leading
  have lower : trailingTags docblock = [] := by
    rw [← List.isEmpty_iff, ← isEmpty_flatMap_tagTexts site.padding, List.isEmpty_iff]
    exact trailing
  refine (List.filter_eq_self.2 fun tag member => ?_).symm
  by_contra silent
  have kept : tag ∈ docblock.otherTags.filter fun tag => !tag.isThrows :=
    List.mem_filter.2 ⟨member, by simpa using silent⟩
  cases group : tag.leading with
  | true =>
      have inside : tag ∈ leadingTags docblock := List.mem_filter.2 ⟨kept, group⟩
      rw [upper] at inside
      cases inside
  | false =>
      have inside : tag ∈ trailingTags docblock := List.mem_filter.2 ⟨kept, by simp [group]⟩
      rw [lower] at inside
      cases inside

theorem sections_of_same_tags {docblock other : Docblock} (site : Site)
    (summary : docblock.summary = other.summary) (tags : docblock.otherTags = other.otherTags) :
    sections docblock site =
      { sections other site with
        entries := docblock.settings.map settingsEntry
        params := docblock.parameters.flatMap paramTexts
        returns :=
          if statesReturn docblock site then returnText docblock :: docblock.returnContinuation
          else [] } := by
  simp only [sections, titleTexts, leadingTags, trailingTags, throwsTags, summary, tags]

def remade (derived : DerivedFields) (site : Site) : Docblock :=
  (ofLines ((made derived).render site)).merge derived

section Made

variable {derived : DerivedFields} {site : Site} (source : IsPlainFields derived)
  (plain : site.IsPlain)

include source plain

theorem sections_ofLines_made :
    sections (ofLines ((made derived).render site)) site =
      { sections (made derived) site with
        entries := (made derived).settings.map fun usage => settingsEntry usage.reread } := by
  have orderly := isOrderly_made source
  rw [sections_ofLines_render orderly plain, Sections.renewed_of_isSettled
    (isSettled_sections_made derived site)]
  intro none
  have empty : (made derived).settings = [] := by
    rw [← List.map_eq_nil_iff (f := settingsEntry)]
    exact none
  rw [empty, List.map_nil]

variable (function : site.kind.isFunctionLike = true)

include function

theorem fields_ofLines_made :
    (ofLines ((made derived).render site)).parameters = (made derived).parameters ∧
      (ofLines ((made derived).render site)).returnType =
        some (derived.returnType.getD "void".toList) ∧
      (ofLines ((made derived).render site)).returnDescription = none ∧
      (ofLines ((made derived).render site)).returnContinuation = [] ∧
      (ofLines ((made derived).render site)).settings =
        (made derived).settings.map SettingsUsage.reread ∧
      thrown (ofLines ((made derived).render site)).otherTags = thrown (made derived).otherTags := by
  have typed : (made derived).parameters.map (fun param =>
      { param with typeHint := some (param.typeHint.getD "mixed".toList) }) =
        (made derived).parameters := by
    rw [made_eq]
    simp [mergeParam]
  have read := fields_ofLines_render (isOrderly_made source).toIsLegible plain.named
    plain.name.unclosed function plain.padding
  rw [typed, Docblock.fields, Fields.mk.injEq] at read
  rw [made_eq] at read ⊢
  exact read

theorem otherTags_remade :
    (remade derived site).otherTags = (ofLines ((made derived).render site)).otherTags := by
  obtain ⟨leading, trailing⟩ := sections_made derived site
  have same := sections_ofLines_made source plain
  have found := otherTags_eq_throwsTags site
    ((congrArg Sections.leading same).trans leading) ((congrArg Sections.trailing same).trans trailing)
  have written := otherTags_eq_throwsTags site leading trailing
  obtain ⟨-, -, -, -, -, throws⟩ := fields_ofLines_made source plain function
  have texts : (ofLines ((made derived).render site)).otherTags.map Tag.text =
      (made derived).otherTags.map Tag.text := by
    have first := congrArg (List.map Prod.fst) throws
    simp only [thrown_otherTags, List.map_map] at first
    rw [found, written]
    exact first
  cases known : derived.throws with
  | none => rw [remade, merge, known]
  | some types =>
      have added : (made derived).otherTags = types.foldl addThrow [] := by
        rw [made_eq, known]
        rfl
      rw [added] at texts
      rw [remade, merge, known]
      exact reconcileThrows_of_texts (source.throws types known) texts

theorem parameters_remade : (remade derived site).parameters = (made derived).parameters := by
  obtain ⟨read, -⟩ := fields_ofLines_made source plain function
  cases known : derived.parameters with
  | none => rw [remade, merge, known, read]
  | some parameters =>
      have written : (made derived).parameters =
          parameters.map fun param => mergeParam param none := by
        rw [made_eq, known]
        rfl
      have merged : (remade derived site).parameters =
          parameters.map fun param => mergeParam param
            ((ofLines ((made derived).render site)).param? param.name) := by
        rw [remade, merge, known]
      rw [merged, written]
      -- Distinct names make each parameter find its own tag.
      refine List.map_congr_left fun param member => ?_
      rw [param?, read, written, find?_map_mergeParam (source.distinct parameters known)
        (fun _ => none) member, mergeParam_mergeParam]

theorem settings_remade :
    (remade derived site).settings =
      mergeSettings (made derived).settings ((made derived).settings.map SettingsUsage.reread) := by
  obtain ⟨-, -, -, -, read, -⟩ := fields_ofLines_made source plain function
  have written : (made derived).settings = derived.settings.getD [] := by rw [made_eq]
  rw [written] at read ⊢
  rw [remade, merge, read]
  cases derived.settings <;> rfl

theorem returnType_remade :
    (remade derived site).returnType = some (derived.returnType.getD "void".toList) := by
  obtain ⟨-, read, -⟩ := fields_ofLines_made source plain function
  rw [remade, merge, read]
  cases derived.returnType <;> rfl

theorem returnDescription_remade : (remade derived site).returnDescription = none := by
  rw [remade, returnDescription_merge]
  exact (fields_ofLines_made source plain function).2.2.1

theorem returnContinuation_remade : (remade derived site).returnContinuation = [] := by
  rw [remade, returnContinuation_merge]
  exact (fields_ofLines_made source plain function).2.2.2.1

theorem returnTexts_remade :
    returnText (remade derived site) :: (remade derived site).returnContinuation =
      returnText (made derived) :: (made derived).returnContinuation := by
  have text : ∀ docblock : Docblock, returnText docblock =
      returnText
        { returnType := docblock.returnType
          returnDescription := docblock.returnDescription } := fun _ => rfl
  have again := returnText_reread (made derived)
  rw [made_eq] at again ⊢
  rw [text, returnType_remade source plain function, returnDescription_remade source plain function,
    returnContinuation_remade source plain function]
  exact congrArg (· :: []) again

theorem sections_remade :
    sections (remade derived site) site =
      { sections (made derived) site with
        entries := (remade derived site).settings.map settingsEntry } := by
  have summary : (remade derived site).summary = (ofLines ((made derived).render site)).summary := by
    rw [remade, summary_merge]
  have states : ∀ docblock : Docblock, statesReturn docblock site = true := fun docblock => by
    rw [statesReturn, function, Bool.true_or]
  have returns : (sections (made derived) site).returns =
    returnText (made derived) :: (made derived).returnContinuation := if_pos (states _)
  rw [sections_of_same_tags site summary (otherTags_remade source plain function),
    sections_ofLines_made source plain, parameters_remade source plain function, if_pos (states _),
    returnTexts_remade source plain function, ← returns]
  rfl

theorem isReadEntry_of_mem_remade {usage : SettingsUsage}
    (member : usage ∈ (remade derived site).settings) : IsReadEntry usage := by
  have fresh := (isOrderly_made source).settings
  rw [settings_remade source plain function] at member
  obtain ⟨written, inside, rfl⟩ := List.mem_map.1 member
  refine isReadEntry_merged (fun other among => ?_) (fresh written inside)
  obtain ⟨entry, listed, rfl⟩ := List.mem_map.1 among
  exact (fresh entry listed).reread

theorem isOrderly_remade : IsOrderly (remade derived site) := by
  have fresh := isOrderly_made source
  have read := isOrderly_ofLines_render fresh plain
  have tags := otherTags_remade source plain function
  have summary : (remade derived site).summary = (ofLines ((made derived).render site)).summary := by
    rw [remade, summary_merge]
  constructor
  · constructor
    · rw [summary]
      exact read.summary
    · rw [parameters_remade source plain function]
      exact fresh.parameters
    · have type : (made derived).returnType = derived.returnType := by rw [made_eq]
      have description : (made derived).returnDescription = none := by rw [made_eq]
      rw [returnType_remade source plain function, returnDescription_remade source plain function,
        Option.getD_some, ← type, ← description]
      exact fresh.returns
    · simp [returnContinuation_remade source plain function]
    · exact fun usage => isReadEntry_of_mem_remade source plain function
    · rw [tags]
      exact read.tags
  · rw [summary]
    exact read.tidy
  · rw [tags]
    exact read.sorted

/-- Bringing a new docblock up to date leaves it as it is exactly if no setting borrows a
description. -/
theorem render_remade_eq_iff :
    (remade derived site).render site = (made derived).render site ↔
      ∀ usage ∈ (made derived).settings, borrows (made derived).settings usage = false := by
  have fresh := isOrderly_made source
  have entries : (sections (made derived) site).entries =
      (made derived).settings.map settingsEntry := rfl
  rw [render_eq_iff_texts_eq (isOrderly_remade source plain function) plain fresh,
    sections_remade source plain function, settings_remade source plain function,
    Sections.texts_eq_iff_entries_eq, entries, mergeSettings, List.map_map, List.map_inj_left]
  · exact forall₂_congr fun usage member => settingsEntry_merged_iff fresh.settings member
  · rw [entries, mergeSettings]
    simp only [List.isEmpty_map]

end Made

end DocblockSync.Docblock
