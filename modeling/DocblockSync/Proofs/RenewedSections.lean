import DocblockSync.Proofs.SectionReading

/-! What the sections of a docblock become when it is written and read again. Below a settings list no
tag is leading, and without settings, parameters and thrown types the kept tags become leading or
part of the summary; otherwise each text stays in its section. The state of reading is followed from
the head to the return type. -/

namespace DocblockSync.Docblock

open Text

namespace Sections

/-- The kept texts that join the summary where no settings, parameters or thrown types keep them
apart from it. -/
def joined (sections : Sections) : List Text :=
  (sections.leading ++ sections.trailing).takeWhile isUntagged

def tagged (sections : Sections) : List Text :=
  (sections.leading ++ sections.trailing).dropWhile isUntagged

/-- What the sections become when they are written and read again, with the given entries of the
settings list. -/
def renewed (sections : Sections) (entries : List Text) : Sections :=
  if !sections.entries.isEmpty then
    { sections with
      entries, leading := [], trailing := sections.leading ++ sections.trailing }
  else if !sections.params.isEmpty || !sections.throws.isEmpty then sections
  else
    { sections with
      opening := sections.opening ++ if sections.joined.isEmpty then [] else [] :: sections.joined
      leading := sections.tagged.takeWhile fun t => !isPrompt t
      trailing := sections.tagged.dropWhile fun t => !isPrompt t }

end Sections

def Sorting.sections (sorting : Sorting) (site : Site) : Sections where
  opening := tidySummary sorting.summary
  entries := sorting.settings.map settingsEntry
  leading := sorting.leading
  params := sorting.parameters.flatMap paramTexts
  throws := sorting.throws
  trailing := sorting.trailing
  returns :=
    if site.kind.isFunctionLike || sorting.returnType.isSome then
      returnText { returnType := sorting.returnType, returnDescription := sorting.returnDescription } ::
        sorting.returnContinuation
    else []

def headTexts (docblock : Docblock) (site : Site) : List Text :=
  (sections docblock site).opening ++ settingsTexts docblock ++
    gapTexts (sections docblock site).hasTags

def headSorting (docblock : Docblock) (site : Site) : Sorting where
  summary := (sections docblock site).opening ++
    gapTexts (!docblock.settings.isEmpty || (sections docblock site).hasTags)
  settings := docblock.settings.map SettingsUsage.reread
  inSummary := docblock.settings.isEmpty
  inGenerated := !docblock.settings.isEmpty

section Orderly

variable {docblock : Docblock} {site : Site} (orderly : IsOrderly docblock) (plain : site.IsPlain)

include orderly plain

theorem isFree_of_mem_opening {t : Text} (member : t ∈ (sections docblock site).opening) :
    t = [] ∨ IsFree t := by
  have content := isContent_of_mem_opening orderly plain member
  rcases List.mem_append.1 member with title | summary
  · obtain ⟨solid, untagged⟩ := untagged_titleTexts title
    rw [content.trimmed] at solid untagged
    exact .inr ⟨content, solid, untagged⟩
  · exact orderly.summary t summary

theorem sorting_readTexts_head :
    (Reading.readTexts site.padding {} (headTexts docblock site)).sorting site.padding =
      headSorting docblock site := by
  have blank := plain.padding
  have opening := Reading.readTexts_summary blank {} rfl rfl fun t =>
    isFree_of_mem_opening orderly plain
  rw [headTexts, Reading.readTexts_append, Reading.sorting_readTexts_gap blank,
    Reading.readTexts_append, opening, settingsTexts, headSorting]
  by_cases none : docblock.settings.isEmpty = true
  · rw [if_pos none, none, List.isEmpty_iff.1 none]
    cases (sections docblock site).hasTags <;> simp [Reading.readTexts, Reading.readLines,
      Reading.sorting, Sorting.addGapIf, Sorting.addGap, gapTexts, leadingTags, trailingTags, throwsTags]
  · rw [if_neg none, Bool.eq_false_iff.2 none, Reading.readTexts_cons,
      Reading.read_blank (text_contentLine_textLine blank isContent_nil),
      Reading.readTexts_settings blank _ orderly.settings, Sorting.addGapIf_of_not_inSummary rfl]
    simp [Reading.readBlank, Reading.sorting, gapTexts, leadingTags, trailingTags, throwsTags]

omit orderly in
theorem continues_readTexts_head (tags : (sections docblock site).hasTags = true) :
    (Reading.readTexts site.padding {} (headTexts docblock site)).continues = .nothing := by
  rw [headTexts, Reading.readTexts_append, tags, Reading.continues_readTexts_gap plain.padding]

theorem isInert_of_mem_flatMap_tagTexts {tags : List Tag} (subset : tags ⊆ docblock.otherTags)
    (silent : ∀ tag ∈ tags, tag.isThrows = false) {t : Text}
    (member : t ∈ tags.flatMap (tagTexts site.padding)) : IsContent t ∧ IsInert t := by
  have content := (isContent_of_mem_flatMap_tagTexts orderly plain subset member).1
  obtain ⟨tag, inside, member⟩ := List.mem_flatMap.1 member
  have kept := orderly.tags tag (subset inside)
  have line : textLine site.padding t ∈ tagLines site.padding tag := by
    rw [tagLines_eq_map plain.padding kept]
    exact List.mem_map_of_mem member
  have inert := Reading.isInert_of_mem_tagLines plain.padding kept (silent tag inside) line
  rw [text_contentLine_textLine plain.padding content] at inert
  exact ⟨content, inert⟩

theorem isInert_of_mem_leading {t : Text} (member : t ∈ (sections docblock site).leading) :
    IsContent t ∧ IsInert t :=
  isInert_of_mem_flatMap_tagTexts orderly plain (leadingTags_subset docblock)
    (fun tag inside => by simpa using (List.mem_filter.1 (List.mem_filter.1 inside).1).2) member

theorem isInert_of_mem_trailing {t : Text} (member : t ∈ (sections docblock site).trailing) :
    IsContent t ∧ IsInert t :=
  isInert_of_mem_flatMap_tagTexts orderly plain (trailingTags_subset docblock)
    (fun tag inside => by simpa using (List.mem_filter.1 (List.mem_filter.1 inside).1).2) member

theorem not_isPrompt_of_mem_leading {t : Text} (member : t ∈ (sections docblock site).leading) :
    isPrompt t = false := by
  obtain ⟨tag, inside, member⟩ := List.mem_flatMap.1 member
  have among := leadingTags_subset docblock inside
  rcases List.mem_cons.1 member with rfl | member
  · have unprompted := (orderly.sorted.unprompted tag among (List.mem_filter.1 inside).2).2
    rw [isPrompt, trimStart_contentLine_tagLine plain.padding (orderly.tags tag among)]
    simpa using unprompted
  · have free := (orderly.tags tag among).continuation t member
    exact not_isPrompt_of_isUntagged (by rw [isUntagged, free.untagged]; rfl)

omit plain in
theorem leadingTags_eq_filter : leadingTags docblock = docblock.otherTags.filter Tag.leading := by
  rw [leadingTags, List.filter_filter]
  refine List.filter_congr fun tag member => ?_
  cases leading : tag.leading with
  | false => rfl
  | true => simp [(orderly.sorted.unprompted tag member leading).1]

theorem not_isUntagged_head_leading {t : Text} {rest : List Text}
    (split : (sections docblock site).leading = t :: rest) : isUntagged t = false := by
  have texts : (leadingTags docblock).flatMap (tagTexts site.padding) = t :: rest := split
  cases tags : leadingTags docblock with
  | nil =>
      rw [tags] at texts
      cases texts
  | cons tag others =>
      have among : tag ∈ docblock.otherTags := leadingTags_subset docblock (by simp [tags])
      have first : docblock.otherTags.find? Tag.leading = some tag := by
        rw [← List.head?_filter, ← leadingTags_eq_filter orderly, tags]
        rfl
      have tagged := orderly.sorted.opened tag first
      rw [tags, List.flatMap_cons, tagTexts, List.cons_append, List.cons.injEq] at texts
      rw [← texts.1, isUntagged, trimStart_contentLine_tagLine plain.padding (orderly.tags tag among)]
      rwa [Option.isNone_eq_false_iff, Option.isSome_iff_ne_none]

def typedParams (docblock : Docblock) : List ParamDoc :=
  docblock.parameters.map fun param =>
    { param with typeHint := some (param.typeHint.getD "mixed".toList) }

def upperSorting (docblock : Docblock) (site : Site) : Sorting :=
  ((sections docblock site).leading.foldl Sorting.add (headSorting docblock site)).addParams
    (typedParams docblock)

omit orderly plain in
theorem upper_eq (docblock : Docblock) (site : Site) :
    (sections docblock site).upper = headTexts docblock site ++
      ((sections docblock site).leading ++ (sections docblock site).params) := by
  rw [Sections.upper, headTexts, settingsTexts]
  simp only [sections, List.isEmpty_map]

theorem sorting_readTexts_upper :
    (Reading.readTexts site.padding {} (sections docblock site).upper).sorting site.padding =
      upperSorting docblock site := by
  have blank := plain.padding
  have params : (sections docblock site).params = docblock.parameters.flatMap paramTexts := rfl
  rw [upper_eq, Reading.readTexts_append, Reading.readTexts_append, params,
    Reading.sorting_readTexts_params blank _ orderly.parameters, Reading.sorting_readTexts_tags blank,
    sorting_readTexts_head orderly plain, upperSorting, typedParams]
  · intro some
    refine continues_readTexts_head plain ?_
    rw [Sections.hasTags, Sections.isTagged]
    simp [some]
  · exact fun t => isInert_of_mem_leading orderly plain

theorem inSummary_upperSorting (tagged : (sections docblock site).isTagged = true) :
    (upperSorting docblock site).inSummary = false := by
  rw [Sections.isTagged, Bool.or_eq_true] at tagged
  rw [upperSorting, Sorting.addParams, Sorting.generate]
  rcases tagged with leading | params
  · cases split : (sections docblock site).leading with
    | nil =>
        rw [split] at leading
        cases leading
    | cons t rest =>
        have after := Sorting.inSummary_foldl_add_of_tagged
          (not_isUntagged_head_leading orderly plain split) rest (headSorting docblock site)
        simp only [after, Bool.false_and]
  · have some : docblock.parameters.isEmpty = false := by
      rw [← isEmpty_flatMap_paramTexts]
      exact Bool.not_eq_true' _ ▸ params
    simp [typedParams, List.isEmpty_map, some]

def lowerSorting (docblock : Docblock) (site : Site) : Sorting :=
  (sections docblock site).trailing.foldl Sorting.add
    ((upperSorting docblock site).addThrows (sections docblock site).throws)

omit orderly in
theorem continues_readTexts_middle (some : (sections docblock site).trailing ≠ []) :
    (Reading.readTexts site.padding {} ((sections docblock site).upper ++
      (sections docblock site).middle)).continues = .nothing := by
  have solid : (sections docblock site).trailing.isEmpty = false := by simpa using some
  rw [Sections.middle, Reading.readTexts_append, Reading.readTexts_append, Reading.readTexts_append]
  cases throws : (sections docblock site).throws with
  | cons t rest => exact Reading.continues_readTexts_gap plain.padding _
  | nil =>
      cases tagged : (sections docblock site).isTagged with
      | true =>
          rw [solid]
          exact Reading.continues_readTexts_gap plain.padding _
      | false =>
          have tags : (sections docblock site).hasTags = true := by
            rw [Sections.hasTags, solid]
            simp
          rw [Sections.isTagged, Bool.or_eq_false_iff, Bool.not_eq_false', Bool.not_eq_false',
            List.isEmpty_iff, List.isEmpty_iff] at tagged
          rw [upper_eq, tagged.1, tagged.2, List.append_nil, List.append_nil]
          exact continues_readTexts_head plain tags

theorem sorting_readTexts_middle :
    (Reading.readTexts site.padding {} ((sections docblock site).upper ++
      (sections docblock site).middle)).sorting site.padding =
        (upperSorting docblock site).addThrows (sections docblock site).throws := by
  have blank := plain.padding
  have above : (upperSorting docblock site).addGapIf ((sections docblock site).isTagged &&
      (!(sections docblock site).throws.isEmpty || !(sections docblock site).trailing.isEmpty)) =
        upperSorting docblock site := by
    cases tagged : (sections docblock site).isTagged with
    | false => rfl
    | true => exact Sorting.addGapIf_of_not_inSummary (inSummary_upperSorting orderly plain tagged) _
  have below : ((upperSorting docblock site).addThrows (sections docblock site).throws).addGapIf
      (!(sections docblock site).throws.isEmpty) =
        (upperSorting docblock site).addThrows (sections docblock site).throws := by
    cases (sections docblock site).throws with
    | nil => rfl
    | cons t rest =>
        refine Sorting.addGapIf_of_not_inSummary ?_ _
        simp [Sorting.addThrows, Sorting.generate]
  have throws : ∀ state : Reading,
      (state.readTexts site.padding (sections docblock site).throws).sorting site.padding =
        (state.sorting site.padding).addThrows (sections docblock site).throws := fun state =>
    Reading.sorting_readTexts_throwsTags blank state
      (fun tag inside => orderly.tags tag (throwsTags_subset docblock inside))
      (fun tag inside => orderly.sorted.single tag (throwsTags_subset docblock inside))
      (fun tag inside => (List.mem_filter.1 inside).2)
  rw [Sections.middle, Reading.readTexts_append, Reading.readTexts_append, Reading.readTexts_append,
    Reading.sorting_readTexts_gap blank, throws, Reading.sorting_readTexts_gap blank,
    sorting_readTexts_upper orderly plain, above, below]

theorem sorting_readTexts_lower :
    (Reading.readTexts site.padding {} ((sections docblock site).upper ++
      (sections docblock site).lowerTags)).sorting site.padding = lowerSorting docblock site := by
  rw [Sections.lowerTags, ← List.append_assoc, Reading.readTexts_append,
    Reading.sorting_readTexts_tags plain.padding (continues_readTexts_middle plain)
      fun t => isInert_of_mem_trailing orderly plain,
    sorting_readTexts_middle orderly plain, lowerSorting]

def wholeSorting (docblock : Docblock) (site : Site) : Sorting :=
  let above := (lowerSorting docblock site).addGapIf (statesReturn docblock site &&
    (!(sections docblock site).trailing.isEmpty ||
      ((sections docblock site).isTagged && (sections docblock site).throws.isEmpty)))
  if statesReturn docblock site then
    { above.generate true with
      returnType := some (docblock.returnType.getD "void".toList)
      returnDescription := docblock.returnDescription
      returnContinuation := docblock.returnContinuation }
  else above

theorem sorting_readTexts_texts :
    (Reading.readTexts site.padding {} (sections docblock site).texts).sorting site.padding =
      wholeSorting docblock site := by
  have blank := plain.padding
  rw [Sections.texts, Reading.readTexts_append, Sections.closing, Reading.readTexts_append,
    isEmpty_returns_sections, wholeSorting]
  have gap := Reading.sorting_readTexts_gap blank
    (Reading.readTexts site.padding {} ((sections docblock site).upper ++
      (sections docblock site).lowerTags)) (statesReturn docblock site &&
        (!(sections docblock site).trailing.isEmpty ||
          ((sections docblock site).isTagged && (sections docblock site).throws.isEmpty)))
  rw [sorting_readTexts_lower orderly plain] at gap
  by_cases states : statesReturn docblock site = true
  · have returns : (sections docblock site).returns =
        returnText docblock :: docblock.returnContinuation := if_pos states
    rw [returns, Reading.sorting_readTexts_return blank _ orderly.toIsLegible, gap, if_pos states]
  · have returns : (sections docblock site).returns = [] := if_neg states
    rw [returns, if_neg states]
    exact gap

omit orderly plain in
theorem addParams_nil (sorting : Sorting) : sorting.addParams [] = sorting := by
  simp [Sorting.addParams, Sorting.generate]

omit orderly plain in
theorem addThrows_nil (sorting : Sorting) : sorting.addThrows [] = sorting := by
  simp [Sorting.addThrows, Sorting.generate]

omit orderly plain in
theorem lowerSorting_of_settings (some : docblock.settings.isEmpty = false) :
    lowerSorting docblock site =
      { summary := (sections docblock site).opening ++ gapTexts true
        settings := docblock.settings.map SettingsUsage.reread
        parameters := typedParams docblock
        throws := (sections docblock site).throws
        trailing := (sections docblock site).leading ++ (sections docblock site).trailing
        inSummary := false
        inGenerated := true } := by
  have after : (headSorting docblock site).inSummary = false := some
  have generated : (headSorting docblock site).inGenerated = true := by rw [headSorting, some]; rfl
  have upper : upperSorting docblock site =
      { headSorting docblock site with
        parameters := typedParams docblock, trailing := (sections docblock site).leading } := by
    rw [upperSorting, Sorting.foldl_add_inGenerated after generated]
    simp [Sorting.addParams, Sorting.generate, headSorting, some]
  rw [lowerSorting, upper, Sorting.foldl_add_inGenerated] <;>
    simp [Sorting.addThrows, Sorting.generate, headSorting, some]

omit orderly plain in
theorem headSorting_of_none (none : docblock.settings.isEmpty = true) :
    headSorting docblock site =
      { summary := (sections docblock site).opening ++
          gapTexts (sections docblock site).hasTags } := by
  rw [headSorting, none, List.isEmpty_iff.1 none]
  rfl

theorem upperSorting_of_none (none : docblock.settings.isEmpty = true) :
    upperSorting docblock site =
      { summary := (sections docblock site).opening ++ gapTexts (sections docblock site).hasTags
        leading := (sections docblock site).leading
        parameters := typedParams docblock
        inSummary := (sections docblock site).leading.isEmpty && (typedParams docblock).isEmpty
        inGenerated := !(typedParams docblock).isEmpty } := by
  have tagged : (sections docblock site).leading.dropWhile isUntagged =
      (sections docblock site).leading := by
    cases split : (sections docblock site).leading with
    | nil => rfl
    | cons t rest => simp [not_isUntagged_head_leading orderly plain split]
  have joined : (sections docblock site).leading.takeWhile isUntagged = [] := by
    cases split : (sections docblock site).leading with
    | nil => rfl
    | cons t rest => simp [not_isUntagged_head_leading orderly plain split]
  have unprompted : ∀ t ∈ (sections docblock site).leading, (!isPrompt t) = true := fun t member => by
    rw [not_isPrompt_of_mem_leading orderly plain member]
    rfl
  rw [upperSorting, headSorting_of_none none, Sorting.foldl_add_start rfl rfl, tagged, joined,
    List.takeWhile_eq_self_iff.2 unprompted, List.dropWhile_eq_nil_iff.2 unprompted]
  simp [Sorting.addParams, Sorting.generate]

theorem lowerSorting_of_generated (none : docblock.settings.isEmpty = true)
    (some : (!(sections docblock site).params.isEmpty || !(sections docblock site).throws.isEmpty) =
      true) :
    lowerSorting docblock site =
      { summary := (sections docblock site).opening ++ gapTexts (sections docblock site).hasTags
        leading := (sections docblock site).leading
        parameters := typedParams docblock
        throws := (sections docblock site).throws
        trailing := (sections docblock site).trailing
        inSummary := false
        inGenerated := true } := by
  have params : (sections docblock site).params.isEmpty = (typedParams docblock).isEmpty := by
    rw [typedParams, List.isEmpty_map]
    exact isEmpty_flatMap_paramTexts docblock.parameters
  rw [params] at some
  have middle : (upperSorting docblock site).addThrows (sections docblock site).throws =
      { summary := (sections docblock site).opening ++ gapTexts (sections docblock site).hasTags
        leading := (sections docblock site).leading
        parameters := typedParams docblock
        throws := (sections docblock site).throws
        inSummary := false
        inGenerated := true } := by
    have after : ((sections docblock site).leading.isEmpty && (typedParams docblock).isEmpty &&
        (sections docblock site).throws.isEmpty) = false := by
      revert some
      cases (typedParams docblock).isEmpty <;> cases (sections docblock site).throws.isEmpty <;> simp
    rw [upperSorting_of_none orderly plain none]
    simp only [Sorting.addThrows, Sorting.generate, List.nil_append, Bool.not_not]
    rw [some, after]
  rw [lowerSorting, middle, Sorting.foldl_add_inGenerated rfl rfl]
  rfl

omit orderly plain in
theorem lowerSorting_of_plain (none : docblock.settings.isEmpty = true)
    (params : (sections docblock site).params = []) (throws : (sections docblock site).throws = []) :
    lowerSorting docblock site =
      { summary := (sections docblock site).opening ++ gapTexts (sections docblock site).hasTags ++
          (sections docblock site).joined
        leading := (sections docblock site).tagged.takeWhile fun t => !isPrompt t
        trailing := (sections docblock site).tagged.dropWhile fun t => !isPrompt t
        inSummary := (sections docblock site).tagged.isEmpty
        inGenerated :=
          !((sections docblock site).tagged.dropWhile fun t => !isPrompt t).isEmpty } := by
  have empty : typedParams docblock = [] := by
    rw [typedParams, List.map_eq_nil_iff, ← List.isEmpty_iff, ← isEmpty_flatMap_paramTexts,
      List.isEmpty_iff]
    exact params
  -- Nothing is read between the leading tags and the trailing ones, so both are one run of texts.
  rw [lowerSorting, upperSorting, throws, empty, addParams_nil, addThrows_nil, ← List.foldl_append,
    headSorting_of_none none, Sorting.foldl_add_start rfl rfl]
  rfl

omit orderly plain in
theorem flatMap_paramTexts_typedParams (docblock : Docblock) :
    (typedParams docblock).flatMap paramTexts = docblock.parameters.flatMap paramTexts := by
  rw [typedParams, List.flatMap_map]
  rfl

omit orderly plain in
theorem returnText_reread (docblock : Docblock) :
    returnText
        { returnType := some (docblock.returnType.getD "void".toList)
          returnDescription := docblock.returnDescription } = returnText docblock := by
  unfold returnText
  cases docblock.returnType <;> rfl

omit orderly plain in
theorem returnType_lowerSorting (docblock : Docblock) (site : Site) :
    (lowerSorting docblock site).returnType = none :=
  (Sorting.returnType_foldl_add _ _).trans
    (Sorting.returnType_foldl_add (headSorting docblock site) _)

omit orderly plain in
theorem sections_wholeSorting :
    (wholeSorting docblock site).sections site =
      { ((lowerSorting docblock site).addGapIf (statesReturn docblock site &&
          (!(sections docblock site).trailing.isEmpty || ((sections docblock site).isTagged &&
            (sections docblock site).throws.isEmpty)))).sections site with
        returns := (sections docblock site).returns } := by
  have missing := returnType_lowerSorting docblock site
  have returns : (sections docblock site).returns =
    if statesReturn docblock site then returnText docblock :: docblock.returnContinuation else [] := rfl
  rw [wholeSorting, returns]
  by_cases states : statesReturn docblock site = true
  · rw [if_pos states, if_pos states, ← returnText_reread]
    simp [Sorting.sections, Sorting.generate]
  · rw [if_neg states, if_neg states, Bool.eq_false_iff.2 states]
    rw [statesReturn, Bool.or_eq_true, not_or] at states
    simp [Sorting.sections, Sorting.addGapIf, missing, states.1]

omit orderly in
theorem titleTexts_or_named (docblock : Docblock) :
    titleTexts docblock site = [] ∧
        summaryNames docblock.summary (site.kind.label ++ ' ' :: site.name) site.name = true ∨
      titleTexts docblock site = [site.kind.label ++ ' ' :: site.name] := by
  have named : List.isEmpty site.name = false := by simpa using plain.named
  unfold titleTexts
  cases names : summaryNames docblock.summary (site.kind.label ++ ' ' :: site.name) site.name <;>
    simp [named, names]

theorem summaryNames_opening (rest : List Text) :
    summaryNames ((sections docblock site).opening ++ rest) (site.kind.label ++ ' ' :: site.name)
      site.name = true := by
  have opening : (sections docblock site).opening = titleTexts docblock site ++ docblock.summary := rfl
  rcases titleTexts_or_named plain docblock with ⟨none, names⟩ | title
  · rw [opening, none, List.nil_append]
    unfold summaryNames at names ⊢
    rw [List.map_append, List.find?_append]
    split at names
    · next first found => rw [found, Option.some_or]; exact names
    · cases names
  · have content : IsContent (site.kind.label ++ ' ' :: site.name) :=
      isContent_of_mem_opening orderly plain (by rw [opening, title]; simp)
    obtain ⟨c, others, label, solid, -⟩ := exists_label_cons site.kind
    have whole : trim (site.kind.label ++ ' ' :: site.name) = site.kind.label ++ ' ' :: site.name := by
      refine trim_eq_self ?_ content.trimmed
      rw [label]
      exact trimStart_cons_of_not_blank solid _
    rw [opening, title, summaryNames]
    simp [whole]

omit orderly plain in
theorem joined_append_tagged (sections : Sections) :
    sections.joined ++ sections.tagged = sections.leading ++ sections.trailing :=
  List.takeWhile_append_dropWhile

theorem ne_nil_of_mem_joined {t : Text} (member : t ∈ (sections docblock site).joined) : t ≠ [] := by
  have among : t ∈ (sections docblock site).leading ++ (sections docblock site).trailing :=
    (List.takeWhile_sublist _).subset member
  rcases List.mem_append.1 among with among | among
  · exact (isInert_of_mem_leading orderly plain among).2.solid
  · exact (isInert_of_mem_trailing orderly plain among).2.solid

omit orderly plain in
theorem hasTags_of_joined {sections : Sections} (some : sections.joined ≠ []) :
    sections.hasTags = true := by
  have kept : sections.leading ++ sections.trailing ≠ [] := by
    rw [← joined_append_tagged]
    simp [some]
  rw [Sections.hasTags, Sections.isTagged]
  revert kept
  cases sections.leading <;> cases sections.trailing <;> simp

theorem tidySummary_joined (params : (sections docblock site).params = []) :
    tidySummary ((sections docblock site).opening ++ gapTexts (sections docblock site).hasTags ++
        (sections docblock site).joined ++
        gapTexts ((statesReturn docblock site && (!(sections docblock site).trailing.isEmpty ||
          ((sections docblock site).isTagged && (sections docblock site).throws.isEmpty))) &&
            (sections docblock site).tagged.isEmpty)) =
      (sections docblock site).opening ++
        if (sections docblock site).joined.isEmpty then [] else
          [] :: (sections docblock site).joined := by
  have tidy : IsTidy (sections docblock site).opening :=
    isTidy_title_append_summary orderly.tidy site
  by_cases none : (sections docblock site).joined = []
  · -- If nothing joins the summary, a gap below the tags would follow a tag and not the summary.
    have kept := joined_append_tagged (sections docblock site)
    rw [none, List.nil_append] at kept
    have closed : ((statesReturn docblock site && (!(sections docblock site).trailing.isEmpty ||
        ((sections docblock site).isTagged && (sections docblock site).throws.isEmpty))) &&
          (sections docblock site).tagged.isEmpty) = false := by
      rw [kept, Sections.isTagged, params]
      cases (sections docblock site).leading <;> cases (sections docblock site).trailing <;> simp
    rw [closed, none]
    simpa [gapTexts] using tidy.tidySummary_append_gap (sections docblock site).hasTags
  · have whole := tidy.append (titleTexts_append_summary_ne_nil docblock plain.named)
      (IsTidy.of_solid fun t => ne_nil_of_mem_joined orderly plain) none
    rw [hasTags_of_joined none, if_neg (by simpa using none), gapTexts, if_pos rfl,
      List.append_assoc _ [[]]]
    exact whole.tidySummary_append_gap _

/-- What is read of a written docblock, with a summary that names the site. -/
theorem sections_wholeSorting_eq_renewed :
    (wholeSorting docblock site).sections site =
      (sections docblock site).renewed
        (docblock.settings.map fun usage => settingsEntry usage.reread) := by
  have tidy : IsTidy (sections docblock site).opening :=
    isTidy_title_append_summary orderly.tidy site
  have entries : (sections docblock site).entries.isEmpty = docblock.settings.isEmpty := by
    rw [sections, List.isEmpty_map]
  rw [sections_wholeSorting, Sections.renewed, entries]
  -- The cases are those of `renewed`: settings, other generated tags, neither.
  cases none : docblock.settings.isEmpty with
  | false =>
      rw [lowerSorting_of_settings none, Sorting.addGapIf_of_not_inSummary rfl, Sorting.sections,
        flatMap_paramTexts_typedParams, tidy.tidySummary_append_gap, List.map_map]
      rfl
  | true =>
      have nothing : (sections docblock site).entries = [] := List.isEmpty_iff.1 (entries.trans none)
      rw [Bool.not_true, if_neg (by simp)]
      split
      · next some =>
          rw [lowerSorting_of_generated orderly plain none some,
            Sorting.addGapIf_of_not_inSummary rfl, Sorting.sections, flatMap_paramTexts_typedParams,
            tidy.tidySummary_append_gap, List.map_nil, ← nothing]
          rfl
      · next missing =>
          simp only [Bool.or_eq_true, Bool.not_eq_true', List.isEmpty_eq_false_iff, not_or,
            not_not] at missing
          rw [lowerSorting_of_plain none missing.1 missing.2, Sorting.addGapIf_eq, Sorting.sections,
            tidySummary_joined orderly plain missing.1, missing.1, missing.2, nothing]
          rfl

omit orderly plain in
theorem exists_opening_renewed (sections : Sections) (entries : List Text) :
    ∃ rest, (sections.renewed entries).opening = sections.opening ++ rest := by
  unfold Sections.renewed
  split
  · exact ⟨[], (List.append_nil _).symm⟩
  · split
    · exact ⟨[], (List.append_nil _).symm⟩
    · exact ⟨_, rfl⟩

theorem exists_ofLines_render :
    ∃ state : Reading, state.sorting site.padding = wholeSorting docblock site ∧
      ofLines (docblock.render site) =
        { state.docblock with summary := tidySummary state.docblock.summary } := by
  refine ⟨_, sorting_readTexts_texts orderly plain, ?_⟩
  rw [ofLines, contentLines_render_eq_map_texts orderly plain]
  rfl

/-- Writing a docblock and reading it again renews its sections. -/
theorem sections_ofLines_render :
    sections (ofLines (docblock.render site)) site =
      (sections docblock site).renewed
        (docblock.settings.map fun usage => settingsEntry usage.reread) := by
  have renewed := sections_wholeSorting_eq_renewed orderly plain
  obtain ⟨state, sorted, read⟩ := exists_ofLines_render orderly plain
  rw [← sorted] at renewed
  -- The title was written, so the summary that is read names the site and gets no second title.
  obtain ⟨rest, opening⟩ := exists_opening_renewed (sections docblock site)
    (docblock.settings.map fun usage => settingsEntry usage.reread)
  rw [← renewed] at opening
  have summary : (ofLines (docblock.render site)).summary =
      (sections docblock site).opening ++ rest := by
    rw [read, ← opening]
    rfl
  have untitled : titleTexts (ofLines (docblock.render site)) site = [] := by
    rw [titleTexts, summary, if_pos]
    rw [summaryNames_opening orderly plain rest, Bool.or_true]
  have same : sections (ofLines (docblock.render site)) site =
      { (state.sorting site.padding).sections site with
        opening := titleTexts (ofLines (docblock.render site)) site ++
          (ofLines (docblock.render site)).summary } := by
    rw [sections, read]
    rfl
  rw [same, untitled, summary, ← renewed, List.nil_append, ← opening]

end Orderly

end DocblockSync.Docblock
