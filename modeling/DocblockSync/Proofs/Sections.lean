import DocblockSync.Proofs.OrderlyReading

/-! The body of a docblock as sections of texts. For a docblock whose parts can be read back, each body
line is a text behind the marker, and where the blank lines between the sections stand depends only
on which sections are empty. -/

namespace DocblockSync.Docblock

open Text

/-- The texts of the body lines, without the blank lines and the settings tag between the sections. -/
structure Sections where
  /-- Title and summary. -/
  opening : List Text
  /-- The entries of the settings list. -/
  entries : List Text
  leading : List Text
  params : List Text
  throws : List Text
  trailing : List Text
  returns : List Text

namespace Sections

def isTagged (sections : Sections) : Bool :=
  !sections.leading.isEmpty || !sections.params.isEmpty

def hasTags (sections : Sections) : Bool :=
  sections.isTagged || !sections.throws.isEmpty || !sections.trailing.isEmpty ||
    !sections.returns.isEmpty

def upper (sections : Sections) : List Text :=
  sections.opening ++
    (if sections.entries.isEmpty then [] else [] :: "@settings".toList :: sections.entries) ++
    gapTexts sections.hasTags ++ (sections.leading ++ sections.params)

def middle (sections : Sections) : List Text :=
  gapTexts (sections.isTagged && (!sections.throws.isEmpty || !sections.trailing.isEmpty)) ++
    sections.throws ++ gapTexts (!sections.throws.isEmpty)

def lowerTags (sections : Sections) : List Text := sections.middle ++ sections.trailing

/-- The return section behind a blank line, unless one stands there already. -/
def closing (sections : Sections) : List Text :=
  gapTexts (!sections.returns.isEmpty &&
      (!sections.trailing.isEmpty || (sections.isTagged && sections.throws.isEmpty))) ++
    sections.returns

def texts (sections : Sections) : List Text :=
  sections.upper ++ sections.lowerTags ++ sections.closing

end Sections

def tagTexts (padding : Text) (tag : Tag) : List Text :=
  (contentLine (tagLine padding tag)).text :: tag.continuation

def sections (docblock : Docblock) (site : Site) : Sections where
  opening := titleTexts docblock site ++ docblock.summary
  entries := docblock.settings.map settingsEntry
  leading := (leadingTags docblock).flatMap (tagTexts site.padding)
  params := docblock.parameters.flatMap paramTexts
  throws := docblock.throwsTags.flatMap (tagTexts site.padding)
  trailing := (trailingTags docblock).flatMap (tagTexts site.padding)
  returns :=
    if statesReturn docblock site then returnText docblock :: docblock.returnContinuation else []

section Padding

variable {padding : Text} (blank : ∀ c ∈ padding, isBlank c = true)

include blank

theorem contentLine_textLine {t : Text} (content : IsContent t) :
    contentLine (textLine padding t) = ⟨t, textLine padding t⟩ := by
  rw [contentLine, stripLine_textLine blank content.unclosed, content.trimmed]

theorem isLaidOut_textLine {t : Text} (content : IsContent t) (solid : t ≠ []) :
    isLaidOut padding (textLine padding t) = true := by
  have split : textLine padding t = padding ++ (" * ".toList ++ t) := by
    rw [textLine, if_neg (by simpa using solid), List.append_assoc]
  have unclosed := contains_closer_textLine blank t
  rw [content.unclosed] at unclosed
  rw [isLaidOut, unclosed, split, after?_append]
  simp

omit blank in
theorem trimEnd_textLine {t : Text} (content : IsContent t) :
    trimEnd (textLine padding t) = textLine padding t := by
  cases t with
  | nil =>
      have split : textLine padding [] = (padding ++ [' ']) ++ ['*'] := by simp [blankLine]
      rw [split]
      exact trimEnd_concat_of_not_blank (by decide) _
  | cons c t =>
      rw [textLine, if_neg (by simp)]
      exact trimEnd_append_of_trimEnd_eq content.trimmed (by simp) _

theorem stripLine_of_isLaidOut {rest : Text} (unclosed : contains closer rest = false) :
    stripLine false (padding ++ (" * ".toList ++ rest)) = (trimEnd rest, false) := by
  cases rest with
  | nil =>
      have same : trimEnd (padding ++ (" * ".toList ++ [])) = textLine padding [] := by
        have split : padding ++ (" * ".toList ++ []) = textLine padding [] ++ [' '] := by
          simp [blankLine]
        rw [split, trimEnd_append_of_blank (List.forall_mem_singleton.2 (by decide)),
          trimEnd_textLine isContent_nil]
      rw [← stripLine_trimEnd, same]
      exact stripLine_textLine blank rfl
  | cons c rest =>
      have line : padding ++ (" * ".toList ++ c :: rest) = textLine padding (c :: rest) := by
        simp [textLine]
      rw [line, stripLine_textLine blank unclosed]

theorem textLine_contentLine_tagLine {tag : Tag} (kept : IsKept tag) :
    textLine padding (contentLine (tagLine padding tag)).text = tagLine padding tag := by
  have same := trimStart_contentLine_tagLine blank kept
  have solid : trimStart tag.text ≠ [] := fun empty =>
    trim_ne_nil kept.content.trimmed kept.solid (by rw [trim, empty, trimEnd_nil])
  unfold tagLine at same ⊢
  split
  · next laid =>
      rw [if_pos laid] at same
      obtain ⟨unclosed, rest, split⟩ := exists_of_isLaidOut laid
      have inner : contains closer rest = false := by
        refine contains_closer_of_isInfix ?_ unclosed
        rw [split, ← List.append_assoc]
        exact (List.suffix_append _ rest).isInfix
      have text : (contentLine (trimEnd tag.raw)).text = trimEnd rest := by
        rw [contentLine, stripLine_trimEnd, split, stripLine_of_isLaidOut blank inner]
      have some : trimEnd rest ≠ [] := fun empty => by
        rw [text, empty, trimStart_nil] at same
        exact solid same.symm
      rw [text, split, textLine, if_neg (by simpa using some), ← List.append_assoc,
        trimEnd_append some]
  · rw [text_contentLine_textLine blank kept.content]

theorem isContent_of_mem_tagTexts {tag : Tag} (kept : IsKept tag)
    (single : '\n' ∉ (stripLine false tag.raw).1) {t : Text} (member : t ∈ tagTexts padding tag) :
    IsContent t ∧ t ≠ [] := by
  rcases List.mem_cons.1 member with rfl | member
  · refine ⟨⟨trimEnd_stripLine false _, ?_, ?_⟩, fun empty => ?_⟩
    · exact contains_closer_of_isInfix (stripLine_isInfix false _) (contains_closer_tagLine blank kept)
    · unfold tagLine
      split
      · rwa [contentLine, stripLine_trimEnd]
      · rw [text_contentLine_textLine blank kept.content]
        exact kept.content.single
    · have same := trimStart_contentLine_tagLine blank kept
      rw [empty, trimStart_nil] at same
      exact trim_ne_nil kept.content.trimmed kept.solid (by rw [trim, ← same, trimEnd_nil])
  · exact ⟨(kept.continuation t member).toIsContent, (kept.continuation t member).solid⟩

theorem tagLines_eq_map {tag : Tag} (kept : IsKept tag) :
    tagLines padding tag = (tagTexts padding tag).map (textLine padding) := by
  rw [tagLines_eq, tagTexts, List.map_cons, textLine_contentLine_tagLine blank kept]

theorem addTags_eq {tags : List Tag} (kept : ∀ tag ∈ tags, IsKept tag) (body : List Text) :
    addTags padding tags body =
      body ++ (tags.flatMap (tagTexts padding)).map (textLine padding) := by
  rw [addTags, List.map_flatMap]
  congr 1
  exact List.flatMap_congr fun tag member => tagLines_eq_map blank (kept tag member)

theorem textLine_inj {s t : Text} (content : IsContent s) (content' : IsContent t)
    (same : textLine padding s = textLine padding t) : s = t := by
  have texts := congrArg (fun line => (contentLine line).text) same
  simpa only [text_contentLine_textLine blank content, text_contentLine_textLine blank content']
    using texts

theorem endsBlank_append_texts {texts : List Text} (some : texts ≠ [])
    (solid : ∀ t ∈ texts, IsContent t ∧ t ≠ []) (front : List Text) :
    endsBlank padding (front ++ texts.map (textLine padding)) = false := by
  obtain ⟨init, last, rfl⟩ := List.eq_nil_or_concat' texts |>.resolve_left some
  obtain ⟨content, solid⟩ := solid last (by simp)
  have ends : (front ++ (init ++ [last]).map (textLine padding)).getLast? =
      Option.some (textLine padding last) := by
    simp
  rw [endsBlank, ends, ← textLine_nil]
  simp only [trimEnd_textLine content, trimEnd_textLine isContent_nil]
  rw [beq_eq_false_iff_ne]
  exact fun same => solid (textLine_inj blank content isContent_nil same)

end Padding

/-- A site with a name that can stand in a title, and with blanks as padding. -/
structure Site.IsPlain (site : Site) : Prop where
  named : site.name ≠ []
  name : IsContent site.name
  padding : ∀ c ∈ site.padding, isBlank c = true

theorem isEmpty_flatMap_tagTexts (padding : Text) (tags : List Tag) :
    (tags.flatMap (tagTexts padding)).isEmpty = tags.isEmpty := by
  cases tags <;> rfl

theorem isEmpty_flatMap_paramTexts (params : List ParamDoc) :
    (params.flatMap paramTexts).isEmpty = params.isEmpty := by
  cases params <;> rfl

theorem isTagged_sections (docblock : Docblock) (site : Site) :
    (sections docblock site).isTagged = isTagged docblock := by
  simp only [Sections.isTagged, sections, isEmpty_flatMap_tagTexts, isEmpty_flatMap_paramTexts,
    isTagged]

theorem isEmpty_returns_sections (docblock : Docblock) (site : Site) :
    (!(sections docblock site).returns.isEmpty) = statesReturn docblock site := by
  unfold sections
  cases statesReturn docblock site <;> rfl

theorem hasTags_sections (docblock : Docblock) (site : Site) :
    (sections docblock site).hasTags =
      (isTagged docblock || !docblock.throwsTags.isEmpty || !(trailingTags docblock).isEmpty ||
        statesReturn docblock site) := by
  rw [Sections.hasTags, isTagged_sections, isEmpty_returns_sections]
  simp only [sections, isEmpty_flatMap_tagTexts]

section Orderly

variable {docblock : Docblock} {site : Site} (orderly : IsOrderly docblock) (plain : site.IsPlain)

include orderly plain

theorem isContent_of_mem_flatMap_tagTexts {tags : List Tag} (subset : tags ⊆ docblock.otherTags)
    {t : Text} (member : t ∈ tags.flatMap (tagTexts site.padding)) : IsContent t ∧ t ≠ [] := by
  obtain ⟨tag, inside, member⟩ := List.mem_flatMap.1 member
  exact isContent_of_mem_tagTexts plain.padding (orderly.tags tag (subset inside))
    (orderly.sorted.single tag (subset inside)) member

omit plain in
theorem isContent_of_mem_params {t : Text} (member : t ∈ docblock.parameters.flatMap paramTexts) :
    IsContent t ∧ t ≠ [] := by
  obtain ⟨param, inside, member⟩ := List.mem_flatMap.1 member
  refine ⟨orderly.isContent_paramTexts inside member, ?_⟩
  rcases List.mem_cons.1 member with rfl | member
  · intro empty
    have tagged := tagName?_paramText param
    rw [empty] at tagged
    cases tagged
  · exact ((orderly.parameters param inside).2 t member).solid

theorem isContent_of_mem_leading_append_params {t : Text}
    (member : t ∈ (sections docblock site).leading ++ (sections docblock site).params) :
    IsContent t ∧ t ≠ [] := by
  rcases List.mem_append.1 member with member | member
  · exact isContent_of_mem_flatMap_tagTexts orderly plain (leadingTags_subset docblock) member
  · exact isContent_of_mem_params orderly member

theorem endsBlank_map_upper (tagged : isTagged docblock = true) :
    endsBlank site.padding ((sections docblock site).upper.map (textLine site.padding)) = false := by
  rw [Sections.upper, List.map_append]
  refine endsBlank_append_texts plain.padding (fun empty => ?_)
    (fun t => isContent_of_mem_leading_append_params orderly plain) _
  rw [← isTagged_sections docblock site, Sections.isTagged, (List.append_eq_nil_iff.1 empty).1,
    (List.append_eq_nil_iff.1 empty).2] at tagged
  cases tagged

theorem addLowerTags_upper :
    addLowerTags docblock site.padding ((sections docblock site).upper.map (textLine site.padding)) =
      ((sections docblock site).upper ++ (sections docblock site).lowerTags).map
        (textLine site.padding) := by
  have blank := plain.padding
  have throws := addTags_eq blank fun tag inside =>
    orderly.tags tag (throwsTags_subset docblock inside)
  have trailing := addTags_eq blank fun tag inside =>
    orderly.tags tag (trailingTags_subset docblock inside)
  have gap : (isTagged docblock && !endsBlank site.padding
      ((sections docblock site).upper.map (textLine site.padding))) = isTagged docblock := by
    cases tagged : isTagged docblock with
    | false => rfl
    | true => rw [endsBlank_map_upper orderly plain tagged]; rfl
  have lower : (sections docblock site).lowerTags =
      gapTexts (isTagged docblock &&
        (!docblock.throwsTags.isEmpty || !(trailingTags docblock).isEmpty)) ++
        docblock.throwsTags.flatMap (tagTexts site.padding) ++
        gapTexts (!docblock.throwsTags.isEmpty) ++
        (trailingTags docblock).flatMap (tagTexts site.padding) := by
    rw [Sections.lowerTags, Sections.middle, isTagged_sections]
    simp only [sections, isEmpty_flatMap_tagTexts]
  rw [addLowerTags, gap, lower, throws, trailing, trailing, addBlank_eq, addBlankIf_eq]
  simp only [List.map_append, List.append_assoc]
  -- Without thrown types the trailing tags themselves ask for the gap below the parameters.
  by_cases none : docblock.throwsTags.isEmpty = true
  · rw [if_pos none, none, List.isEmpty_iff.1 none]
    by_cases none' : (trailingTags docblock).isEmpty = true
    · rw [if_pos none', none', List.isEmpty_iff.1 none']
      simp [gapTexts]
    · rw [if_neg none', Bool.eq_false_iff.2 none']
      simp [gapTexts]
  · rw [if_neg none, Bool.eq_false_iff.2 none]
    simp

theorem endsBlank_map_lower (states : statesReturn docblock site = true) :
    (!endsBlank site.padding (((sections docblock site).upper ++
        (sections docblock site).lowerTags).map (textLine site.padding))) =
      (!(sections docblock site).trailing.isEmpty ||
        (sections docblock site).isTagged && (sections docblock site).throws.isEmpty) := by
  rw [Sections.lowerTags, Sections.middle]
  by_cases trailing : (sections docblock site).trailing = []
  · rw [trailing, List.append_nil]
    by_cases throws : (sections docblock site).throws = []
    · have none : ∀ condition, gapTexts (condition && (!([] : List Text).isEmpty ||
          !([] : List Text).isEmpty)) = [] := fun condition => by cases condition <;> rfl
      rw [throws, none, List.isEmpty_nil, Bool.and_true]
      simp only [gapTexts, Bool.not_true, Bool.false_eq_true, if_false, List.append_nil,
        Bool.false_or]
      cases tagged : (sections docblock site).isTagged with
      | true =>
          rw [isTagged_sections] at tagged
          rw [endsBlank_map_upper orderly plain tagged]
          rfl
      | false =>
          have tags : (sections docblock site).hasTags = true := by
            rw [hasTags_sections, states, Bool.or_true]
          rw [Sections.isTagged, Bool.or_eq_false_iff, Bool.not_eq_false', Bool.not_eq_false',
            List.isEmpty_iff, List.isEmpty_iff] at tagged
          rw [Sections.upper, tagged.1, tagged.2, tags, List.append_nil, List.append_nil,
            List.map_append, endsBlank_append_gap]
          rfl
    · have some : (sections docblock site).throws.isEmpty = false := by simpa using throws
      rw [some, Bool.not_false, ← List.append_assoc, List.map_append, endsBlank_append_gap]
      simp
  · have some : (sections docblock site).trailing.isEmpty = false := by simpa using trailing
    rw [← List.append_assoc, List.map_append, endsBlank_append_texts plain.padding trailing, some]
    · rfl
    · exact fun t => isContent_of_mem_flatMap_tagTexts orderly plain (trailingTags_subset docblock)

theorem bodyLines_eq_addReturn :
    bodyLines docblock site = addReturn docblock site (addLowerTags docblock site.padding
      ((sections docblock site).upper.map (textLine site.padding))) := by
  have head := headLines_eq docblock plain.named
  have opened : (!(headLines docblock site).isEmpty) = true := by
    have some := titleTexts_append_summary_ne_nil docblock plain.named
    rw [head, List.isEmpty_map, Bool.not_eq_true', List.isEmpty_eq_false_iff]
    exact fun empty => some (List.append_eq_nil_iff.1 empty).1
  have entries : (if (sections docblock site).entries.isEmpty then [] else
      [] :: "@settings".toList :: (sections docblock site).entries) = settingsTexts docblock := by
    simp only [sections, List.isEmpty_map]
    rfl
  have opening : (sections docblock site).opening =
    titleTexts docblock site ++ docblock.summary := rfl
  have leading : (sections docblock site).leading =
    (leadingTags docblock).flatMap (tagTexts site.padding) := rfl
  have params : (sections docblock site).params = docblock.parameters.flatMap paramTexts := rfl
  have upper : addTexts site.padding (docblock.parameters.flatMap paramTexts)
      (addTags site.padding (leadingTags docblock)
        (addBlankIf (!(headLines docblock site).isEmpty && (isTagged docblock ||
          !docblock.throwsTags.isEmpty || !(trailingTags docblock).isEmpty ||
            statesReturn docblock site)) site.padding (headLines docblock site))) =
      (sections docblock site).upper.map (textLine site.padding) := by
    rw [opened, Bool.true_and, ← hasTags_sections, addTags_eq plain.padding fun tag inside =>
      orderly.tags tag (leadingTags_subset docblock inside), addBlankIf_eq, head, addTexts,
      Sections.upper, entries, opening, leading, params]
    simp only [List.map_append, List.append_assoc]
  rw [← upper]
  rfl

theorem addReturn_lower :
    addReturn docblock site (((sections docblock site).upper ++
        (sections docblock site).lowerTags).map (textLine site.padding)) =
      (sections docblock site).texts.map (textLine site.padding) := by
  have some : (!(((sections docblock site).upper ++ (sections docblock site).lowerTags).map
      (textLine site.padding)).isEmpty) = true := by
    have some := titleTexts_append_summary_ne_nil docblock plain.named
    rw [List.isEmpty_map, Bool.not_eq_true', List.isEmpty_eq_false_iff, Sections.upper]
    simp only [List.append_assoc]
    exact fun empty => some (List.append_eq_nil_iff.1 empty).1
  rw [addReturn, some, Bool.true_and, Sections.texts, Sections.closing, isEmpty_returns_sections]
  by_cases states : statesReturn docblock site = true
  · have returns : (sections docblock site).returns =
        returnText docblock :: docblock.returnContinuation := if_pos states
    rw [if_pos states, states, Bool.true_and, returns, addTexts, addBlankIf_eq,
      endsBlank_map_lower orderly plain states]
    simp only [List.map_append, List.append_assoc]
  · have returns : (sections docblock site).returns = [] := if_neg states
    rw [if_neg states, Bool.eq_false_iff.2 states, returns]
    simp [gapTexts]

/-- The body of an orderly docblock is made of its sections. -/
theorem bodyLines_eq_map_texts :
    bodyLines docblock site = (sections docblock site).texts.map (textLine site.padding) := by
  rw [bodyLines_eq_addReturn orderly plain, addLowerTags_upper orderly plain,
    addReturn_lower orderly plain]

theorem isContent_of_mem_opening {t : Text} (member : t ∈ (sections docblock site).opening) :
    IsContent t := by
  rcases List.mem_append.1 member with title | summary
  · unfold titleTexts at title
    simp only at title
    split at title
    · cases title
    · rw [List.mem_singleton.1 title]
      refine ⟨?_, contains_closer_title plain.name.unclosed, ?_⟩
      · rw [List.append_cons]
        exact trimEnd_append_of_trimEnd_eq plain.name.trimmed plain.named _
      · have label : '\n' ∉ site.kind.label := by cases site.kind <;> decide
        simp [label, plain.name.single]
  · exact orderly.isContent_summary summary

theorem isContent_of_mem_texts {t : Text} (member : t ∈ (sections docblock site).texts) :
    IsContent t := by
  have gap : ∀ {condition : Bool}, ∀ t ∈ gapTexts condition, IsContent t :=
    fun t member => eq_nil_of_mem_gapTexts member ▸ isContent_nil
  have tags : ∀ {tags : List Tag}, tags ⊆ docblock.otherTags →
      ∀ t ∈ tags.flatMap (tagTexts site.padding), IsContent t :=
    fun subset t member => (isContent_of_mem_flatMap_tagTexts orderly plain subset member).1
  have entries : ∀ t ∈ (if (sections docblock site).entries.isEmpty then [] else
      [] :: "@settings".toList :: (sections docblock site).entries), IsContent t := by
    simp only [sections, List.isEmpty_map]
    exact fun t => orderly.isContent_settingsTexts
  have returns : ∀ t ∈ (sections docblock site).returns, IsContent t := by
    intro t member
    unfold sections at member
    simp only at member
    split at member
    · exact orderly.isContent_returnTexts member
    · cases member
  revert t
  rw [Sections.texts, Sections.upper, Sections.lowerTags, Sections.middle, Sections.closing]
  simp only [List.forall_mem_append]
  exact ⟨⟨⟨⟨⟨fun t => isContent_of_mem_opening orderly plain, entries⟩, gap⟩,
    tags (leadingTags_subset docblock), fun t member => (isContent_of_mem_params orderly member).1⟩,
    ⟨⟨gap, tags (throwsTags_subset docblock)⟩, gap⟩, tags (trailingTags_subset docblock)⟩,
    gap, returns⟩

theorem contains_closer_of_mem_bodyLines {line : Text} (member : line ∈ bodyLines docblock site) :
    contains closer line = false := by
  rw [bodyLines_eq_map_texts orderly plain] at member
  obtain ⟨t, inside, rfl⟩ := List.mem_map.1 member
  rw [contains_closer_textLine plain.padding, (isContent_of_mem_texts orderly plain inside).unclosed]

theorem render_eq_map_texts :
    docblock.render site =
      (site.padding ++ opener) :: (sections docblock site).texts.map (textLine site.padding) ++
        [site.padding ++ " */".toList] := by
  rw [render, filterMap_sanitize?_of_unclosed fun line =>
    contains_closer_of_mem_bodyLines orderly plain, bodyLines_eq_map_texts orderly plain]

theorem contentLines_render_eq_map_texts :
    contentLines (docblock.render site) =
      ((sections docblock site).texts.map (textLine site.padding)).map contentLine := by
  rw [contentLines_render plain.padding fun line => contains_closer_of_mem_bodyLines orderly plain,
    bodyLines_eq_map_texts orderly plain]

theorem isOrderly_ofLines_render : IsOrderly (ofLines (docblock.render site)) := by
  refine isOrderly_of_contentLines (contentLines_render_eq_map_texts orderly plain) fun line member => ?_
  obtain ⟨t, inside, rfl⟩ := List.mem_map.1 member
  have content := isContent_of_mem_texts orderly plain inside
  rwa [text_contentLine_textLine plain.padding content]

/-- Two docblocks are written the same way exactly if their sections have the same texts. -/
theorem render_eq_iff_texts_eq {other : Docblock} (orderly' : IsOrderly other) :
    docblock.render site = other.render site ↔
      (sections docblock site).texts = (sections other site).texts := by
  constructor
  · intro same
    have lines := congrArg (fun lines => (contentLines lines).map ContentLine.text) same
    simp only [contentLines_render_eq_map_texts orderly plain,
      contentLines_render_eq_map_texts orderly' plain] at lines
    rwa [Reading.map_text_contentLine plain.padding fun t => isContent_of_mem_texts orderly plain,
      Reading.map_text_contentLine plain.padding fun t =>
        isContent_of_mem_texts orderly' plain] at lines
  · intro same
    rw [render_eq_map_texts orderly plain, same, render_eq_map_texts orderly' plain]

end Orderly

end DocblockSync.Docblock
