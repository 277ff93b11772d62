import DocblockSync.Proofs.Legibility

/-! The groups of lines that the body of a function's docblock is made of, and what each of their lines
is read as. The gaps between the groups only hold blank lines, and a blank line stands in front of
the tags that follow the thrown types. -/

namespace DocblockSync.Docblock

open Text

def leadingTags (docblock : Docblock) : List Tag :=
  (docblock.otherTags.filter fun tag => !tag.isThrows).filter Tag.leading

def trailingTags (docblock : Docblock) : List Tag :=
  (docblock.otherTags.filter fun tag => !tag.isThrows).filter fun tag => !tag.leading

theorem leadingTags_subset (docblock : Docblock) : leadingTags docblock ⊆ docblock.otherTags :=
  (List.filter_sublist.trans List.filter_sublist).subset

theorem throwsTags_subset (docblock : Docblock) : docblock.throwsTags ⊆ docblock.otherTags :=
  List.filter_sublist.subset

theorem trailingTags_subset (docblock : Docblock) : trailingTags docblock ⊆ docblock.otherTags :=
  (List.filter_sublist.trans List.filter_sublist).subset

def settingsTexts (docblock : Docblock) : List Text :=
  if docblock.settings.isEmpty then []
  else [] :: "@settings".toList :: docblock.settings.map settingsEntry

def gapTexts (condition : Bool) : List Text := if condition then [[]] else []

theorem eq_nil_of_mem_gapTexts {condition : Bool} {t : Text} (member : t ∈ gapTexts condition) :
    t = [] := by
  cases condition <;> simp_all [gapTexts]

theorem addBlankIf_eq (condition : Bool) (padding : Text) (body : List Text) :
    addBlankIf condition padding body = body ++ (gapTexts condition).map (textLine padding) := by
  cases condition <;> simp [addBlankIf, addBlank, gapTexts]

theorem addBlank_eq (padding : Text) (body : List Text) :
    addBlank padding body = body ++ (gapTexts true).map (textLine padding) := by
  simp [addBlank, gapTexts]

theorem endsBlank_append_gap (padding : Text) (body : List Text) :
    endsBlank padding (body ++ (gapTexts true).map (textLine padding)) = true := by
  simp [endsBlank, gapTexts]

theorem titleTexts_append_summary_ne_nil (docblock : Docblock) {site : Site}
    (named : site.name ≠ []) : titleTexts docblock site ++ docblock.summary ≠ [] := by
  intro empty
  obtain ⟨title, summary⟩ := List.append_eq_nil_iff.1 empty
  simp [titleTexts, named, summary, summaryNames] at title

theorem headLines_eq (docblock : Docblock) {site : Site} (named : site.name ≠ []) :
    headLines docblock site =
      (titleTexts docblock site ++ docblock.summary ++ settingsTexts docblock).map
        (textLine site.padding) := by
  have some := titleTexts_append_summary_ne_nil docblock named
  unfold headLines settingsTexts
  by_cases settings : docblock.settings.isEmpty = true
  · simp [settings, addTexts]
  · have opened : (!(addTexts site.padding (titleTexts docblock site ++ docblock.summary)
        []).isEmpty) = true := by
      rw [addTexts, List.nil_append, List.isEmpty_map, Bool.not_eq_true', List.isEmpty_eq_false_iff]
      exact some
    rw [if_neg settings, if_neg settings, opened]
    simp [addTexts, addBlankIf_eq, gapTexts]

def upperLines (docblock : Docblock) (site : Site) : List Text :=
  (titleTexts docblock site ++ docblock.summary ++ settingsTexts docblock ++ [[]]).map
      (textLine site.padding) ++
    (leadingTags docblock).flatMap (tagLines site.padding) ++
    (docblock.parameters.flatMap paramTexts).map (textLine site.padding)

def isTagged (docblock : Docblock) : Bool :=
  !(leadingTags docblock).isEmpty || !docblock.parameters.isEmpty

def addLowerTags (docblock : Docblock) (padding : Text) (body : List Text) : List Text :=
  if docblock.throwsTags.isEmpty then
    if (trailingTags docblock).isEmpty then body
    else addTags padding (trailingTags docblock)
      (addBlankIf (isTagged docblock && !endsBlank padding body) padding body)
  else
    addTags padding (trailingTags docblock) <| addBlank padding <|
      addTags padding docblock.throwsTags <|
        addBlankIf (isTagged docblock && !endsBlank padding body) padding body

def addReturn (docblock : Docblock) (site : Site) (body : List Text) : List Text :=
  if statesReturn docblock site then
    addTexts site.padding (returnText docblock :: docblock.returnContinuation)
      (addBlankIf (!body.isEmpty && !endsBlank site.padding body) site.padding body)
  else body

theorem bodyLines_of_function (docblock : Docblock) {site : Site} (named : site.name ≠ [])
    (function : site.kind.isFunctionLike = true) :
    bodyLines docblock site = addReturn docblock site
      (addLowerTags docblock site.padding (upperLines docblock site)) := by
  have stated : statesReturn docblock site = true := by simp [statesReturn, function]
  have head := headLines_eq docblock named
  have opened : (!(headLines docblock site).isEmpty) = true := by
    have some := titleTexts_append_summary_ne_nil docblock named
    rw [head, List.isEmpty_map, Bool.not_eq_true', List.isEmpty_eq_false_iff]
    exact fun empty => some (List.append_eq_nil_iff.1 empty).1
  have upper : addTexts site.padding (docblock.parameters.flatMap paramTexts)
      (addTags site.padding (leadingTags docblock)
        (addBlankIf true site.padding (headLines docblock site))) = upperLines docblock site := by
    rw [upperLines, head]
    simp [addTexts, addTags, addBlankIf_eq, gapTexts]
  unfold bodyLines addReturn
  simp only [stated, opened, Bool.or_true, Bool.and_self, if_true]
  rw [← upper]
  rfl

theorem bodyLines_eq (docblock : Docblock) {site : Site} (named : site.name ≠ [])
    (function : site.kind.isFunctionLike = true) :
    ∃ lower : List Text, (∀ t ∈ lower, t = []) ∧
      bodyLines docblock site =
        addLowerTags docblock site.padding (upperLines docblock site) ++
          (lower ++ returnText docblock :: docblock.returnContinuation).map
            (textLine site.padding) := by
  have stated : statesReturn docblock site = true := by simp [statesReturn, function]
  have whole := bodyLines_of_function docblock named function
  rw [addReturn, if_pos stated, addTexts, addBlankIf_eq, List.append_assoc, ← List.map_append]
    at whole
  exact ⟨_, fun t => eq_nil_of_mem_gapTexts, whole⟩

theorem endsBlank_upper (docblock : Docblock) (site : Site) :
    endsBlank site.padding (upperLines docblock site ++
      (gapTexts (isTagged docblock && !endsBlank site.padding (upperLines docblock site))).map
        (textLine site.padding)) = true := by
  cases gap : isTagged docblock && !endsBlank site.padding (upperLines docblock site) with
  | true => exact endsBlank_append_gap _ _
  | false =>
      rw [gapTexts, if_neg (by simp), List.map_nil, List.append_nil]
      rw [Bool.and_eq_false_iff, Bool.not_eq_false'] at gap
      rcases gap with untagged | ends
      · simp only [isTagged, Bool.or_eq_false_iff, Bool.not_eq_false', List.isEmpty_iff] at untagged
        rw [upperLines, untagged.1, untagged.2, List.flatMap_nil, List.flatMap_nil, List.map_nil,
          List.append_nil, List.append_nil, List.map_append]
        exact endsBlank_append_gap _ _
      · exact ends

theorem addLowerTags_eq (docblock : Docblock) (site : Site) :
    ∃ upper middle : List Text, (∀ t ∈ upper ++ middle, t = []) ∧ ∃ front,
      front = upperLines docblock site ++ upper.map (textLine site.padding) ++
        docblock.throwsTags.flatMap (tagLines site.padding) ++
        middle.map (textLine site.padding) ∧
      (trailingTags docblock = [] ∨ endsBlank site.padding front = true) ∧
      addLowerTags docblock site.padding (upperLines docblock site) =
        front ++ (trailingTags docblock).flatMap (tagLines site.padding) := by
  unfold addLowerTags
  by_cases throws : docblock.throwsTags.isEmpty = true
  · have thrown := List.isEmpty_iff.1 throws
    rw [if_pos throws]
    by_cases trailing : (trailingTags docblock).isEmpty = true
    · refine ⟨[], [], by simp, _, rfl, .inl (List.isEmpty_iff.1 trailing), ?_⟩
      rw [if_pos trailing, thrown, List.isEmpty_iff.1 trailing]
      simp
    · refine ⟨gapTexts (isTagged docblock &&
        !endsBlank site.padding (upperLines docblock site)), [], ?_, _, rfl, .inr ?_, ?_⟩
      · rw [List.append_nil]
        exact fun t => eq_nil_of_mem_gapTexts
      · rw [thrown]
        simpa using endsBlank_upper docblock site
      · rw [if_neg trailing, addTags, addBlankIf_eq, thrown]
        simp
  · refine ⟨gapTexts (isTagged docblock && !endsBlank site.padding (upperLines docblock site)),
      gapTexts true, ?_, _, rfl, .inr (endsBlank_append_gap _ _), ?_⟩
    · intro t member
      exact (List.mem_append.1 member).elim eq_nil_of_mem_gapTexts eq_nil_of_mem_gapTexts
    · rw [if_neg throws, addTags, addBlank_eq, addTags, addBlankIf_eq]

theorem isContent_nil : IsContent [] := ⟨rfl, rfl, by simp⟩

theorem text_contentLine_textLine {padding t : Text} (blank : ∀ c ∈ padding, isBlank c = true)
    (content : IsContent t) : (contentLine (textLine padding t)).text = t := by
  rw [contentLine, stripLine_textLine blank content.unclosed, content.trimmed]

def tagLine (padding : Text) (tag : Tag) : Text :=
  if isLaidOut padding tag.raw then trimEnd tag.raw else textLine padding tag.text

theorem tagLines_eq (padding : Text) (tag : Tag) :
    tagLines padding tag = tagLine padding tag :: tag.continuation.map (textLine padding) := rfl

theorem contains_closer_tagLine {padding : Text} (blank : ∀ c ∈ padding, isBlank c = true)
    {tag : Tag} (kept : IsKept tag) : contains closer (tagLine padding tag) = false := by
  unfold tagLine
  split
  · next laid =>
      exact contains_closer_of_isInfix (trimEnd_isPrefix tag.raw).isInfix (exists_of_isLaidOut laid).1
  · rw [contains_closer_textLine blank, kept.content.unclosed]

theorem trimStart_contentLine_tagLine {padding : Text} (blank : ∀ c ∈ padding, isBlank c = true)
    {tag : Tag} (kept : IsKept tag) :
    trimStart (contentLine (tagLine padding tag)).text = trimStart tag.text := by
  unfold tagLine
  split
  · next laid =>
      rw [contentLine, stripLine_trimEnd]
      exact kept.faithful padding blank laid
  · rw [text_contentLine_textLine blank kept.content]

theorem text_contentLine_tagLine_ne_nil {padding : Text} (blank : ∀ c ∈ padding, isBlank c = true)
    {tag : Tag} (kept : IsKept tag) : (contentLine (tagLine padding tag)).text ≠ [] := by
  intro empty
  have text := trimStart_contentLine_tagLine blank kept
  rw [empty, trimStart_nil] at text
  exact trim_ne_nil kept.content.trimmed kept.solid (by rw [trim, ← text, trimEnd_nil])

theorem text_contentLine_of_endsBlank {padding : Text} (blank : ∀ c ∈ padding, isBlank c = true)
    {body : List Text} (ends : endsBlank padding body = true) :
    ∃ init line, body = init ++ [line] ∧ (contentLine line).text = [] := by
  unfold endsBlank at ends
  split at ends
  · next line last =>
      obtain ⟨init, rfl⟩ := List.getLast?_eq_some_iff.1 last
      refine ⟨init, line, rfl, ?_⟩
      rw [contentLine, ← stripLine_trimEnd, eq_of_beq ends, stripLine_trimEnd, ← textLine_nil]
      exact text_contentLine_textLine blank isContent_nil
  · cases ends

theorem contains_closer_title {site : Site} (unclosed : contains closer site.name = false) :
    contains closer (site.kind.label ++ ' ' :: site.name) = false := by
  have name : contains closer (' ' :: site.name) = false := by
    simpa [contains_closer_cons] using unclosed
  refine contains_closer_append_of_not_slash ?_ name (by simp)
  cases site.kind <;> decide

theorem contains_closer_titleTexts {docblock : Docblock} {site : Site}
    (unclosed : contains closer site.name = false) :
    ∀ t ∈ titleTexts docblock site, contains closer t = false := by
  intro t member
  unfold titleTexts at member
  simp only at member
  split at member
  · cases member
  · rw [List.mem_singleton.1 member]
    exact contains_closer_title unclosed

theorem IsLegible.isContent_summary {docblock : Docblock} (legible : IsLegible docblock) {t : Text}
    (member : t ∈ docblock.summary) : IsContent t := by
  rcases legible.summary t member with rfl | free
  · exact isContent_nil
  · exact free.toIsContent

theorem IsLegible.isContent_settingsTexts {docblock : Docblock} (legible : IsLegible docblock)
    {t : Text} (member : t ∈ settingsTexts docblock) : IsContent t := by
  unfold settingsTexts at member
  split at member
  · cases member
  · simp only [List.mem_cons, List.mem_map] at member
    rcases member with rfl | rfl | ⟨usage, inside, rfl⟩
    · exact isContent_nil
    · exact ⟨by decide, by decide, by decide⟩
    · exact isContent_settingsEntry (legible.settings usage inside)

theorem IsLegible.isContent_paramTexts {docblock : Docblock} (legible : IsLegible docblock)
    {param : ParamDoc} (inside : param ∈ docblock.parameters) {t : Text}
    (member : t ∈ paramTexts param) : IsContent t := by
  obtain ⟨readable, continuation⟩ := legible.parameters param inside
  rcases List.mem_cons.1 member with rfl | member
  · exact readable.isContent_paramText
  · exact (continuation t member).toIsContent

theorem IsLegible.isContent_returnTexts {docblock : Docblock} (legible : IsLegible docblock)
    {t : Text} (member : t ∈ returnText docblock :: docblock.returnContinuation) :
    IsContent t := by
  rcases List.mem_cons.1 member with rfl | member
  · exact isContent_returnText legible.returns
  · exact (legible.returnContinuation t member).toIsContent

theorem contains_closer_bodyLines {docblock : Docblock} {site : Site}
    (legible : IsLegible docblock) (named : site.name ≠ [])
    (unclosed : contains closer site.name = false) (function : site.kind.isFunctionLike = true)
    (blank : ∀ c ∈ site.padding, isBlank c = true) :
    ∀ line ∈ bodyLines docblock site, contains closer line = false := by
  have texts : ∀ {texts : List Text}, (∀ t ∈ texts, contains closer t = false) →
      ∀ line ∈ texts.map (textLine site.padding), contains closer line = false := by
    intro texts all line member
    obtain ⟨t, inside, rfl⟩ := List.mem_map.1 member
    rw [contains_closer_textLine blank, all t inside]
  have tags : ∀ {tags : List Tag}, tags ⊆ docblock.otherTags →
      ∀ line ∈ tags.flatMap (tagLines site.padding), contains closer line = false := by
    intro tags subset line member
    obtain ⟨tag, inside, member⟩ := List.mem_flatMap.1 member
    have kept := legible.tags tag (subset inside)
    rw [tagLines_eq] at member
    rcases List.mem_cons.1 member with rfl | member
    · exact contains_closer_tagLine blank kept
    · exact texts (fun t inside => (kept.continuation t inside).unclosed) line member
  have gaps : ∀ {gap : List Text}, (∀ t ∈ gap, t = []) → ∀ t ∈ gap, contains closer t = false :=
    fun empty t member => by rw [empty t member]; rfl
  obtain ⟨lower, empty, body⟩ := bodyLines_eq docblock named function
  obtain ⟨upper, middle, empty', front, rfl, -, lowered⟩ := addLowerTags_eq docblock site
  rw [List.forall_mem_append] at empty'
  rw [body, lowered, upperLines]
  simp only [List.forall_mem_append]
  refine ⟨⟨⟨⟨⟨⟨⟨texts ?_, tags (leadingTags_subset docblock)⟩, texts ?_⟩, texts (gaps empty'.1)⟩,
    tags (throwsTags_subset docblock)⟩, texts (gaps empty'.2)⟩,
    tags (trailingTags_subset docblock)⟩, texts ?_⟩
  · simp only [List.forall_mem_append]
    refine ⟨⟨⟨contains_closer_titleTexts unclosed, fun t member => ?_⟩, fun t member => ?_⟩, ?_⟩
    · exact (legible.isContent_summary member).unclosed
    · exact (legible.isContent_settingsTexts member).unclosed
    · exact gaps (by simp)
  · intro t member
    obtain ⟨param, inside, member⟩ := List.mem_flatMap.1 member
    exact (legible.isContent_paramTexts inside member).unclosed
  · rw [List.forall_mem_append]
    exact ⟨gaps empty, fun t member => (legible.isContent_returnTexts member).unclosed⟩

end DocblockSync.Docblock
