import DocblockSync.Proofs.OrderlyReading
import DocblockSync.Proofs.ThrownTypes

/-! The blank lines of a function's docblock. The layout appends group after group and looks at the
last line before it adds a blank one, so the lines above the return tag keep one invariant: the
first is not blank, no two blank ones meet, and none of them is a return tag. -/

namespace DocblockSync.Docblock

open Text

def isBlankTag (line : Text) : Bool := (contentLine line).text.isEmpty

def lineTag? (line : Text) : Option Text := tagName? (trimStart (contentLine line).text)

/-- Body lines that start with one that is not blank and have single blank ones between them. -/
structure IsSpaced (padding : Text) (body : List Text) : Prop where
  starts : ∃ line ∈ body.head?, isBlankTag line = false
  single : body.IsChain fun upper lower => isBlankTag upper = false ∨ isBlankTag lower = false
  exact : ∀ line ∈ body, isBlankTag line = true → line = blankLine padding

/-- Body lines that end with one that is not blank. -/
def EndsSolid (body : List Text) : Prop := ∃ line ∈ body.getLast?, isBlankTag line = false

/-- A body line that closes nothing and is no return tag. -/
structure IsQuiet (line : Text) : Prop where
  unclosed : contains closer line = false
  unreturned : lineTag? line ≠ some "@return".toList

/-- A quiet line with a text. -/
structure IsSolid (line : Text) : Prop extends IsQuiet line where
  solid : isBlankTag line = false

/-- What may stand above the return tag. -/
structure IsPreamble (padding : Text) (body : List Text) : Prop extends IsSpaced padding body where
  quiet : ∀ line ∈ body, IsQuiet line

theorem endsSolid_append {lines : List Text} (some : lines ≠ [])
    (solid : ∀ line ∈ lines, isBlankTag line = false) (body : List Text) :
    EndsSolid (body ++ lines) := by
  refine ⟨lines.getLast some, ?_, solid _ (List.getLast_mem some)⟩
  rw [List.getLast?_append_of_ne_nil body some]
  exact List.getLast?_eq_getLast_of_ne_nil some

namespace IsSpaced

variable {padding : Text} {body : List Text}

theorem append_solid (spaced : IsSpaced padding body) {lines : List Text}
    (solid : ∀ line ∈ lines, isBlankTag line = false) : IsSpaced padding (body ++ lines) where
  starts := by
    obtain ⟨line, first, here⟩ := spaced.starts
    exact ⟨line, List.mem_head?_append_of_mem_head? first, here⟩
  single := by
    rw [List.isChain_append]
    refine ⟨spaced.single, ?_, fun upper _ lower first => ?_⟩
    · refine (List.pairwise_of_forall_mem_list fun upper inside lower _ => ?_).isChain
      exact .inl (solid upper inside)
    · exact .inr (solid lower (List.mem_of_mem_head? first))
  exact := by
    intro line member empty
    rcases List.mem_append.1 member with member | member
    · exact spaced.exact line member empty
    · rw [solid line member] at empty
      cases empty

theorem addBlank (spaced : IsSpaced padding body) (ends : EndsSolid body) :
    IsSpaced padding (addBlank padding body) where
  starts := by
    obtain ⟨line, first, here⟩ := spaced.starts
    exact ⟨line, List.mem_head?_append_of_mem_head? first, here⟩
  single := by
    obtain ⟨last, found, solid⟩ := ends
    refine List.isChain_append.2 ⟨spaced.single, List.isChain_singleton _, fun upper last' _ _ => ?_⟩
    rw [Option.mem_unique last' found]
    exact .inl solid
  exact := by
    intro line member empty
    rcases List.mem_append.1 member with member | member
    · exact spaced.exact line member empty
    · exact List.mem_singleton.1 member

theorem isEmpty_eq_false (spaced : IsSpaced padding body) : body.isEmpty = false := by
  obtain ⟨line, first, -⟩ := spaced.starts
  cases body with
  | nil => cases first
  | cons _ _ => rfl

theorem exists_blank_or_endsSolid (spaced : IsSpaced padding body) :
    (∃ init, body = init ++ [blankLine padding]) ∨ EndsSolid body := by
  obtain ⟨line, first, -⟩ := spaced.starts
  rcases List.eq_nil_or_concat' body with rfl | ⟨init, last, rfl⟩
  · cases first
  cases empty : isBlankTag last with
  | true => exact .inl ⟨init, by rw [spaced.exact last (by simp) empty]⟩
  | false => exact .inr ⟨last, by simp, empty⟩

end IsSpaced

theorem endsBlank_concat (padding : Text) (init : List Text) :
    endsBlank padding (init ++ [blankLine padding]) = true :=
  endsBlank_append_gap padding init

section Padding

variable {padding : Text} (blank : ∀ c ∈ padding, isBlank c = true)

include blank

theorem text_contentLine_blankLine : (contentLine (blankLine padding)).text = [] := by
  rw [← textLine_nil]
  exact text_contentLine_textLine blank isContent_nil

theorem isBlankTag_blankLine : isBlankTag (blankLine padding) = true := by
  rw [isBlankTag, text_contentLine_blankLine blank]
  rfl

theorem isQuiet_blankLine : IsQuiet (blankLine padding) where
  unclosed := by
    rw [← textLine_nil, contains_closer_textLine blank]
    rfl
  unreturned := by
    rw [lineTag?, text_contentLine_blankLine blank]
    simp [tagName?, trimStart]

theorem IsSpaced.endsSolid {above : List Text}
    (spaced : IsSpaced padding (above ++ [blankLine padding])) : EndsSolid above := by
  have marker := isBlankTag_blankLine blank
  obtain ⟨line, first, here⟩ := spaced.starts
  rcases List.eq_nil_or_concat' above with rfl | ⟨init, last, rfl⟩
  · rw [← Option.some.inj first, marker] at here
    cases here
  · obtain ⟨-, -, apart⟩ := List.isChain_append.1 spaced.single
    refine ⟨last, by simp, (apart last (by simp) _ rfl).resolve_right ?_⟩
    rw [marker]
    simp

theorem endsBlank_of_endsSolid {body : List Text} (ends : EndsSolid body) :
    endsBlank padding body = false := by
  by_contra written
  obtain ⟨init, line, rfl, text⟩ :=
    text_contentLine_of_endsBlank blank (Bool.not_eq_false _ ▸ written)
  obtain ⟨last, found, solid⟩ := ends
  rw [List.getLast?_concat] at found
  rw [← Option.some.inj found, isBlankTag, text] at solid
  cases solid

namespace IsPreamble

variable {body : List Text}

omit blank in
theorem append_solid (preamble : IsPreamble padding body) {lines : List Text}
    (solid : ∀ line ∈ lines, IsSolid line) : IsPreamble padding (body ++ lines) where
  toIsSpaced := preamble.toIsSpaced.append_solid fun line inside => (solid line inside).solid
  quiet := List.forall_mem_append.2 ⟨preamble.quiet, fun line inside => (solid line inside).toIsQuiet⟩

theorem addBlank (preamble : IsPreamble padding body) (ends : EndsSolid body) :
    IsPreamble padding (addBlank padding body) where
  toIsSpaced := preamble.toIsSpaced.addBlank ends
  quiet := List.forall_mem_append.2 ⟨preamble.quiet, by simpa using isQuiet_blankLine blank⟩

theorem addBlankIf (preamble : IsPreamble padding body) (condition : Bool) :
    IsPreamble padding (addBlankIf (condition && !endsBlank padding body) padding body) := by
  rcases preamble.toIsSpaced.exists_blank_or_endsSolid with ⟨init, split⟩ | ends
  · rw [split, endsBlank_concat, Bool.not_true, Bool.and_false, ← split]
    exact preamble
  · unfold Docblock.addBlankIf
    split
    · exact preamble.addBlank blank ends
    · exact preamble

end IsPreamble

theorem isPreamble_map_textLine {texts : List Text} (tidy : IsTidy texts) (some : texts ≠ [])
    (solid : ∀ t ∈ texts, t ≠ [] → IsSolid (textLine padding t)) :
    IsPreamble padding (texts.map (textLine padding)) ∧
      EndsSolid (texts.map (textLine padding)) := by
  refine ⟨{ starts := ?_, single := ?_, exact := ?_, quiet := ?_ }, ?_⟩
  · obtain ⟨t, rest, rfl⟩ := List.exists_cons_of_ne_nil some
    exact ⟨_, rfl, (solid t (by simp) tidy.head_ne_nil).solid⟩
  · rw [List.isChain_map]
    refine (isChain_of_squeezed tidy.squeezed).imp_of_mem_imp fun upper lower inside inside' apart => ?_
    exact apart.imp (fun full => (solid upper inside full).solid)
      fun full => (solid lower inside' full).solid
  · intro line member empty
    obtain ⟨t, inside, rfl⟩ := List.mem_map.1 member
    by_cases none : t = []
    · rw [none, textLine_nil]
    · rw [(solid t inside none).solid] at empty
      cases empty
  · intro line member
    obtain ⟨t, inside, rfl⟩ := List.mem_map.1 member
    by_cases none : t = []
    · rw [none, textLine_nil]
      exact isQuiet_blankLine blank
    · exact (solid t inside none).toIsQuiet
  · refine ⟨textLine padding (texts.getLast some), ?_, ?_⟩
    · rw [List.getLast?_map, List.getLast?_eq_getLast_of_ne_nil some]
      rfl
    · exact (solid _ (List.getLast_mem some) (tidy.last_ne_nil some)).solid

end Padding

theorem not_isBlank_of_isTagNameChar {c : Char} (tag : isTagNameChar c = true) :
    isBlank c = false := by
  simp only [isTagNameChar, Bool.or_eq_true, beq_iff_eq] at tag
  rcases tag with ((letter | rfl) | rfl) | rfl
  · exact not_isBlank_of_isAlphanumeric letter
  · decide
  · decide
  · decide

theorem takeWhile_isTagNameChar_trimEnd (t : Text) :
    (trimEnd t).takeWhile isTagNameChar = t.takeWhile isTagNameChar := by
  obtain ⟨blanks, split, blank⟩ := exists_blanks_trimEnd t
  have stops : blanks.takeWhile isTagNameChar = [] := by
    cases blanks with
    | nil => rfl
    | cons c rest =>
        refine List.takeWhile_cons_of_neg fun tag => ?_
        have solid := not_isBlank_of_isTagNameChar tag
        rw [blank c (by simp)] at solid
        cases solid
  have whole := congrArg (List.takeWhile isTagNameChar) split
  rw [List.takeWhile_append, stops] at whole
  rw [whole]
  split
  · next all => rw [List.append_nil, (List.takeWhile_prefix isTagNameChar).eq_of_length all]
  · rfl

theorem tagName?_trimEnd {t name : Text} (tagged : tagName? t = some name) :
    tagName? (trimEnd t) = some name := by
  unfold tagName? at tagged
  split at tagged
  · next rest =>
      have text : trimEnd ('@' :: rest) = '@' :: trimEnd rest :=
        trimEnd_append_cons_of_not_blank (by decide) [] rest
      rw [text, ← tagged, ← takeWhile_isTagNameChar_trimEnd]
      rfl
  · cases tagged

theorem exists_settingsEntry_cons (usage : SettingsUsage) :
    ∃ rest, settingsEntry usage = '-' :: rest := by
  unfold settingsEntry
  split
  · split
    · exact ⟨_, rfl⟩
    · exact ⟨_, rfl⟩
  · exact ⟨_, rfl⟩

/-- What the layout needs of a docblock: a tidy summary, free texts below the tags, and nothing that
closes the comment. -/
structure IsWritable (docblock : Docblock) : Prop where
  tidy : IsTidy docblock.summary
  summary : ∀ t ∈ docblock.summary, t = [] ∨ IsFree t
  settings : ∀ usage ∈ docblock.settings, contains closer (settingsEntry usage) = false
  parameters : ∀ param ∈ docblock.parameters, contains closer (paramText param) = false ∧
    ∀ t ∈ param.continuation, IsFree t
  tags : ∀ tag ∈ docblock.otherTags,
    IsKept tag ∨ ∃ type, contains closer type = false ∧ tag = Tag.throwing type
  returns : contains closer (returnText docblock) = false
  returnContinuation : ∀ t ∈ docblock.returnContinuation, IsFree t

section Lines

variable {padding : Text} (blank : ∀ c ∈ padding, isBlank c = true)

include blank

theorem text_contentLine_textLine_of_unclosed {t : Text} (unclosed : contains closer t = false) :
    (contentLine (textLine padding t)).text = trimEnd t := by
  rw [contentLine, stripLine_textLine blank unclosed]

theorem isSolid_textLine {t : Text} (unclosed : contains closer t = false) (solid : trimEnd t ≠ [])
    (unreturned : tagName? (trimStart (trimEnd t)) ≠ some "@return".toList) :
    IsSolid (textLine padding t) where
  unclosed := by rw [contains_closer_textLine blank, unclosed]
  unreturned := by rwa [lineTag?, text_contentLine_textLine_of_unclosed blank unclosed]
  solid := by
    rw [isBlankTag, text_contentLine_textLine_of_unclosed blank unclosed]
    simpa using solid

theorem lineTag?_textLine {t name : Text} (unclosed : contains closer t = false)
    (tagged : tagName? t = some name) : lineTag? (textLine padding t) = some name := by
  have trimmed := tagName?_trimEnd tagged
  rw [lineTag?, text_contentLine_textLine_of_unclosed blank unclosed,
    trimStart_of_tagName? trimmed, trimmed]

theorem isBlankTag_textLine_of_tagged {t name : Text} (unclosed : contains closer t = false)
    (tagged : tagName? t = some name) : isBlankTag (textLine padding t) = false := by
  have trimmed := tagName?_trimEnd tagged
  rw [isBlankTag, text_contentLine_textLine_of_unclosed blank unclosed, List.isEmpty_eq_false_iff]
  intro empty
  rw [empty] at trimmed
  cases trimmed

theorem isSolid_textLine_of_tagged {t name : Text} (unclosed : contains closer t = false)
    (tagged : tagName? t = some name) (other : name ≠ "@return".toList) :
    IsSolid (textLine padding t) where
  unclosed := by rw [contains_closer_textLine blank, unclosed]
  unreturned := by
    rw [lineTag?_textLine blank unclosed tagged]
    exact fun same => other (Option.some.inj same)
  solid := isBlankTag_textLine_of_tagged blank unclosed tagged

theorem lineTag?_textLine_of_isFree {t : Text} (free : IsFree t) :
    lineTag? (textLine padding t) = none := by
  rw [lineTag?, text_contentLine_textLine blank free.toIsContent, free.untagged]

theorem IsFree.isSolid_textLine {t : Text} (free : IsFree t) : IsSolid (textLine padding t) := by
  refine Docblock.isSolid_textLine blank free.unclosed ?_ ?_
  · rw [free.trimmed]
    exact free.solid
  · rw [free.trimmed, free.untagged]
    simp

theorem isSolid_settingsEntry {usage : SettingsUsage}
    (unclosed : contains closer (settingsEntry usage) = false) :
    IsSolid (textLine padding (settingsEntry usage)) := by
  obtain ⟨rest, dash⟩ := exists_settingsEntry_cons usage
  have text : trimEnd (settingsEntry usage) = '-' :: trimEnd rest := by
    rw [dash]
    exact trimEnd_append_cons_of_not_blank (by decide) [] rest
  refine isSolid_textLine blank unclosed ?_ ?_
  · rw [text]
    exact List.cons_ne_nil _ _
  · rw [text, trimStart_cons_of_not_blank (by decide)]
    simp [tagName?]

theorem IsKept.isSolid_tagLine {tag : Tag} (kept : IsKept tag) : IsSolid (tagLine padding tag) where
  unclosed := contains_closer_tagLine blank kept
  unreturned := by
    intro returns
    rw [lineTag?, trimStart_contentLine_tagLine blank kept] at returns
    have authored := kept.authored
    rw [isRegenerated, returns] at authored
    simp at authored
  solid := by simpa [isBlankTag] using text_contentLine_tagLine_ne_nil blank kept

omit blank in
theorem tagLines_throwing (type : Text) :
    tagLines padding (Tag.throwing type) = [textLine padding (Tag.throwing type).text] := by
  have fresh : ¬isLaidOut padding (Tag.throwing type).raw = true := fun laid => by
    obtain ⟨-, rest, split⟩ := exists_of_isLaidOut laid
    have raw : (Tag.throwing type).raw = [] := rfl
    simp [raw] at split
  rw [tagLines_eq, tagLine, if_neg fresh]
  rfl

theorem isSolid_of_mem_tagLines {tag : Tag}
    (written : IsKept tag ∨ ∃ type, contains closer type = false ∧ tag = Tag.throwing type)
    {line : Text} (member : line ∈ tagLines padding tag) : IsSolid line := by
  rcases written with kept | ⟨type, unclosed, rfl⟩
  · rw [tagLines_eq] at member
    rcases List.mem_cons.1 member with rfl | member
    · exact kept.isSolid_tagLine blank
    · obtain ⟨t, inside, rfl⟩ := List.mem_map.1 member
      exact (kept.continuation t inside).isSolid_textLine blank
  · have text : contains closer ("@throws ".toList ++ type) = false := by
      simpa [contains_closer_cons] using unclosed
    rw [tagLines_throwing, List.mem_singleton] at member
    rw [member]
    exact isSolid_textLine_of_tagged blank text (tagName?_throwing type) (by decide)

end Lines

namespace IsWritable

variable {docblock : Docblock} {site : Site} (writable : IsWritable docblock)
  (blank : ∀ c ∈ site.padding, isBlank c = true)

include writable blank

theorem isSolid_of_mem_tags {tags : List Tag} (subset : tags ⊆ docblock.otherTags) :
    ∀ line ∈ tags.flatMap (tagLines site.padding), IsSolid line := by
  intro line member
  obtain ⟨tag, inside, member⟩ := List.mem_flatMap.1 member
  exact isSolid_of_mem_tagLines blank (writable.tags tag (subset inside)) member

theorem isSolid_of_mem_params :
    ∀ line ∈ (docblock.parameters.flatMap paramTexts).map (textLine site.padding),
      IsSolid line := by
  intro line member
  obtain ⟨t, inside, rfl⟩ := List.mem_map.1 member
  obtain ⟨param, among, inside⟩ := List.mem_flatMap.1 inside
  obtain ⟨unclosed, continuation⟩ := writable.parameters param among
  rcases List.mem_cons.1 inside with rfl | inside
  · exact isSolid_textLine_of_tagged blank unclosed (tagName?_paramText param) (by decide)
  · exact (continuation t inside).isSolid_textLine blank

theorem isSolid_of_mem_opening (unclosed : contains closer site.name = false) {t : Text}
    (member : t ∈ titleTexts docblock site ++ docblock.summary) (full : t ≠ []) :
    IsSolid (textLine site.padding t) := by
  rcases List.mem_append.1 member with title | summary
  · obtain ⟨solid, untagged⟩ := untagged_titleTexts title
    refine isSolid_textLine blank (contains_closer_titleTexts unclosed t title) solid ?_
    rw [untagged]
    simp
  · exact ((writable.summary t summary).resolve_left full).isSolid_textLine blank

theorem isSolid_of_mem_settingsTexts {t : Text} (member : t ∈ settingsTexts docblock)
    (full : t ≠ []) : IsSolid (textLine site.padding t) := by
  unfold settingsTexts at member
  split at member
  · cases member
  · simp only [List.mem_cons, List.mem_map] at member
    rcases member with rfl | rfl | ⟨usage, inside, rfl⟩
    · exact absurd rfl full
    · have tagged : tagName? "@settings".toList = some "@settings".toList := rfl
      exact isSolid_textLine_of_tagged blank (by decide) tagged (by decide)
    · exact isSolid_settingsEntry blank (writable.settings usage inside)

omit blank in
theorem isTidy_head (named : site.name ≠ []) :
    IsTidy (titleTexts docblock site ++ docblock.summary ++ settingsTexts docblock) := by
  have opening := isTidy_title_append_summary writable.tidy site
  unfold settingsTexts
  split
  · rw [List.append_nil]
    exact opening
  · refine opening.append (titleTexts_append_summary_ne_nil docblock named) ?_ (by simp)
    refine IsTidy.of_solid fun t member => ?_
    rcases List.mem_cons.1 member with rfl | member
    · decide
    · obtain ⟨usage, -, rfl⟩ := List.mem_map.1 member
      obtain ⟨rest, dash⟩ := exists_settingsEntry_cons usage
      rw [dash]
      exact List.cons_ne_nil '-' rest

theorem isPreamble_upperLines (named : site.name ≠ [])
    (unclosed : contains closer site.name = false) :
    IsPreamble site.padding (upperLines docblock site) := by
  have some : titleTexts docblock site ++ docblock.summary ++ settingsTexts docblock ≠ [] :=
    List.append_ne_nil_of_left_ne_nil (titleTexts_append_summary_ne_nil docblock named) _
  obtain ⟨head, ends⟩ := isPreamble_map_textLine blank (writable.isTidy_head named) some
    fun t member full => (List.mem_append.1 member).elim
      (fun member => writable.isSolid_of_mem_opening blank unclosed member full)
      (fun member => writable.isSolid_of_mem_settingsTexts blank member full)
  rw [upperLines, List.map_append]
  exact ((head.addBlank blank ends).append_solid
    (writable.isSolid_of_mem_tags blank (leadingTags_subset docblock))).append_solid
    (writable.isSolid_of_mem_params blank)

theorem isPreamble_addLowerTags {body : List Text} (preamble : IsPreamble site.padding body) :
    IsPreamble site.padding (addLowerTags docblock site.padding body) := by
  have throws := writable.isSolid_of_mem_tags blank (throwsTags_subset docblock)
  have trailing := writable.isSolid_of_mem_tags blank (trailingTags_subset docblock)
  have opened := preamble.addBlankIf blank (isTagged docblock)
  unfold addLowerTags
  split
  · split
    · exact preamble
    · exact opened.append_solid trailing
  · next some =>
      -- The blank line below the thrown types is added without a look at the last line.
      refine ((opened.append_solid throws).addBlank blank ?_).append_solid trailing
      refine endsSolid_append ?_ (fun line inside => (throws line inside).solid) _
      obtain ⟨tag, rest, split⟩ := List.exists_cons_of_ne_nil (mt List.isEmpty_iff.2 some)
      rw [split, List.flatMap_cons, tagLines_eq]
      simp

/-- The body has one blank line above the return tag and its continuation below. -/
theorem exists_bodyLines (named : site.name ≠ []) (unclosed : contains closer site.name = false)
    (function : site.kind.isFunctionLike = true) :
    ∃ above, IsPreamble site.padding (above ++ [blankLine site.padding]) ∧
      bodyLines docblock site = above ++ [blankLine site.padding] ++
        (returnText docblock :: docblock.returnContinuation).map (textLine site.padding) := by
  have stated : statesReturn docblock site = true := by simp [statesReturn, function]
  have front := writable.isPreamble_addLowerTags blank
    (writable.isPreamble_upperLines blank named unclosed)
  rw [bodyLines_of_function docblock named function, addReturn, if_pos stated, addTexts]
  rcases front.toIsSpaced.exists_blank_or_endsSolid with ⟨above, split⟩ | ends
  · refine ⟨above, split ▸ front, ?_⟩
    rw [split, endsBlank_concat, Bool.not_true, Bool.and_false]
    rfl
  · refine ⟨_, front.addBlank blank ends, ?_⟩
    rw [endsBlank_of_endsSolid blank ends, front.isEmpty_eq_false]
    rfl

end IsWritable

end DocblockSync.Docblock
