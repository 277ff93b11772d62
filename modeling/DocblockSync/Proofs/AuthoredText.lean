import DocblockSync.Proofs.KeptText

/-! The lines of a docblock that was read and written for a function are those of its author, in another
order, and its title. Writing puts each stored line once, and the lines of a comment are all read but
for an empty first and an empty last one. -/

namespace DocblockSync.Docblock

open Text

/-- Some body lines show some texts: read as content, these are the authored ones among them. -/
structure Shows (lines texts : List Text) : Prop where
  quiet : ∀ line ∈ lines, opensSettings (contentLine line).text = false
  authored : ((lines.map fun line => (contentLine line).text).filter isAuthored).map trim =
    texts.map trim

namespace Shows

theorem nil : Shows [] [] := ⟨by simp, rfl⟩

theorem append {lines lines' texts texts' : List Text} (shows : Shows lines texts)
    (shows' : Shows lines' texts') : Shows (lines ++ lines') (texts ++ texts') where
  quiet := fun line member =>
    (List.mem_append.1 member).elim (shows.quiet line) (shows'.quiet line)
  authored := by
    rw [List.map_append, List.filter_append, List.map_append, shows.authored, shows'.authored,
      List.map_append]

theorem flatMap {α : Type} {entries : List α} {lines texts : α → List Text}
    (shows : ∀ entry ∈ entries, Shows (lines entry) (texts entry)) :
    Shows (entries.flatMap lines) (entries.flatMap texts) := by
  induction entries with
  | nil => exact nil
  | cons entry entries ih =>
      rw [List.flatMap_cons, List.flatMap_cons]
      exact (shows entry (by simp)).append
        (ih fun entry member => shows entry (List.mem_cons_of_mem _ member))

theorem authoredLine {line t : Text} (authored : isAuthored (contentLine line).text = true)
    (same : trim (contentLine line).text = trim t) : Shows [line] [t] where
  quiet := by
    intro line' member
    rw [List.mem_singleton.1 member, opensSettings, beq_eq_false_iff_ne]
    intro tagged
    rw [isAuthored, isRegenerated, tagged] at authored
    simp at authored
  authored := by simp [authored, same]

theorem hiddenLine {line : Text} (hidden : isAuthored (contentLine line).text = false)
    (quiet : opensSettings (contentLine line).text = false) : Shows [line] [] where
  quiet := fun line' member => by rw [List.mem_singleton.1 member, quiet]
  authored := by simp [hidden]

section Groups

variable {padding : Text} (blank : ∀ c ∈ padding, isBlank c = true)

include blank

theorem freeTexts {texts : List Text} (free : ∀ t ∈ texts, IsFree t) :
    Shows (texts.map (textLine padding)) texts := by
  induction texts with
  | nil => exact nil
  | cons t texts ih =>
      have here := free t (by simp)
      have text := text_contentLine_textLine blank here.toIsContent
      have authored : isAuthored t = true := by
        rw [Reading.isAuthored_of_solid here.toIsContent here.solid, isRegenerated, here.untagged]
        rfl
      exact (authoredLine (by rwa [text]) (by rw [text])).append
        (ih fun t member => free t (List.mem_cons_of_mem _ member))

theorem gap {texts : List Text} (empty : ∀ t ∈ texts, t = []) :
    Shows (texts.map (textLine padding)) [] := by
  induction texts with
  | nil => exact nil
  | cons t texts ih =>
      have text : (contentLine (textLine padding t)).text = [] := by
        rw [empty t (by simp)]
        exact text_contentLine_textLine blank isContent_nil
      exact (hiddenLine (by rw [text]; rfl) (by rw [text]; rfl)).append
        (ih fun t member => empty t (List.mem_cons_of_mem _ member))

theorem tag {tag : Tag} (kept : IsKept tag) :
    Shows (tagLines padding tag) (tag.text :: tag.continuation) := by
  have text := trimStart_contentLine_tagLine blank kept
  have same : trim (contentLine (tagLine padding tag)).text = trim tag.text := by
    rw [trim, text, trim]
  have authored : isAuthored (contentLine (tagLine padding tag)).text = true := by
    have solid := trim_ne_nil kept.content.trimmed kept.solid
    simp [isAuthored, same, text, kept.authored, solid]
  rw [tagLines_eq]
  exact (authoredLine authored same).append (freeTexts blank kept.continuation)

theorem param {param : ParamDoc} (readable : IsReadableParam param)
    (free : ∀ t ∈ param.continuation, IsFree t) :
    Shows ((paramTexts param).map (textLine padding)) param.continuation := by
  have text := text_contentLine_textLine blank readable.isContent_paramText
  have start := trimStart_of_tagName? (tagName?_paramText param)
  have hidden : isAuthored (paramText param) = false := by
    rw [isAuthored, start, isRegenerated, tagName?_paramText, readParam?_paramText readable]
    simp
  have quiet : opensSettings (paramText param) = false := by
    rw [opensSettings, start, tagName?_paramText]
    decide
  exact (hiddenLine (by rw [text, hidden]) (by rw [text, quiet])).append (freeTexts blank free)

theorem returns {docblock : Docblock} (legible : IsLegible docblock) :
    Shows ((returnText docblock :: docblock.returnContinuation).map (textLine padding))
      docblock.returnContinuation := by
  have text := text_contentLine_textLine blank (isContent_returnText legible.returns)
  have start := trimStart_of_tagName? (tagName?_returnText docblock)
  have hidden : isAuthored (returnText docblock) = false := by
    rw [isAuthored, start, isRegenerated, tagName?_returnText]
    simp
  have quiet : opensSettings (returnText docblock) = false := by
    rw [opensSettings, start, tagName?_returnText]
    decide
  exact (hiddenLine (by rw [text, hidden]) (by rw [text, quiet])).append
    (freeTexts blank legible.returnContinuation)

theorem summary {texts : List Text} (legible : ∀ t ∈ texts, t = [] ∨ IsFree t) :
    Shows (texts.map (textLine padding)) (texts.filter fun t => !(trim t).isEmpty) := by
  induction texts with
  | nil => exact nil
  | cons t texts ih =>
      have rest := ih fun t member => legible t (List.mem_cons_of_mem _ member)
      rcases legible t (by simp) with rfl | free
      · have empty : ∀ t ∈ [([] : Text)], t = [] := by simp
        exact (gap blank empty).append rest
      · have solid : (!(trim t).isEmpty) = true := by
          simpa using trim_ne_nil free.trimmed free.solid
        have only : ∀ u ∈ [t], IsFree u := by simpa using free
        rw [List.filter_cons, if_pos solid]
        exact (freeTexts blank only).append rest

end Groups

theorem title (docblock : Docblock) {site : Site} (unclosed : contains closer site.name = false)
    (blank : ∀ c ∈ site.padding, isBlank c = true) :
    Shows ((titleTexts docblock site).map (textLine site.padding)) (titleTexts docblock site) := by
  have line : ∀ t ∈ titleTexts docblock site, Shows [textLine site.padding t] [t] := by
    intro t member
    obtain ⟨solid, untagged⟩ := untagged_titleTexts member
    have text : (contentLine (textLine site.padding t)).text = trimEnd t := by
      rw [contentLine, stripLine_textLine blank (contains_closer_titleTexts unclosed t member)]
    refine authoredLine ?_ (by rw [text, trim_trimEnd])
    have some := trim_ne_nil (trimEnd_trimEnd t) solid
    rw [text, isAuthored, isRegenerated, untagged]
    simpa using some
  have lines := flatMap line
  rwa [← List.map_eq_flatMap, ← List.map_eq_flatMap, List.map_id'] at lines

theorem authoredTexts_append {lines texts : List Text} (shows : Shows lines texts)
    (rest : List Text) :
    authoredTexts false ((lines.map fun line => (contentLine line).text) ++ rest) =
      texts.map trim ++ authoredTexts false rest := by
  rw [← shows.authored]
  have quiet := shows.quiet
  clear shows
  induction lines with
  | nil => rfl
  | cons line lines ih =>
      rw [List.map_cons, List.cons_append, authoredTexts, if_neg (by simp), quiet line (by simp),
        ih fun line member => quiet line (List.mem_cons_of_mem _ member), List.filter_cons]
      split <;> simp

end Shows

theorem authoredTexts_entries {padding : Text} (blank : ∀ c ∈ padding, isBlank c = true)
    {usages : List SettingsUsage} (read : ∀ usage ∈ usages, IsReadEntry usage) (rest : List Text) :
    authoredTexts true ((((usages.map settingsEntry).map (textLine padding)).map fun line =>
      (contentLine line).text) ++ rest) = authoredTexts true rest := by
  induction usages with
  | nil => rfl
  | cons usage usages ih =>
      have here := read usage (by simp)
      have entry : isEntry (contentLine (textLine padding (settingsEntry usage))).text = true := by
        rw [text_contentLine_textLine blank (isContent_settingsEntry here), settingsEntry_eq here]
        exact isEntry_iff.2 ⟨_, rfl⟩
      rw [List.map_cons, List.map_cons, List.map_cons, List.cons_append, authoredTexts,
        if_pos (by rw [entry]; rfl),
        ih fun usage member => read usage (List.mem_cons_of_mem _ member)]

theorem authoredTexts_settings {padding : Text} (blank : ∀ c ∈ padding, isBlank c = true)
    {docblock : Docblock} (legible : IsLegible docblock) (rest : List Text) :
    authoredTexts false ((((settingsTexts docblock ++ [[]]).map (textLine padding)).map fun line =>
      (contentLine line).text) ++ rest) = authoredTexts false rest := by
  have empty : (contentLine (textLine padding [])).text = [] :=
    text_contentLine_textLine blank isContent_nil
  have tag : (contentLine (textLine padding "@settings".toList)).text = "@settings".toList :=
    text_contentLine_textLine blank ⟨by decide, by decide, by decide⟩
  have hidden : isAuthored "@settings".toList = false := by decide
  unfold settingsTexts
  by_cases none : docblock.settings.isEmpty = true
  · rw [if_pos none, List.nil_append, List.map_singleton, List.map_singleton, empty,
      List.singleton_append, authoredTexts_nil_cons]
  · rw [if_neg none, List.cons_append, List.cons_append, List.map_cons, List.map_cons,
      List.map_cons, List.map_cons, List.map_append, List.map_append, List.map_singleton,
      List.map_singleton, empty, tag, List.cons_append, List.cons_append, List.append_assoc,
      authoredTexts_nil_cons, authoredTexts_cons_of_hidden (by simp) hidden]
    exact (authoredTexts_entries blank legible.settings _).trans (authoredTexts_nil_cons true rest)

def lowerTexts (docblock : Docblock) : List Text :=
  (leadingTags docblock).flatMap (fun tag => tag.text :: tag.continuation) ++
    docblock.parameters.flatMap ParamDoc.continuation ++
    docblock.throwsTags.flatMap (fun tag => tag.text :: tag.continuation) ++
    (trailingTags docblock).flatMap (fun tag => tag.text :: tag.continuation) ++
    docblock.returnContinuation

theorem perm_otherTags (docblock : Docblock) :
    (leadingTags docblock ++ docblock.throwsTags ++ trailingTags docblock).Perm
      docblock.otherTags := by
  have plain := List.filter_append_perm Tag.leading
    (docblock.otherTags.filter fun tag => !tag.isThrows)
  have all := List.filter_append_perm Tag.isThrows docblock.otherTags
  have moved : (leadingTags docblock ++ docblock.throwsTags ++ trailingTags docblock).Perm
      (docblock.throwsTags ++ (leadingTags docblock ++ trailingTags docblock)) := by
    rw [← List.append_assoc]
    exact List.perm_append_comm.append_right _
  exact (moved.trans (plain.append_left _)).trans all

theorem exists_bodyLines_shows {docblock : Docblock} {site : Site} (legible : IsLegible docblock)
    (named : site.name ≠ []) (function : site.kind.isFunctionLike = true)
    (blank : ∀ c ∈ site.padding, isBlank c = true) :
    ∃ groups, Shows groups (lowerTexts docblock) ∧
      bodyLines docblock site =
        (titleTexts docblock site).map (textLine site.padding) ++
          docblock.summary.map (textLine site.padding) ++
          ((settingsTexts docblock ++ [[]]).map (textLine site.padding) ++ groups) := by
  obtain ⟨lower, empty, body⟩ := bodyLines_eq docblock named function
  obtain ⟨upper, middle, empty', front, split, -, lowered⟩ := addLowerTags_eq docblock site
  rw [List.forall_mem_append] at empty'
  have tags : ∀ {tags : List Tag}, tags ⊆ docblock.otherTags →
      Shows (tags.flatMap (tagLines site.padding))
        (tags.flatMap fun tag => tag.text :: tag.continuation) := fun subset =>
    Shows.flatMap fun tag member => Shows.tag blank (legible.tags tag (subset member))
  have params : Shows (docblock.parameters.flatMap fun param =>
      (paramTexts param).map (textLine site.padding))
        (docblock.parameters.flatMap ParamDoc.continuation) :=
    Shows.flatMap fun param member =>
      Shows.param blank (legible.parameters param member).1 (legible.parameters param member).2
  have groups := ((((((tags (leadingTags_subset docblock)).append params).append
    (Shows.gap blank empty'.1)).append (tags (throwsTags_subset docblock))).append
    (Shows.gap blank empty'.2)).append (tags (trailingTags_subset docblock))).append
    ((Shows.gap blank empty).append (Shows.returns blank legible))
  simp only [List.append_nil, List.nil_append, ← List.map_flatMap] at groups
  refine ⟨_, groups, ?_⟩
  rw [body, lowered, split, upperLines]
  simp only [List.map_append, List.append_assoc]

/-- The authored lines of a written docblock are the title and what was kept. -/
theorem authoredTexts_render {docblock : Docblock} {site : Site} (legible : IsLegible docblock)
    (named : site.name ≠ []) (unclosed : contains closer site.name = false)
    (function : site.kind.isFunctionLike = true)
    (blank : ∀ c ∈ site.padding, isBlank c = true) :
    (authoredTexts false ((contentLines (docblock.render site)).map ContentLine.text)).Perm
      ((titleTexts docblock site).map trim ++ docblock.keptTexts) := by
  obtain ⟨groups, shown, body⟩ := exists_bodyLines_shows legible named function blank
  have opening := (Shows.title docblock unclosed blank).append (Shows.summary blank legible.summary)
  have lines := contentLines_render blank
    (contains_closer_bodyLines legible named unclosed function blank)
  have texts : authoredTexts false ((contentLines (docblock.render site)).map ContentLine.text) =
      (titleTexts docblock site ++
        docblock.summary.filter fun t => !(trim t).isEmpty).map trim ++
        (lowerTexts docblock).map trim := by
    have read : ((bodyLines docblock site).map contentLine).map ContentLine.text =
        (bodyLines docblock site).map fun line => (contentLine line).text := List.map_map
    rw [lines, read, body, List.map_append, opening.authoredTexts_append]
    congr 1
    rw [List.map_append, authoredTexts_settings blank legible, ← List.append_nil (groups.map _),
      shown.authoredTexts_append, authoredTexts, List.append_nil]
  have tags := ((perm_otherTags docblock).flatMap_right fun tag =>
    tag.text :: tag.continuation).map trim
  rw [texts, List.perm_iff_count]
  intro t
  have counts := tags.count_eq t
  simp only [keptTexts, lowerTexts, List.flatMap_append, List.map_append, List.count_append]
    at counts ⊢
  omega

theorem titleTexts_cases (docblock : Docblock) (site : Site) :
    titleTexts docblock site = [] ∨
      titleTexts docblock site = [site.kind.label ++ ' ' :: site.name] := by
  unfold titleTexts
  simp only
  split
  · exact .inl rfl
  · exact .inr rfl

def strippedTexts : List Text → List Text
  | [] => []
  | first :: rest => (stripLine true first).1 :: rest.map fun raw => (stripLine false raw).1

theorem not_closing_of_unclosed (first : Bool) {raw : Text} (unclosed : contains closer raw = false) :
    (stripLine first raw).2 = false := by
  rcases stripLine_cases first raw with ⟨-, -, -, stays, -⟩ | ⟨body, ⟨front, whole⟩, -, -⟩
  · exact stays
  · have part := contains_closer_of_isInfix (trim_isInfix raw) unclosed
    exact absurd (by simpa using whole.symm) (not_contains_closer_iff.1 part (front ++ body) [])

theorem eq_nil_of_closing {first : Bool} {raw : Text} {rest : List Text}
    (closes : closesAtMostAtEnd (raw :: rest) = true) (closing : (stripLine first raw).2 = true) :
    rest = [] := by
  by_contra further
  rw [not_closing_of_unclosed first ((closesAtMostAtEnd_cons closes).2.2 further)] at closing
  cases closing

theorem contentFrom_cons_of_closes {raw : Text} {rest : List Text}
    (closes : closesAtMostAtEnd (raw :: rest) = true) (first : Bool) :
    contentFrom first (raw :: rest) =
      (if (stripLine first raw).1.isEmpty && (first || (stripLine first raw).2) then []
        else [⟨(stripLine first raw).1, raw⟩]) ++ contentFrom false rest := by
  rw [contentFrom_cons]
  congr 1
  split
  · next closing =>
      rw [eq_nil_of_closing closes closing]
      rfl
  · rfl

theorem exists_map_stripLine_eq {lines : List Text} (closes : closesAtMostAtEnd lines = true) :
    ∃ last, (lines.map fun raw => (stripLine false raw).1) =
      (contentFrom false lines).map ContentLine.text ++ gapTexts last := by
  induction lines with
  | nil => exact ⟨false, rfl⟩
  | cons raw rest ih =>
      rw [contentFrom_cons_of_closes closes, Bool.false_or]
      split
      · next dropped =>
          obtain ⟨empty, closing⟩ := Bool.and_eq_true_iff.1 dropped
          refine ⟨true, ?_⟩
          rw [eq_nil_of_closing closes closing, List.map_singleton, List.isEmpty_iff.1 empty]
          rfl
      · obtain ⟨last, same⟩ := ih (closesAtMostAtEnd_cons closes).2.1
        refine ⟨last, ?_⟩
        rw [List.map_cons, same]
        rfl

/-- Every line of a comment that closes at its end is read but for an empty first or last one. -/
theorem exists_strippedTexts_eq {lines : List Text} (closes : closesAtMostAtEnd lines = true) :
    ∃ first last, strippedTexts lines =
      gapTexts first ++ (contentLines lines).map ContentLine.text ++ gapTexts last := by
  cases lines with
  | nil => exact ⟨false, false, rfl⟩
  | cons raw rest =>
      obtain ⟨last, same⟩ := exists_map_stripLine_eq (closesAtMostAtEnd_cons closes).2.1
      refine ⟨(stripLine true raw).1.isEmpty, last, ?_⟩
      rw [strippedTexts, same, contentLines, contentFrom_cons_of_closes closes, Bool.true_or,
        Bool.and_true]
      cases empty : (stripLine true raw).1.isEmpty with
      | true => simp [gapTexts, List.isEmpty_iff.1 empty]
      | false => simp [gapTexts]

theorem authoredTexts_strippedTexts {lines : List Text} (closes : closesAtMostAtEnd lines = true) :
    authoredTexts false (strippedTexts lines) =
      authoredTexts false ((contentLines lines).map ContentLine.text) := by
  obtain ⟨first, last, same⟩ := exists_strippedTexts_eq closes
  rw [same]
  cases first <;> cases last <;> simp [gapTexts]

theorem countP_strippedTexts {lines : List Text} (closes : closesAtMostAtEnd lines = true) :
    (strippedTexts lines).countP opensReturn =
      (contentLines lines).countP fun line => opensReturn line.text := by
  have blank : opensReturn [] = false := rfl
  obtain ⟨first, last, same⟩ := exists_strippedTexts_eq closes
  rw [same]
  cases first <;> cases last <;> simp [gapTexts, blank, List.countP_map, Function.comp_def]

theorem closesAtMostAtEnd_concat {front : List Text} {last : Text}
    (unclosed : ∀ line ∈ front, contains closer line = false)
    (closes : closesFirstAtEnd (trim last) = true) : closesAtMostAtEnd (front ++ [last]) = true := by
  induction front with
  | nil => simp [closesAtMostAtEnd, closes]
  | cons line front ih =>
      have below := ih fun line member => unclosed line (List.mem_cons_of_mem _ member)
      rw [List.cons_append, closesAtMostAtEnd, unclosed line (by simp), below]
      · rfl
      · simp

theorem closesAtMostAtEnd_render (docblock : Docblock) {site : Site}
    (blank : ∀ c ∈ site.padding, isBlank c = true) :
    closesAtMostAtEnd (docblock.render site) = true := by
  have unclosed := contains_closer_open docblock blank
  rw [contains_closer_joinLines, List.any_eq_false] at unclosed
  have closing : trim (site.padding ++ " */".toList) = closer := by
    rw [trim, trimStart_append_of_blank blank]
    rfl
  refine closesAtMostAtEnd_concat (fun line member => ?_) (by rw [closing]; decide)
  simpa using unclosed line (List.mem_append_left _ member)

/-- Reading a docblock with at most one return tag and writing it for a function neither loses nor
doubles a line of its author: apart from the title, if one is added, the authored lines are the same
in another order. -/
theorem authored_lines_perm (lines : List Text) (site : Site)
    (closes : closesAtMostAtEnd lines = true) (single : ∀ line ∈ lines, '\n' ∉ line)
    (once : (strippedTexts lines).countP opensReturn ≤ 1)
    (function : site.kind.isFunctionLike = true) (named : site.name ≠ [])
    (unclosed : contains closer site.name = false)
    (blank : ∀ c ∈ site.padding, isBlank c = true) :
    (titleTexts (ofLines lines) site = [] ∨
      titleTexts (ofLines lines) site = [site.kind.label ++ ' ' :: site.name]) ∧
    (authoredTexts false (strippedTexts ((ofLines lines).render site))).Perm
      ((titleTexts (ofLines lines) site).map trim ++
        authoredTexts false (strippedTexts lines)) := by
  have legible := isLegible_ofLines closes single
  have written := authoredTexts_render legible named unclosed function blank
  rw [countP_strippedTexts closes] at once
  have kept := keptTexts_ofLines closes single once
  rw [authoredTexts_strippedTexts closes,
    authoredTexts_strippedTexts (closesAtMostAtEnd_render (ofLines lines) blank)]
  exact ⟨titleTexts_cases _ site, written.trans (kept.append_left _)⟩

def scatteredText : List Text :=
  ["/** Sums.", " * @author A", " *   and B", " * @settings", " * - a : b", " * text", " * - c", " *",
    " * loose", " * @param int $a", " *  more", " * @param", " * @return int", " * below",
    " * @throws E */"].map String.toList

theorem authored_lines_perm_scattered :
    authoredTexts false (strippedTexts scatteredText) =
        ["Sums.", "@author A", "and B", "text", "- c", "loose", "more", "@param", "below",
          "@throws E"].map String.toList ∧
      (authoredTexts false (strippedTexts ((ofLines scatteredText).render
        ⟨.function, "f".toList, " ".toList⟩))).Perm
          ("function f".toList :: ["Sums.", "@author A", "and B", "text", "- c", "loose", "more",
            "@param", "below", "@throws E"].map String.toList) := by
  have authored : authoredTexts false (strippedTexts scatteredText) =
      ["Sums.", "@author A", "and B", "text", "- c", "loose", "more", "@param", "below",
        "@throws E"].map String.toList := by decide +kernel
  have title : titleTexts (ofLines scatteredText) ⟨.function, "f".toList, " ".toList⟩ =
      ["function f".toList] := by decide +kernel
  obtain ⟨-, same⟩ := authored_lines_perm scatteredText ⟨.function, "f".toList, " ".toList⟩
    (by decide) (by decide) (by decide +kernel) rfl (by decide) (by decide)
    (List.all_eq_true.1 (by decide))
  rw [authored, title] at same
  exact ⟨authored, same⟩

end DocblockSync.Docblock
