import DocblockSync.Proofs.BodyGroups

/-! Reading a docblock, writing it for a function and reading it again. The second reading goes through
the groups of the body one after the other: each field is found in its own group, and the lines of
the other groups leave it alone. Parameters, the return type and the thrown types come back as they
were; the settings do unless the name of one ends with ` :` in front of a description. -/

namespace DocblockSync.Docblock

open Text

def thrown (tags : List Tag) : List (Text × List Text) :=
  (tags.filter Tag.isThrows).map fun tag => (tag.text, tag.continuation)

theorem thrown_otherTags (docblock : Docblock) :
    thrown docblock.otherTags = docblock.throwsTags.map fun tag => (tag.text, tag.continuation) := rfl

theorem thrown_concat_of_silent {tag : Tag} (silent : tag.isThrows = false) (init : List Tag) :
    thrown (init ++ [tag]) = thrown init := by
  simp [thrown, silent]

theorem thrown_concat_of_throws {tag : Tag} (throws : tag.isThrows = true) (init : List Tag) :
    thrown (init ++ [tag]) = thrown init ++ [(tag.text, tag.continuation)] := by
  simp [thrown, throws]

structure Fields where
  parameters : List ParamDoc
  returnType : Option Text
  returnDescription : Option Text
  returnContinuation : List Text
  settings : List SettingsUsage
  throws : List (Text × List Text)

def fields (docblock : Docblock) : Fields where
  parameters := docblock.parameters
  returnType := docblock.returnType
  returnDescription := docblock.returnDescription
  returnContinuation := docblock.returnContinuation
  settings := docblock.settings
  throws := thrown docblock.otherTags

theorem trimStart_of_tagName? {t name : Text} (tagged : tagName? t = some name) :
    trimStart t = t := by
  unfold tagName? at tagged
  split at tagged
  · exact trimStart_cons_of_not_blank (by decide) _
  · cases tagged

/-- A text that is no part of a field: neither blank nor a tag with a field of its own. -/
structure IsInert (t : Text) : Prop where
  solid : t ≠ []
  authored : isRegenerated (trimStart t) = false
  quiet : tagName? (trimStart t) ≠ some "@throws".toList

theorem isInert_of_untagged {t : Text} (solid : t ≠ []) (untagged : tagName? (trimStart t) = none) :
    IsInert t where
  solid := solid
  authored := by rw [isRegenerated, untagged]
  quiet := by simp [untagged]

namespace Reading

/-- No line without a tag can reach a field. -/
def IsDetached (state : Reading) : Prop :=
  state.continues = .nothing ∨
    state.continues = .other ∧
      ∃ init last, state.docblock.otherTags = init ++ [last] ∧ last.isThrows = false

theorem IsDetached.not_below {state : Reading} (detached : state.IsDetached) :
    state.continues ≠ .settings := by
  rcases detached with nothing | ⟨other, -⟩
  · simp [nothing]
  · simp [other]

theorem isDetached_keep {state : Reading} {text raw : Text} {leading : Bool}
    (quiet : tagName? text ≠ some "@throws".toList) :
    (state.keep text raw leading).IsDetached ∧
      (state.keep text raw leading).docblock.fields = state.docblock.fields := by
  have silent : Tag.isThrows { text, raw, leading } = false := by simpa [Tag.isThrows] using quiet
  refine ⟨.inr ⟨rfl, _, _, rfl, silent⟩, ?_⟩
  simp only [keep, fields, thrown_concat_of_silent silent]

theorem isDetached_readFree {state : Reading} {text raw : Text} (detached : state.IsDetached)
    (untagged : tagName? (trimStart text) = none) :
    (state.readFree text raw).IsDetached ∧
      (state.readFree text raw).docblock.fields = state.docblock.fields := by
  have quiet : tagName? text ≠ some "@throws".toList := fun tagged => by
    rw [trimStart_of_tagName? tagged, tagged] at untagged
    cases untagged
  unfold readFree
  by_cases inSummary : state.inSummary = true
  · rw [if_pos inSummary]
    exact ⟨detached, rfl⟩
  · rw [if_neg inSummary]
    rcases detached with nothing | ⟨other, init, last, tags, silent⟩
    · rw [nothing]
      exact isDetached_keep quiet
    · have extended : Tag.isThrows { last with continuation := last.continuation ++ [text] } =
          false := silent
      simp only [other, tags, onLast_concat]
      refine ⟨.inr ⟨rfl, init, _, rfl, extended⟩, ?_⟩
      simp only [fields, tags, thrown_concat_of_silent silent, thrown_concat_of_silent extended]

theorem isDetached_read {state : Reading} {line : ContentLine} (detached : state.IsDetached)
    (inert : IsInert line.text) :
    (state.read line).IsDetached ∧
      (state.read line).docblock.fields = state.docblock.fields := by
  cases tagged : tagName? (trimStart line.text) with
  | none =>
      rw [read_free (fun below => detached.not_below below.1) inert.solid tagged]
      exact isDetached_readFree detached tagged
  | some name =>
      have quiet := inert.quiet
      have authored := inert.authored
      simp only [isRegenerated, tagged, Bool.or_eq_false_iff, Bool.and_eq_false_iff,
        beq_eq_false_iff_ne] at authored
      obtain ⟨⟨settings, returns⟩, unread⟩ := authored
      rw [read_tagged tagged]
      by_cases param : name = "@param".toList
      · have none := unread.resolve_left (fun other => other param)
        rw [Option.isSome_eq_false_iff, Option.isNone_iff_eq_none] at none
        rw [param, readTag_param, readParamTag, none]
        exact isDetached_keep quiet
      · rw [readTag_other settings param returns]
        exact isDetached_keep quiet

theorem isDetached_read_blank {state : Reading} {line : ContentLine} (empty : line.text = []) :
    (state.read line).IsDetached ∧
      (state.read line).docblock.fields = state.docblock.fields := by
  rw [read_blank empty, readBlank]
  refine ⟨.inl rfl, ?_⟩
  by_cases inSummary : state.inSummary = true <;> simp [inSummary, fields]

theorem isDetached_foldl_read {lines : List ContentLine} {state : Reading}
    (detached : state.IsDetached) (inert : ∀ line ∈ lines, line.text = [] ∨ IsInert line.text) :
    (lines.foldl read state).IsDetached ∧
      (lines.foldl read state).docblock.fields = state.docblock.fields := by
  induction lines generalizing state with
  | nil => exact ⟨detached, rfl⟩
  | cons line lines ih =>
      have step : (state.read line).IsDetached ∧
          (state.read line).docblock.fields = state.docblock.fields := by
        rcases inert line (by simp) with empty | inert
        · exact isDetached_read_blank empty
        · exact isDetached_read detached inert
      obtain ⟨after, same⟩ := ih step.1 fun line member => inert line (List.mem_cons_of_mem _ member)
      exact ⟨after, same.trans step.2⟩

def continued (continues : Continues) (texts : List Text) (docblock : Docblock) : Docblock :=
  match continues with
  | .param =>
      { docblock with
        parameters := onLast (fun p => { p with continuation := p.continuation ++ texts })
          docblock.parameters }
  | .returns => { docblock with returnContinuation := docblock.returnContinuation ++ texts }
  | .other =>
      { docblock with
        otherTags := onLast (fun tag => { tag with continuation := tag.continuation ++ texts })
          docblock.otherTags }
  | .nothing | .settings => docblock

theorem onLast_onLast {α : Type} (f g : α → α) (entries : List α) :
    onLast f (onLast g entries) = onLast (f ∘ g) entries := by
  rcases List.eq_nil_or_concat' entries with rfl | ⟨init, last, rfl⟩
  · rfl
  · simp only [onLast_concat, Function.comp_apply]

theorem onLast_id {α : Type} (entries : List α) : onLast (fun x => x) entries = entries := by
  rcases List.eq_nil_or_concat' entries with rfl | ⟨init, last, rfl⟩
  · rfl
  · simp only [onLast_concat]

theorem continued_nil (continues : Continues) (docblock : Docblock) :
    continued continues [] docblock = docblock := by
  cases continues <;> simp [continued, onLast_id]

theorem continued_cons (continues : Continues) (t : Text) (texts : List Text)
    (docblock : Docblock) :
    continued continues (t :: texts) docblock =
      continued continues texts (continued continues [t] docblock) := by
  cases continues <;> simp [continued, onLast_onLast, Function.comp_def]

theorem readFree_continued {state : Reading} (after : state.inSummary = false)
    (continuing : state.continues ≠ .nothing ∧ state.continues ≠ .settings) (text raw : Text) :
    state.readFree text raw =
      { state with docblock := continued state.continues [text] state.docblock } := by
  rw [readFree, if_neg (by simp [after])]
  cases known : state.continues with
  | nothing => exact absurd known continuing.1
  | settings => exact absurd known continuing.2
  | param | returns | other => rfl

theorem foldl_read_continued {lines : List ContentLine} {state : Reading}
    (after : state.inSummary = false)
    (continuing : state.continues ≠ .nothing ∧ state.continues ≠ .settings)
    (free : ∀ line ∈ lines, IsFree line.text) :
    lines.foldl read state =
      { state with
        docblock := continued state.continues (lines.map ContentLine.text) state.docblock } := by
  induction lines generalizing state with
  | nil => simp [continued_nil]
  | cons line lines ih =>
      have here := free line (by simp)
      have step : state.read line =
          { state with docblock := continued state.continues [line.text] state.docblock } := by
        rw [read_free (fun below => continuing.2 below.1) here.solid here.untagged,
          readFree_continued after continuing]
      rw [List.foldl_cons, step, ih (by exact after) (by exact continuing)
        fun line member => free line (List.mem_cons_of_mem _ member)]
      rw [List.map_cons, continued_cons state.continues line.text (lines.map ContentLine.text)]

def readLines (state : Reading) (lines : List Text) : Reading :=
  (lines.map contentLine).foldl read state

theorem readLines_append (state : Reading) (front rest : List Text) :
    state.readLines (front ++ rest) = (state.readLines front).readLines rest := by
  rw [readLines, List.map_append, List.foldl_append, readLines, readLines]

theorem readLines_cons (state : Reading) (line : Text) (rest : List Text) :
    state.readLines (line :: rest) = (state.read (contentLine line)).readLines rest := rfl

section Groups

variable {padding : Text} (blank : ∀ c ∈ padding, isBlank c = true)

include blank

theorem text_contentLine_of_mem_map {texts : List Text} (content : ∀ t ∈ texts, IsContent t)
    {line : ContentLine} (member : line ∈ (texts.map (textLine padding)).map contentLine) :
    line.text ∈ texts := by
  simp only [List.map_map, List.mem_map] at member
  obtain ⟨t, inside, rfl⟩ := member
  rw [Function.comp_apply, text_contentLine_textLine blank (content t inside)]
  exact inside

theorem map_text_contentLine {texts : List Text} (content : ∀ t ∈ texts, IsContent t) :
    ((texts.map (textLine padding)).map contentLine).map ContentLine.text = texts := by
  rw [List.map_map, List.map_map]
  conv => rhs; rw [← List.map_id texts]
  exact List.map_congr_left fun t member => text_contentLine_textLine blank (content t member)

theorem readLines_continuation {state : Reading} (after : state.inSummary = false)
    (continuing : state.continues ≠ .nothing ∧ state.continues ≠ .settings) {texts : List Text}
    (free : ∀ t ∈ texts, IsFree t) :
    state.readLines (texts.map (textLine padding)) =
      { state with docblock := continued state.continues texts state.docblock } := by
  have content : ∀ t ∈ texts, IsContent t := fun t member => (free t member).toIsContent
  rw [readLines, foldl_read_continued after continuing, map_text_contentLine blank content]
  exact fun line member => free _ (text_contentLine_of_mem_map blank content member)

theorem fields_readLines_gap (state : Reading) {gap : List Text} (empty : ∀ t ∈ gap, t = []) :
    (state.readLines (gap.map (textLine padding))).docblock.fields = state.docblock.fields := by
  induction gap generalizing state with
  | nil => rfl
  | cons t gap ih =>
      have here : (contentLine (textLine padding t)).text = [] := by
        rw [empty t (by simp)]
        exact text_contentLine_textLine blank isContent_nil
      rw [List.map_cons, readLines_cons, ih _ fun t member => empty t (List.mem_cons_of_mem _ member)]
      exact (isDetached_read_blank here).2

theorem fields_readLines_param (state : Reading) {param : ParamDoc}
    (readable : IsReadableParam param) (free : ∀ t ∈ param.continuation, IsFree t) :
    (state.readLines ((paramTexts param).map (textLine padding))).docblock.fields =
      { state.docblock.fields with
        parameters := state.docblock.fields.parameters ++
          [{ param with typeHint := some (param.typeHint.getD "mixed".toList) }] } := by
  have text := text_contentLine_textLine blank readable.isContent_paramText
  have start := trimStart_of_tagName? (tagName?_paramText param)
  have tagged : tagName? (trimStart (contentLine (textLine padding (paramText param))).text) =
      some "@param".toList := by
    rw [text, start, tagName?_paramText]
  rw [paramTexts, List.map_cons, readLines_cons, read_tagged tagged, readTag_param, readParamTag,
    text, start, readParam?_paramText readable]
  rw [readLines_continuation blank (by rfl) (by simp) free]
  simp [fields, continued, onLast_concat, generated]

theorem fields_readLines_params (state : Reading) {params : List ParamDoc}
    (legible : ∀ p ∈ params, IsReadableParam p ∧ ∀ t ∈ p.continuation, IsFree t) :
    (state.readLines ((params.flatMap paramTexts).map (textLine padding))).docblock.fields =
      { state.docblock.fields with
        parameters := state.docblock.fields.parameters ++ params.map fun param =>
          { param with typeHint := some (param.typeHint.getD "mixed".toList) } } := by
  induction params generalizing state with
  | nil => simp [readLines, fields]
  | cons param params ih =>
      obtain ⟨readable, free⟩ := legible param (by simp)
      rw [List.flatMap_cons, List.map_append, readLines_append,
        ih _ fun p member => legible p (List.mem_cons_of_mem _ member),
        fields_readLines_param blank state readable free]
      simp

theorem fields_readLines_throws (state : Reading) {tag : Tag} (kept : IsKept tag)
    (throws : tag.isThrows = true) :
    (state.readLines (tagLines padding tag)).docblock.fields =
      { state.docblock.fields with
        throws := state.docblock.fields.throws ++ [(tag.text, tag.continuation)] } := by
  have name : tagName? tag.text = some "@throws".toList := by simpa [Tag.isThrows] using throws
  have text : trimStart (contentLine (tagLine padding tag)).text = tag.text := by
    rw [trimStart_contentLine_tagLine blank kept, trimStart_of_tagName? name]
  rw [tagLines_eq, readLines_cons, read_tagged (by rw [text, name]),
    readTag_other (by decide) (by decide) (by decide), text, keep]
  rw [readLines_continuation blank (by rfl) (by simp) kept.continuation]
  simp only [fields, continued, onLast_concat, List.nil_append]
  rw [thrown_concat_of_throws (by simpa [Tag.isThrows] using name)]

theorem fields_readLines_throwsTags (state : Reading) {tags : List Tag}
    (kept : ∀ tag ∈ tags, IsKept tag) (throws : ∀ tag ∈ tags, tag.isThrows = true) :
    (state.readLines (tags.flatMap (tagLines padding))).docblock.fields =
      { state.docblock.fields with
        throws := state.docblock.fields.throws ++
          tags.map fun tag => (tag.text, tag.continuation) } := by
  induction tags generalizing state with
  | nil => simp [readLines]
  | cons tag tags ih =>
      rw [List.flatMap_cons, readLines_append,
        ih _ (fun tag member => kept tag (List.mem_cons_of_mem _ member))
          (fun tag member => throws tag (List.mem_cons_of_mem _ member)),
        fields_readLines_throws blank state (kept tag (by simp)) (throws tag (by simp))]
      simp

theorem isInert_of_mem_tagLines {tag : Tag} (kept : IsKept tag) (silent : tag.isThrows = false)
    {line : Text} (member : line ∈ tagLines padding tag) : IsInert (contentLine line).text := by
  rw [tagLines_eq] at member
  rcases List.mem_cons.1 member with rfl | member
  · have text := trimStart_contentLine_tagLine blank kept
    refine ⟨text_contentLine_tagLine_ne_nil blank kept, by rw [text]; exact kept.authored,
      fun name => ?_⟩
    rw [text] at name
    rw [kept.start (by simp [name])] at name
    simp [Tag.isThrows, name] at silent
  · obtain ⟨t, inside, rfl⟩ := List.mem_map.1 member
    have free := kept.continuation t inside
    rw [text_contentLine_textLine blank free.toIsContent]
    exact isInert_of_untagged free.solid free.untagged

theorem isDetached_readLines_tags {state : Reading} (detached : state.IsDetached) {tags : List Tag}
    (kept : ∀ tag ∈ tags, IsKept tag) (silent : ∀ tag ∈ tags, tag.isThrows = false) :
    (state.readLines (tags.flatMap (tagLines padding))).IsDetached ∧
      (state.readLines (tags.flatMap (tagLines padding))).docblock.fields =
        state.docblock.fields := by
  refine isDetached_foldl_read detached fun line member => ?_
  obtain ⟨line, inside, rfl⟩ := List.mem_map.1 member
  obtain ⟨tag, among, inside⟩ := List.mem_flatMap.1 inside
  exact .inr (isInert_of_mem_tagLines blank (kept tag among) (silent tag among) inside)

theorem readLines_entries {state : Reading} (below : state.continues = .settings)
    {usages : List SettingsUsage} (read : ∀ usage ∈ usages, IsReadEntry usage) :
    state.readLines ((usages.map settingsEntry).map (textLine padding)) =
      { state with
        docblock :=
          { state.docblock with
            settings := state.docblock.settings ++
              usages.map fun usage => readSettingsEntry (entryText usage) } } := by
  induction usages generalizing state with
  | nil => simp [readLines]
  | cons usage usages ih =>
      have here := read usage (by simp)
      have text : (contentLine (textLine padding (settingsEntry usage))).text =
          "- ".toList ++ entryText usage := by
        rw [text_contentLine_textLine blank (isContent_settingsEntry here), settingsEntry_eq here]
      rw [List.map_cons, List.map_cons, readLines_cons, read_entry below text, readEntry,
        ih (by exact below) fun usage member => read usage (List.mem_cons_of_mem _ member)]
      simp

theorem isDetached_readLines_settings (state : Reading) {docblock : Docblock}
    (legible : IsLegible docblock) :
    (state.readLines ((settingsTexts docblock ++ [[]]).map (textLine padding))).IsDetached ∧
      (state.readLines ((settingsTexts docblock ++ [[]]).map (textLine padding))).docblock.fields =
        { state.docblock.fields with
          settings := state.docblock.fields.settings ++
            docblock.settings.map fun usage => readSettingsEntry (entryText usage) } := by
  have empty : (contentLine (textLine padding [])).text = [] :=
    text_contentLine_textLine blank isContent_nil
  have tag : (contentLine (textLine padding "@settings".toList)).text = "@settings".toList :=
    text_contentLine_textLine blank ⟨by decide, by decide, by decide⟩
  have tagged : tagName? (trimStart (contentLine (textLine padding "@settings".toList)).text) =
      some "@settings".toList := by
    rw [tag]
    decide
  rw [List.map_append, readLines_append]
  refine ⟨(isDetached_read_blank empty).1, (isDetached_read_blank empty).2.trans ?_⟩
  unfold settingsTexts
  by_cases none : docblock.settings.isEmpty = true
  · rw [if_pos none, List.isEmpty_iff.1 none]
    simp [readLines]
  · rw [if_neg none, List.map_cons, List.map_cons, readLines_cons, readLines_cons,
      read_tagged tagged, readTag_settings, readLines_entries blank rfl legible.settings]
    have same := (@isDetached_read_blank state _ empty).2
    rw [← same]
    rfl

theorem fields_readLines_return (state : Reading) {docblock : Docblock}
    (legible : IsLegible docblock) :
    (state.readLines ((returnText docblock :: docblock.returnContinuation).map
        (textLine padding))).docblock.fields =
      { state.docblock.fields with
        returnType := some (docblock.returnType.getD "void".toList)
        returnDescription := docblock.returnDescription
        returnContinuation := docblock.returnContinuation } := by
  have text := text_contentLine_textLine blank (isContent_returnText legible.returns)
  have start := trimStart_of_tagName? (tagName?_returnText docblock)
  have tagged : tagName? (trimStart (contentLine (textLine padding (returnText docblock))).text) =
      some "@return".toList := by
    rw [text, start, tagName?_returnText]
  rw [List.map_cons, readLines_cons, read_tagged tagged, readTag_return, readReturnTag_eq, text,
    start, readReturn?_returnText legible.returns,
    readLines_continuation blank (by rfl) (by simp) legible.returnContinuation]
  simp [fields, continued, generated]

end Groups

end Reading

theorem exists_label_cons (kind : DeclarationKind) :
    ∃ c rest, kind.label = c :: rest ∧ isBlank c = false ∧ c ≠ '@' := by
  cases kind with
  | function | method => exact ⟨'f', "unction".toList, rfl, by decide, by decide⟩
  | classType => exact ⟨'c', "lass".toList, rfl, by decide, by decide⟩
  | interfaceType => exact ⟨'i', "nterface".toList, rfl, by decide, by decide⟩
  | traitType => exact ⟨'t', "rait".toList, rfl, by decide, by decide⟩
  | property => exact ⟨'p', "roperty".toList, rfl, by decide, by decide⟩

theorem untagged_titleTexts {docblock : Docblock} {site : Site} {t : Text}
    (member : t ∈ titleTexts docblock site) :
    trimEnd t ≠ [] ∧ tagName? (trimStart (trimEnd t)) = none := by
  obtain ⟨c, rest, label, solid, plain⟩ := exists_label_cons site.kind
  unfold titleTexts at member
  simp only at member
  split at member
  · cases member
  · have text : trimEnd t = c :: trimEnd (rest ++ ' ' :: site.name) := by
      rw [List.mem_singleton.1 member, label]
      exact trimEnd_append_cons_of_not_blank solid [] _
    rw [text, trimStart_cons_of_not_blank solid]
    refine ⟨by simp, ?_⟩
    unfold tagName?
    split
    · next same => exact absurd (List.cons.inj same).1 plain
    · rfl

theorem text_nil_or_isInert_of_mem_opening {docblock : Docblock} {site : Site}
    (legible : IsLegible docblock) (unclosed : contains closer site.name = false)
    (blank : ∀ c ∈ site.padding, isBlank c = true) {t : Text}
    (member : t ∈ titleTexts docblock site ++ docblock.summary) :
    (contentLine (textLine site.padding t)).text = [] ∨
      IsInert (contentLine (textLine site.padding t)).text := by
  rcases List.mem_append.1 member with title | summary
  · right
    rw [contentLine, stripLine_textLine blank (contains_closer_titleTexts unclosed t title)]
    obtain ⟨solid, untagged⟩ := untagged_titleTexts title
    exact isInert_of_untagged solid untagged
  · rw [text_contentLine_textLine blank (legible.isContent_summary summary)]
    exact (legible.summary t summary).imp_right fun free =>
      isInert_of_untagged free.solid free.untagged

theorem fields_readLines_upperLines {docblock : Docblock} {site : Site}
    (legible : IsLegible docblock) (unclosed : contains closer site.name = false)
    (blank : ∀ c ∈ site.padding, isBlank c = true) :
    (Reading.readLines {} (upperLines docblock site)).docblock.fields =
      { ({} : Docblock).fields with
        parameters := docblock.parameters.map fun param =>
          { param with typeHint := some (param.typeHint.getD "mixed".toList) }
        settings := docblock.settings.map fun usage => readSettingsEntry (entryText usage) } := by
  have opening : (Reading.readLines {} ((titleTexts docblock site ++ docblock.summary).map
      (textLine site.padding))).IsDetached ∧ (Reading.readLines {} ((titleTexts docblock site ++
        docblock.summary).map (textLine site.padding))).docblock.fields =
          ({} : Docblock).fields := by
    refine Reading.isDetached_foldl_read (.inl rfl) fun line member => ?_
    simp only [List.map_map, List.mem_map, Function.comp_apply] at member
    obtain ⟨t, inside, rfl⟩ := member
    exact text_nil_or_isInert_of_mem_opening legible unclosed blank inside
  have head := Reading.isDetached_readLines_settings blank
    (Reading.readLines {} ((titleTexts docblock site ++ docblock.summary).map
      (textLine site.padding))) legible
  have leading := Reading.isDetached_readLines_tags blank head.1
    (fun tag member => legible.tags tag (leadingTags_subset docblock member))
    (fun tag member => by simpa using (List.mem_filter.1 (List.mem_filter.1 member).1).2)
  rw [upperLines, List.append_assoc (titleTexts docblock site ++ docblock.summary), List.map_append,
    Reading.readLines_append, Reading.readLines_append, Reading.readLines_append,
    Reading.fields_readLines_params blank _ legible.parameters, leading.2, head.2, opening.2]
  rfl

theorem fields_ofLines (lines : List Text) :
    (ofLines lines).fields = ((contentLines lines).foldl Reading.read {}).docblock.fields := rfl

/-- What a second reading finds in the fields. -/
theorem fields_ofLines_render {docblock : Docblock} {site : Site} (legible : IsLegible docblock)
    (named : site.name ≠ []) (unclosed : contains closer site.name = false)
    (function : site.kind.isFunctionLike = true)
    (blank : ∀ c ∈ site.padding, isBlank c = true) :
    (ofLines (docblock.render site)).fields =
      { parameters := docblock.parameters.map fun param =>
          { param with typeHint := some (param.typeHint.getD "mixed".toList) }
        returnType := some (docblock.returnType.getD "void".toList)
        returnDescription := docblock.returnDescription
        returnContinuation := docblock.returnContinuation
        settings := docblock.settings.map fun usage => readSettingsEntry (entryText usage)
        throws := thrown docblock.otherTags } := by
  have lines := contentLines_render blank
    (contains_closer_bodyLines legible named unclosed function blank)
  have whole : (ofLines (docblock.render site)).fields =
      (Reading.readLines {} (bodyLines docblock site)).docblock.fields := by
    rw [fields_ofLines, lines, Reading.readLines]
  obtain ⟨lower, empty, body⟩ := bodyLines_eq docblock named function
  obtain ⟨upper, middle, empty', front, split, ends, lowered⟩ := addLowerTags_eq docblock site
  rw [List.forall_mem_append] at empty'
  -- The groups are taken off from the last to the first.
  rw [whole, body, lowered, List.map_append, Reading.readLines_append, Reading.readLines_append,
    Reading.readLines_append, Reading.fields_readLines_return blank _ legible,
    Reading.fields_readLines_gap blank _ empty]
  have trailing : ((Reading.readLines {} front).readLines
      ((trailingTags docblock).flatMap (tagLines site.padding))).docblock.fields =
        (Reading.readLines {} front).docblock.fields := by
    rcases ends with none | ends
    · rw [none]
      rfl
    · obtain ⟨init, line, last, text⟩ := text_contentLine_of_endsBlank blank ends
      have detached : (Reading.readLines {} front).IsDetached := by
        rw [last, Reading.readLines_append]
        exact (Reading.isDetached_read_blank text).1
      exact (Reading.isDetached_readLines_tags blank detached
        (fun tag member => legible.tags tag (trailingTags_subset docblock member))
        (fun tag member => by simpa using (List.mem_filter.1 (List.mem_filter.1 member).1).2)).2
  rw [trailing, split, Reading.readLines_append, Reading.readLines_append, Reading.readLines_append,
    Reading.fields_readLines_gap blank _ empty'.2,
    Reading.fields_readLines_throwsTags blank _
      (fun tag member => legible.tags tag (throwsTags_subset docblock member))
      (fun tag member => (List.mem_filter.1 member).2),
    Reading.fields_readLines_gap blank _ empty'.1, fields_readLines_upperLines legible unclosed blank]
  rfl

/-- What is read, written for a function and read again has the same parameters, return type and
thrown types, with `mixed` and `void` for missing types. The settings are the same, but for
descriptions that repeat a name, exactly if none has a name that ends with ` :` in front of a
description. -/
theorem read_back_iff_settings_separable (lines : List Text) (site : Site)
    (closes : closesAtMostAtEnd lines = true) (single : ∀ line ∈ lines, '\n' ∉ line)
    (function : site.kind.isFunctionLike = true) (named : site.name ≠ [])
    (unclosed : contains closer site.name = false)
    (blank : ∀ c ∈ site.padding, isBlank c = true) :
    (ofLines ((ofLines lines).render site)).parameters =
        ((ofLines lines).parameters.map fun param =>
          { param with typeHint := some (param.typeHint.getD "mixed".toList) }) ∧
      (ofLines ((ofLines lines).render site)).returnType =
        some ((ofLines lines).returnType.getD "void".toList) ∧
      (ofLines ((ofLines lines).render site)).returnDescription =
        (ofLines lines).returnDescription ∧
      (ofLines ((ofLines lines).render site)).returnContinuation =
        (ofLines lines).returnContinuation ∧
      ((ofLines ((ofLines lines).render site)).throwsTags.map fun tag =>
          (tag.text, tag.continuation)) =
        ((ofLines lines).throwsTags.map fun tag => (tag.text, tag.continuation)) ∧
      ((ofLines ((ofLines lines).render site)).settings =
          (ofLines lines).settings.map SettingsUsage.withoutEcho ↔
        ∀ usage ∈ (ofLines lines).settings, usage.isSeparable = true) := by
  have legible := isLegible_ofLines closes single
  have found := fields_ofLines_render legible named unclosed function blank
  rw [fields, Fields.mk.injEq, thrown_otherTags, thrown_otherTags] at found
  obtain ⟨parameters, type, description, continuation, settings, throws⟩ := found
  refine ⟨parameters, type, description, continuation, throws, ?_⟩
  rw [settings, List.map_inj_left]
  exact forall₂_congr fun usage member =>
    readSettingsEntry_entryText_iff (legible.settings usage member)

def scatteredTags : List Text :=
  ["/** Sums.", " * @throws E if", " *   late", " * @return array<int, int> of $a", " * @settings",
    " * - a : b :", " * - b : b", " * @param ?int|A &...$c rest", " * more", " * @param $d",
    " * @throws F */"].map String.toList

theorem read_back_iff_settings_separable_scattered :
    (ofLines ((ofLines scatteredTags).render ⟨.method, "f".toList, "\t".toList⟩)).settings =
        [⟨"a".toList, some "b :".toList⟩, ⟨"b".toList, none⟩] ∧
      (ofLines ((ofLines scatteredTags).render ⟨.method, "f".toList, "\t".toList⟩)).returnType =
        some "array<int, int>".toList := by
  obtain ⟨-, returns, -, -, -, settings⟩ := read_back_iff_settings_separable scatteredTags
    ⟨.method, "f".toList, "\t".toList⟩ (by decide) (by decide) rfl (by decide) (by decide)
    (List.all_eq_true.1 (by decide))
  have read : (ofLines scatteredTags).settings =
      [⟨"a".toList, some "b :".toList⟩, ⟨"b".toList, some "b".toList⟩] := by decide +kernel
  have type : (ofLines scatteredTags).returnType = some "array<int, int>".toList := by
    decide +kernel
  have echo : [SettingsUsage.mk "a".toList (some "b :".toList),
      ⟨"b".toList, some "b".toList⟩].map SettingsUsage.withoutEcho =
        [⟨"a".toList, some "b :".toList⟩, ⟨"b".toList, none⟩] := by decide
  have separable : ∀ usage ∈ (ofLines scatteredTags).settings, usage.isSeparable = true := by
    rw [read]
    decide
  have kept := settings.2 separable
  rw [read, echo] at kept
  rw [type, Option.getD_some] at returns
  exact ⟨kept, returns⟩

def colonEntry : List Text :=
  ["/**", " * @settings", " * - a :\t : b", " */"].map String.toList

/-- The end of the name is taken for the divider, and the description starts with the real one. -/
theorem divider_taken_from_name :
    closesAtMostAtEnd colonEntry = true ∧ (∀ line ∈ colonEntry, '\n' ∉ line) ∧
      (ofLines colonEntry).settings = [⟨"a :".toList, some "b".toList⟩] ∧
      (ofLines ((ofLines colonEntry).render ⟨.function, "f".toList, []⟩)).settings =
        [⟨"a".toList, some ": b".toList⟩] ∧
      (ofLines ((ofLines colonEntry).render ⟨.function, "f".toList, []⟩)).settings ≠
        (ofLines colonEntry).settings.map SettingsUsage.withoutEcho := by
  refine ⟨by decide, by decide, by decide +kernel, by decide +kernel, by decide +kernel⟩

end DocblockSync.Docblock
