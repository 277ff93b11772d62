import DocblockSync.Proofs.Sections

/-! Reading the sections of a written docblock. Each section is followed through the state of reading,
with the kept tags seen as the texts of their sections: a line that is no part of a field goes below
the summary, to the leading tags or to the trailing ones, and stays the same text there. -/

namespace DocblockSync.Docblock

open Text

def isUntagged (t : Text) : Bool := (tagName? (trimStart t)).isNone

def isPrompt (t : Text) : Bool := tagName? (trimStart t) == some "@param".toList

theorem not_isPrompt_of_isUntagged {t : Text} (untagged : isUntagged t = true) :
    isPrompt t = false := by
  rw [isUntagged, Option.isNone_iff_eq_none] at untagged
  rw [isPrompt, untagged]
  rfl

/-- A state of reading with the kept tags as texts. -/
structure Sorting where
  summary : List Text := []
  settings : List SettingsUsage := []
  leading : List Text := []
  parameters : List ParamDoc := []
  throws : List Text := []
  trailing : List Text := []
  returnType : Option Text := none
  returnDescription : Option Text := none
  returnContinuation : List Text := []
  inSummary : Bool := true
  inGenerated : Bool := false

namespace Sorting

def add (sorting : Sorting) (t : Text) : Sorting :=
  if sorting.inSummary && isUntagged t then { sorting with summary := sorting.summary ++ [t] }
  else if sorting.inGenerated || isPrompt t then
    { sorting with trailing := sorting.trailing ++ [t], inSummary := false, inGenerated := true }
  else { sorting with leading := sorting.leading ++ [t], inSummary := false }

def addGap (sorting : Sorting) : Sorting :=
  if sorting.inSummary then { sorting with summary := sorting.summary ++ [[]] } else sorting

def addGapIf (condition : Bool) (sorting : Sorting) : Sorting :=
  if condition then sorting.addGap else sorting

def generate (some : Bool) (sorting : Sorting) : Sorting :=
  { sorting with
    inSummary := sorting.inSummary && !some, inGenerated := sorting.inGenerated || some }

def addParams (params : List ParamDoc) (sorting : Sorting) : Sorting :=
  generate (!params.isEmpty) { sorting with parameters := sorting.parameters ++ params }

def addThrows (texts : List Text) (sorting : Sorting) : Sorting :=
  generate (!texts.isEmpty) { sorting with throws := sorting.throws ++ texts }

theorem addGapIf_eq (condition : Bool) (sorting : Sorting) :
    sorting.addGapIf condition =
      { sorting with
        summary := sorting.summary ++ gapTexts (condition && sorting.inSummary) } := by
  obtain ⟨_, _, _, _, _, _, _, _, _, inSummary, _⟩ := sorting
  cases inSummary <;> cases condition <;> simp [addGapIf, addGap, gapTexts]

theorem addGapIf_of_not_inSummary {sorting : Sorting} (after : sorting.inSummary = false)
    (condition : Bool) : sorting.addGapIf condition = sorting := by
  cases condition <;> simp [addGapIf, addGap, after]

theorem returnType_foldl_add (sorting : Sorting) (texts : List Text) :
    (texts.foldl add sorting).returnType = sorting.returnType := by
  induction texts generalizing sorting with
  | nil => rfl
  | cons t texts ih =>
      have step : (sorting.add t).returnType = sorting.returnType := by
        unfold add
        split
        · rfl
        · split <;> rfl
      rw [← step]
      exact ih (sorting.add t)

theorem inSummary_foldl_add {sorting : Sorting} (after : sorting.inSummary = false)
    (texts : List Text) : (texts.foldl add sorting).inSummary = false := by
  induction texts generalizing sorting with
  | nil => exact after
  | cons t texts ih =>
      refine ih ?_
      rw [add, after, Bool.false_and, if_neg (by simp)]
      split <;> rfl

theorem inSummary_foldl_add_of_tagged {t : Text} (tagged : isUntagged t = false) (texts : List Text)
    (sorting : Sorting) : ((t :: texts).foldl add sorting).inSummary = false := by
  refine inSummary_foldl_add ?_ texts
  rw [add, tagged, Bool.and_false, if_neg (by simp)]
  split <;> rfl

theorem foldl_add_inGenerated {sorting : Sorting} (after : sorting.inSummary = false)
    (generated : sorting.inGenerated = true) (texts : List Text) :
    texts.foldl add sorting = { sorting with trailing := sorting.trailing ++ texts } := by
  induction texts generalizing sorting with
  | nil => simp
  | cons t texts ih =>
      have step : sorting.add t = { sorting with trailing := sorting.trailing ++ [t] } := by
        rw [add, after, generated]
        rfl
      rw [List.foldl_cons, step, ih (by exact after) (by exact generated)]
      simp

theorem foldl_add_fresh {sorting : Sorting} (after : sorting.inSummary = false)
    (fresh : sorting.inGenerated = false) (texts : List Text) :
    texts.foldl add sorting =
      { sorting with
        leading := sorting.leading ++ texts.takeWhile fun t => !isPrompt t
        trailing := sorting.trailing ++ texts.dropWhile fun t => !isPrompt t
        inGenerated := !(texts.dropWhile fun t => !isPrompt t).isEmpty } := by
  induction texts generalizing sorting with
  | nil =>
      cases sorting
      subst fresh
      simp
  | cons t texts ih =>
      cases prompt : isPrompt t with
      | true =>
          have step : sorting.add t = { sorting with
              trailing := sorting.trailing ++ [t], inGenerated := true } := by
            rw [add, after, fresh, prompt]
            rfl
          rw [List.foldl_cons, step, foldl_add_inGenerated (by exact after) rfl]
          simp [prompt]
      | false =>
          have step : sorting.add t = { sorting with leading := sorting.leading ++ [t] } := by
            rw [add, after, fresh, prompt]
            rfl
          rw [List.foldl_cons, step, ih (by exact after) (by exact fresh)]
          simp [prompt]

theorem foldl_add_start {sorting : Sorting} (before : sorting.inSummary = true)
    (fresh : sorting.inGenerated = false) (texts : List Text) :
    texts.foldl add sorting =
      { sorting with
        summary := sorting.summary ++ texts.takeWhile isUntagged
        leading := sorting.leading ++ (texts.dropWhile isUntagged).takeWhile fun t => !isPrompt t
        trailing := sorting.trailing ++ (texts.dropWhile isUntagged).dropWhile fun t => !isPrompt t
        inSummary := (texts.dropWhile isUntagged).isEmpty
        inGenerated :=
          !((texts.dropWhile isUntagged).dropWhile fun t => !isPrompt t).isEmpty } := by
  induction texts generalizing sorting with
  | nil =>
      cases sorting
      subst before fresh
      simp
  | cons t texts ih =>
      cases untagged : isUntagged t with
      | true =>
          have step : sorting.add t = { sorting with summary := sorting.summary ++ [t] } := by
            rw [add, before, untagged]
            rfl
          rw [List.foldl_cons, step, ih (by exact before) (by exact fresh)]
          simp [untagged]
      | false =>
          have step : sorting.add t = { sorting with inSummary := false }.add t := by
            simp [add, untagged]
          rw [List.foldl_cons, step, ← List.foldl_cons, foldl_add_fresh rfl (by exact fresh)]
          simp [untagged]

end Sorting

namespace Reading

def sorting (padding : Text) (state : Reading) : Sorting where
  summary := state.docblock.summary
  settings := state.docblock.settings
  leading := (leadingTags state.docblock).flatMap (tagTexts padding)
  parameters := state.docblock.parameters
  throws := state.docblock.throwsTags.flatMap (tagTexts padding)
  trailing := (trailingTags state.docblock).flatMap (tagTexts padding)
  returnType := state.docblock.returnType
  returnDescription := state.docblock.returnDescription
  returnContinuation := state.docblock.returnContinuation
  inSummary := state.inSummary
  inGenerated := state.inGenerated

def readTexts (padding : Text) (state : Reading) (texts : List Text) : Reading :=
  state.readLines (texts.map (textLine padding))

theorem readTexts_append (padding : Text) (state : Reading) (front rest : List Text) :
    state.readTexts padding (front ++ rest) =
      (state.readTexts padding front).readTexts padding rest := by
  rw [readTexts, List.map_append, readLines_append, readTexts, readTexts]

theorem readTexts_cons (padding : Text) (state : Reading) (t : Text) (rest : List Text) :
    state.readTexts padding (t :: rest) =
      (state.read (contentLine (textLine padding t))).readTexts padding rest := rfl

/-- A line without a tag starts a tag of its own or goes to the tag that a kept line would join. -/
def IsAligned (state : Reading) : Prop :=
  state.continues = .nothing ∨
    state.continues = .other ∧
      ∃ init last, state.docblock.otherTags = init ++ [last] ∧ last.isThrows = false ∧
        last.leading = !state.inGenerated

section Padding

variable {padding : Text} (blank : ∀ c ∈ padding, isBlank c = true)

include blank

theorem tagTexts_written {t : Text} (content : IsContent t) (solid : t ≠ []) (text : Text)
    (leading : Bool) :
    tagTexts padding { text, raw := textLine padding t, leading } = [t] := by
  have line : tagLine padding { text, raw := textLine padding t, leading } = textLine padding t := by
    rw [tagLine, if_pos (isLaidOut_textLine blank content solid), trimEnd_textLine content]
  rw [tagTexts, line, text_contentLine_textLine blank content]

theorem sorting_keep {state : Reading} {text t : Text} {leading : Bool} (content : IsContent t)
    (solid : t ≠ []) (quiet : tagName? text ≠ some "@throws".toList) :
    (state.keep text (textLine padding t) leading).sorting padding =
      if leading then
        { state.sorting padding with leading := (state.sorting padding).leading ++ [t] }
      else { state.sorting padding with trailing := (state.sorting padding).trailing ++ [t] } := by
  have silent : Tag.isThrows { text, raw := textLine padding t, leading } = false := by
    simpa [Tag.isThrows] using quiet
  have texts := tagTexts_written blank content solid text leading
  cases leading <;>
    simp [sorting, keep, leadingTags, trailingTags, throwsTags, silent, texts]

omit blank in
theorem sorting_continued {state : Reading} {t : Text} {init : List Tag} {last : Tag}
    (tags : state.docblock.otherTags = init ++ [last]) (silent : last.isThrows = false) :
    sorting padding { state with docblock := continued .other [t] state.docblock } =
      if last.leading then
        { state.sorting padding with leading := (state.sorting padding).leading ++ [t] }
      else { state.sorting padding with trailing := (state.sorting padding).trailing ++ [t] } := by
  rw [continued, tags, onLast_concat]
  obtain ⟨next, same⟩ : ∃ next : Tag, next = { last with continuation := last.continuation ++ [t] } :=
    ⟨_, rfl⟩
  have extended : next.isThrows = false := same ▸ silent
  have texts : tagTexts padding next = tagTexts padding last ++ [t] := same ▸ rfl
  have group : next.leading = last.leading := same ▸ rfl
  rw [← same]
  cases leading : last.leading <;>
    simp [sorting, tags, leadingTags, trailingTags, throwsTags, silent, extended, texts, group, leading]

omit blank in
theorem isAligned_keep {state : Reading} {text raw : Text}
    (quiet : tagName? text ≠ some "@throws".toList) :
    (state.keep text raw !state.inGenerated).IsAligned :=
  .inr ⟨rfl, _, _, rfl, by simpa [Tag.isThrows] using quiet, rfl⟩

theorem sorting_readFree {state : Reading} (aligned : state.IsAligned) {t : Text}
    (content : IsContent t) (solid : t ≠ []) (untagged : isUntagged t = true) :
    (state.readFree t (textLine padding t)).IsAligned ∧
      (state.readFree t (textLine padding t)).sorting padding = (state.sorting padding).add t := by
  have quiet : tagName? t ≠ some "@throws".toList := fun tagged => by
    rw [isUntagged, trimStart_of_tagName? tagged, tagged] at untagged
    cases untagged
  cases before : state.inSummary with
  | true =>
      rw [readFree, if_pos before]
      refine ⟨aligned, ?_⟩
      rw [Sorting.add, if_pos (by simp [sorting, before, untagged])]
      rfl
  | false =>
      have added : (state.sorting padding).add t =
          if (!state.inGenerated) = true then
            { state.sorting padding with leading := (state.sorting padding).leading ++ [t] }
          else
            { state.sorting padding with trailing := (state.sorting padding).trailing ++ [t] } := by
        rw [Sorting.add, if_neg (by simp [sorting, before]), not_isPrompt_of_isUntagged untagged]
        cases generated : state.inGenerated <;> simp [sorting, before, generated]
      rw [added]
      -- The line may continue the tag above it: by alignment, that tag is where the line belongs.
      rcases aligned with nothing | ⟨other, init, last, tags, silent, group⟩
      · rw [readFree, if_neg (by simp [before]), nothing]
        exact ⟨isAligned_keep quiet, sorting_keep blank content solid quiet⟩
      · have next : state.readFree t (textLine padding t) =
            { state with docblock := continued .other [t] state.docblock } := by
          rw [readFree_continued before (by simp [other])]
          simp only [other]
        rw [next, ← group]
        refine ⟨.inr ⟨other, init, { last with continuation := last.continuation ++ [t] }, ?_, silent,
          group⟩, sorting_continued tags silent⟩
        simp only [continued, tags, onLast_concat]

theorem sorting_readTag {state : Reading} {t name : Text} (content : IsContent t)
    (inert : IsInert t) (tagged : tagName? (trimStart t) = some name) :
    (state.readTag name (trimStart t) (textLine padding t)).IsAligned ∧
      (state.readTag name (trimStart t) (textLine padding t)).sorting padding =
        (state.sorting padding).add t := by
  have authored := inert.authored
  have quiet := inert.quiet
  simp only [isRegenerated, tagged, Bool.or_eq_false_iff, Bool.and_eq_false_iff,
    beq_eq_false_iff_ne] at authored
  obtain ⟨⟨settings, returns⟩, unread⟩ := authored
  have added : (state.sorting padding).add t =
      if state.inGenerated || isPrompt t then
        { state.sorting padding with
          trailing := (state.sorting padding).trailing ++ [t], inSummary := false, inGenerated := true }
      else
        { state.sorting padding with
          leading := (state.sorting padding).leading ++ [t], inSummary := false } := by
    rw [Sorting.add, if_neg (by simp [isUntagged, tagged])]
    rfl
  -- A parameter tag that cannot be read is kept, but counts as one that is written anew.
  by_cases param : name = "@param".toList
  · have none := unread.resolve_left (fun other => other param)
    rw [Option.isSome_eq_false_iff, Option.isNone_iff_eq_none] at none
    have prompt : isPrompt t = true := by rw [isPrompt, tagged, param]; rfl
    rw [param, readTag_param, readParamTag, none, added, prompt, Bool.or_true, if_pos rfl]
    refine ⟨isAligned_keep quiet, ?_⟩
    rw [sorting_keep blank content inert.solid quiet]
    rfl
  · have plain : isPrompt t = false := by
      rw [isPrompt, tagged, beq_eq_false_iff_ne]
      exact fun same => param (Option.some.inj same)
    have throws : (name == "@throws".toList) = false := by
      rw [beq_eq_false_iff_ne]
      rintro rfl
      exact quiet tagged
    rw [readTag_other settings param returns, throws, added, plain, Bool.or_false]
    refine ⟨isAligned_keep quiet, ?_⟩
    rw [sorting_keep blank content inert.solid quiet]
    cases generated : state.inGenerated <;> simp [sorting, generated]

theorem sorting_read_inert {state : Reading} (aligned : state.IsAligned) {t : Text}
    (content : IsContent t) (inert : IsInert t) :
    (state.read (contentLine (textLine padding t))).IsAligned ∧
      (state.read (contentLine (textLine padding t))).sorting padding =
        (state.sorting padding).add t := by
  rw [contentLine_textLine blank content]
  cases tagged : tagName? (trimStart t) with
  | none =>
      have apart : state.continues ≠ .settings := by
        rcases aligned with nothing | ⟨other, -⟩
        · simp [nothing]
        · simp [other]
      rw [read_free (fun below => apart below.1) inert.solid tagged]
      exact sorting_readFree blank aligned content inert.solid (by rw [isUntagged, tagged]; rfl)
  | some name =>
      rw [read_tagged tagged]
      exact sorting_readTag blank content inert tagged

theorem sorting_readTexts_inert {state : Reading} (aligned : state.IsAligned) {texts : List Text}
    (inert : ∀ t ∈ texts, IsContent t ∧ IsInert t) :
    (state.readTexts padding texts).IsAligned ∧
      (state.readTexts padding texts).sorting padding =
        texts.foldl Sorting.add (state.sorting padding) := by
  induction texts generalizing state with
  | nil => exact ⟨aligned, rfl⟩
  | cons t texts ih =>
      rw [List.forall_mem_cons] at inert
      obtain ⟨content, here⟩ := inert.1
      obtain ⟨next, step⟩ := sorting_read_inert blank aligned content here
      rw [readTexts_cons, List.foldl_cons, ← step]
      exact ih next inert.2

theorem sorting_readTexts_tags {state : Reading} {texts : List Text}
    (ready : texts ≠ [] → state.continues = .nothing)
    (inert : ∀ t ∈ texts, IsContent t ∧ IsInert t) :
    (state.readTexts padding texts).sorting padding =
      texts.foldl Sorting.add (state.sorting padding) := by
  cases texts with
  | nil => rfl
  | cons t texts => exact (sorting_readTexts_inert blank (.inl (ready (by simp))) inert).2

theorem sorting_readTexts_gap (state : Reading) (condition : Bool) :
    (state.readTexts padding (gapTexts condition)).sorting padding =
      (state.sorting padding).addGapIf condition := by
  cases condition with
  | false => rfl
  | true =>
      have empty := text_contentLine_textLine blank isContent_nil
      have line : state.readTexts padding (gapTexts true) = state.readBlank := read_blank empty
      rw [line, Sorting.addGapIf, if_pos rfl, Sorting.addGap]
      cases before : state.inSummary <;> simp [readBlank, sorting, before, leadingTags, trailingTags,
        throwsTags]

theorem continues_readTexts_gap (state : Reading) :
    (state.readTexts padding (gapTexts true)).continues = .nothing := by
  have empty := text_contentLine_textLine blank isContent_nil
  have line : state.readTexts padding (gapTexts true) = state.readBlank := read_blank empty
  rw [line]
  rfl

theorem readTexts_summary (state : Reading) (before : state.inSummary = true)
    (nothing : state.continues = .nothing) {texts : List Text}
    (free : ∀ t ∈ texts, t = [] ∨ IsFree t) :
    state.readTexts padding texts =
      { state with
        docblock := { state.docblock with summary := state.docblock.summary ++ texts } } := by
  induction texts generalizing state with
  | nil => simp [readTexts, readLines]
  | cons t texts ih =>
      rw [List.forall_mem_cons] at free
      have step : state.read (contentLine (textLine padding t)) =
          { state with
            docblock := { state.docblock with summary := state.docblock.summary ++ [t] } } := by
        rcases free.1 with rfl | here
        · rw [read_blank (text_contentLine_textLine blank isContent_nil), readBlank, if_pos before,
            ← nothing]
        · rw [contentLine_textLine blank here.toIsContent,
            read_free (by simp [nothing]) here.solid here.untagged, readFree, if_pos before]
      rw [readTexts_cons, step, ih _ (by exact before) (by exact nothing) free.2]
      simp

theorem readTexts_settings (state : Reading) {usages : List SettingsUsage}
    (read : ∀ usage ∈ usages, IsReadEntry usage) :
    state.readTexts padding ("@settings".toList :: usages.map settingsEntry) =
      { docblock :=
          { state.docblock with
            settings := state.docblock.settings ++ usages.map SettingsUsage.reread }
        inSummary := false
        inGenerated := true
        continues := .settings } := by
  have content : IsContent "@settings".toList := ⟨by decide, by decide, by decide⟩
  have tagged : tagName? (trimStart "@settings".toList) = some "@settings".toList := by decide
  rw [readTexts_cons, contentLine_textLine blank content, read_tagged tagged, readTag_settings,
    readTexts, readLines_entries blank rfl read]
  rfl

theorem sorting_readTexts_param (state : Reading) {param : ParamDoc}
    (readable : IsReadableParam param) (free : ∀ t ∈ param.continuation, IsFree t) :
    (state.readTexts padding (paramTexts param)).sorting padding =
      (state.sorting padding).addParams
        [{ param with typeHint := some (param.typeHint.getD "mixed".toList) }] := by
  have start := trimStart_of_tagName? (tagName?_paramText param)
  have tagged : tagName? (trimStart (paramText param)) = some "@param".toList := by
    rw [start, tagName?_paramText]
  rw [paramTexts, readTexts_cons, contentLine_textLine blank readable.isContent_paramText,
    read_tagged tagged, readTag_param, readParamTag, start, readParam?_paramText readable]
  rw [readTexts, readLines_continuation blank (by rfl) (by simp) free]
  simp [sorting, Sorting.addParams, Sorting.generate, continued, onLast_concat, generated,
    leadingTags, trailingTags, throwsTags]

theorem sorting_readTexts_params (state : Reading) {params : List ParamDoc}
    (legible : ∀ p ∈ params, IsReadableParam p ∧ ∀ t ∈ p.continuation, IsFree t) :
    (state.readTexts padding (params.flatMap paramTexts)).sorting padding =
      (state.sorting padding).addParams (params.map fun param =>
        { param with typeHint := some (param.typeHint.getD "mixed".toList) }) := by
  induction params generalizing state with
  | nil => simp [readTexts, readLines, Sorting.addParams, Sorting.generate]
  | cons param params ih =>
      rw [List.forall_mem_cons] at legible
      rw [List.flatMap_cons, readTexts_append, ih _ legible.2,
        sorting_readTexts_param blank state legible.1.1 legible.1.2]
      simp [Sorting.addParams, Sorting.generate]

theorem sorting_readTexts_throws (state : Reading) {tag : Tag} (kept : IsKept tag)
    (single : '\n' ∉ (stripLine false tag.raw).1) (throws : tag.isThrows = true) :
    (state.readTexts padding (tagTexts padding tag)).sorting padding =
      (state.sorting padding).addThrows (tagTexts padding tag) := by
  obtain ⟨content, solid⟩ := isContent_of_mem_tagTexts blank kept single (List.mem_cons_self ..)
  have name : tagName? tag.text = some "@throws".toList := by simpa [Tag.isThrows] using throws
  have text : trimStart (contentLine (tagLine padding tag)).text = tag.text := by
    rw [trimStart_contentLine_tagLine blank kept, trimStart_of_tagName? name]
  rw [tagTexts, readTexts_cons, contentLine_textLine blank content,
    read_tagged (by rw [text, name]), readTag_other (by decide) (by decide) (by decide), text, keep,
    readTexts, readLines_continuation blank (by rfl) (by simp) kept.continuation]
  obtain ⟨next, same⟩ : ∃ next : Tag, next =
      { text := tag.text, raw := textLine padding (contentLine (tagLine padding tag)).text,
        continuation := tag.continuation } := ⟨_, rfl⟩
  have written : (contentLine (tagLine padding next)).text :: next.continuation =
      (contentLine (tagLine padding tag)).text :: tag.continuation := by
    have line := tagTexts_written blank content solid tag.text false
    rw [same]
    exact congrArg (· :: tag.continuation) (List.cons.inj line).1
  have named : next.isThrows = true := by simpa [same, Tag.isThrows] using name
  simp only [continued, onLast_concat, List.nil_append, beq_self_eq_true, Bool.or_true,
    Bool.not_true]
  rw [← same]
  simp [sorting, Sorting.addThrows, Sorting.generate, leadingTags, trailingTags, throwsTags, named,
    tagTexts, written]

theorem sorting_readTexts_throwsTags (state : Reading) {tags : List Tag}
    (kept : ∀ tag ∈ tags, IsKept tag) (single : ∀ tag ∈ tags, '\n' ∉ (stripLine false tag.raw).1)
    (throws : ∀ tag ∈ tags, tag.isThrows = true) :
    (state.readTexts padding (tags.flatMap (tagTexts padding))).sorting padding =
      (state.sorting padding).addThrows (tags.flatMap (tagTexts padding)) := by
  induction tags generalizing state with
  | nil => simp [readTexts, readLines, Sorting.addThrows, Sorting.generate]
  | cons tag tags ih =>
      rw [List.forall_mem_cons] at kept single throws
      rw [List.flatMap_cons, readTexts_append, ih _ kept.2 single.2 throws.2,
        sorting_readTexts_throws blank state kept.1 single.1 throws.1]
      simp [Sorting.addThrows, Sorting.generate, tagTexts]

theorem sorting_readTexts_return (state : Reading) {docblock : Docblock}
    (legible : IsLegible docblock) :
    (state.readTexts padding (returnText docblock :: docblock.returnContinuation)).sorting padding =
      { (state.sorting padding).generate true with
        returnType := some (docblock.returnType.getD "void".toList)
        returnDescription := docblock.returnDescription
        returnContinuation := docblock.returnContinuation } := by
  have start := trimStart_of_tagName? (tagName?_returnText docblock)
  have tagged : tagName? (trimStart (returnText docblock)) = some "@return".toList := by
    rw [start, tagName?_returnText]
  rw [readTexts_cons, contentLine_textLine blank (isContent_returnText legible.returns),
    read_tagged tagged, readTag_return, readReturnTag_eq, start,
    readReturn?_returnText legible.returns, readTexts,
    readLines_continuation blank (by rfl) (by simp) legible.returnContinuation]
  simp [sorting, Sorting.generate, continued, generated, leadingTags, trailingTags, throwsTags]

end Padding

end Reading

end DocblockSync.Docblock
