import DocblockSync.Proofs.Rereading

/-! What the author of a docblock wrote, apart from the tags that are written anew. Reading stores each
such line once: a line either goes to one place of the docblock, or it is an entry, a blank line or a
tag that is written anew. -/

namespace DocblockSync.Docblock

open Text

def isEntry (t : Text) : Bool := startsWith "- ".toList t

def opensSettings (t : Text) : Bool := tagName? (trimStart t) == some "@settings".toList

def opensReturn (t : Text) : Bool := tagName? (trimStart t) == some "@return".toList

/-- Whether a text is neither blank nor a tag that is written anew. -/
def isAuthored (t : Text) : Bool := !(trim t).isEmpty && !isRegenerated (trimStart t)

/-- The authored ones among the texts of content lines, trimmed. Entries directly below the tag of a
settings list are not, and `below` tells whether the first text stands there. -/
def authoredTexts (below : Bool) : List Text → List Text
  | [] => []
  | t :: rest =>
      if below && isEntry t then authoredTexts true rest
      else (if isAuthored t then [trim t] else []) ++ authoredTexts (opensSettings t) rest

/-- Whether the text below another one stands directly below a settings tag or its entries. -/
def stillBelow (below : Bool) (t : Text) : Bool :=
  (below && isEntry t) || opensSettings t

theorem isEntry_iff {t : Text} : isEntry t = true ↔ ∃ entry, t = "- ".toList ++ entry :=
  startsWith_iff

theorem authoredTexts_cons (below : Bool) (t : Text) (rest : List Text) :
    authoredTexts below (t :: rest) =
      authoredTexts below [t] ++ authoredTexts (stillBelow below t) rest := by
  cases entry : below && isEntry t <;> simp [authoredTexts, stillBelow, entry]

theorem authoredTexts_singleton {below : Bool} {t : Text}
    (apart : ¬(below = true ∧ ∃ entry, t = "- ".toList ++ entry)) :
    authoredTexts below [t] = if isAuthored t then [trim t] else [] := by
  have entry : ¬(below && isEntry t) = true := by
    rw [Bool.and_eq_true, isEntry_iff]
    exact apart
  rw [authoredTexts, if_neg entry, authoredTexts, List.append_nil]

theorem stillBelow_of_apart {below : Bool} {t : Text}
    (apart : ¬(below = true ∧ ∃ entry, t = "- ".toList ++ entry)) :
    stillBelow below t = opensSettings t := by
  have entry : (below && isEntry t) = false := by
    rw [← Bool.not_eq_true, Bool.and_eq_true, isEntry_iff]
    exact apart
  rw [stillBelow, entry, Bool.false_or]

theorem authoredTexts_cons_of_hidden {below : Bool} {t : Text}
    (apart : ¬(below = true ∧ ∃ entry, t = "- ".toList ++ entry)) (hidden : isAuthored t = false)
    (rest : List Text) : authoredTexts below (t :: rest) = authoredTexts (opensSettings t) rest := by
  rw [authoredTexts_cons, authoredTexts_singleton apart, stillBelow_of_apart apart, hidden]
  rfl

@[simp]
theorem authoredTexts_nil_cons (below : Bool) (rest : List Text) :
    authoredTexts below ([] :: rest) = authoredTexts false rest :=
  authoredTexts_cons_of_hidden (by simp) rfl rest

@[simp]
theorem authoredTexts_concat_nil (below : Bool) (texts : List Text) :
    authoredTexts below (texts ++ [[]]) = authoredTexts below texts := by
  induction texts generalizing below with
  | nil => exact authoredTexts_nil_cons below []
  | cons t texts ih => rw [List.cons_append, authoredTexts_cons, ih, ← authoredTexts_cons]

def keptTexts (docblock : Docblock) : List Text :=
  (docblock.summary.filter (fun t => !(trim t).isEmpty) ++
    docblock.parameters.flatMap ParamDoc.continuation ++ docblock.returnContinuation ++
    docblock.otherTags.flatMap fun tag => tag.text :: tag.continuation).map trim

namespace Reading

/-- What continues a field has one to continue, and the summary continues nothing. -/
structure IsGrounded (state : Reading) : Prop where
  summary : state.inSummary = true → state.continues = .nothing
  param : state.continues = .param → state.docblock.parameters ≠ []
  other : state.continues = .other → state.docblock.otherTags ≠ []

def Returned (state : Reading) : Prop :=
  state.continues = .returns ∨ state.docblock.returnContinuation ≠ []

/-- A step from one state to another that accounts for a line: its text is kept if it was authored. -/
structure Accounts (state next : Reading) (t : Text) : Prop where
  kept : next.docblock.keptTexts.Perm
    (state.docblock.keptTexts ++ authoredTexts (state.continues == .settings) [t])
  below : (next.continues == .settings) = stillBelow (state.continues == .settings) t
  grounded : next.IsGrounded
  returned : next.Returned → opensReturn t = true ∨ state.Returned

theorem accounts_readEntry {state : Reading} {t entry : Text} (grounded : state.IsGrounded)
    (below : state.continues = .settings) (split : t = "- ".toList ++ entry) :
    Accounts state (state.readEntry entry) t := by
  have start : isEntry t = true := isEntry_iff.2 ⟨entry, split⟩
  refine ⟨?_, ?_, ⟨grounded.summary, grounded.param, grounded.other⟩, .inr⟩
  · simp [authoredTexts, below, start, keptTexts, readEntry]
  · simp [readEntry, below, stillBelow, start]

theorem accounts_readBlank {state : Reading} : Accounts state state.readBlank [] := by
  refine ⟨?_, ?_, ⟨fun _ => rfl, by simp [readBlank], by simp [readBlank]⟩, ?_⟩
  · have blank : authoredTexts (state.continues == .settings) [[]] = [] := by
      rw [authoredTexts_singleton (by simp)]
      rfl
    rw [blank, List.append_nil]
    by_cases inSummary : state.inSummary = true <;>
      simp [readBlank, keptTexts, inSummary, trim]
  · rw [stillBelow_of_apart (by simp)]
    rfl
  · intro returned
    refine .inr (.inr ?_)
    rcases returned with returns | some
    · simp [readBlank] at returns
    · by_cases inSummary : state.inSummary = true <;> simpa [readBlank, inSummary] using some

theorem keptTexts_keep (state : Reading) (text raw : Text) (leading : Bool) :
    (state.keep text raw leading).docblock.keptTexts = state.docblock.keptTexts ++ [trim text] := by
  simp [keep, keptTexts]

theorem accounts_keep {state base : Reading} {t text raw : Text} {leading : Bool}
    (docblock : base.docblock = state.docblock) (after : base.inSummary = false)
    (apart : ¬(state.continues = .settings ∧ ∃ entry, t = "- ".toList ++ entry))
    (authored : isAuthored t = true) (closed : opensSettings t = false)
    (same : trim text = trim t) : Accounts state (base.keep text raw leading) t := by
  have apart' : ¬((state.continues == .settings) = true ∧ ∃ entry, t = "- ".toList ++ entry) := by
    simpa using apart
  refine ⟨?_, ?_, ⟨fun inSummary => ?_, by simp [keep], by simp [keep]⟩, fun returned => ?_⟩
  · rw [keptTexts_keep, docblock, authoredTexts_singleton apart', if_pos authored, same]
  · rw [stillBelow_of_apart apart', closed]
    rfl
  · rw [show (base.keep text raw leading).inSummary = base.inSummary from rfl, after] at inSummary
    cases inSummary
  · rcases returned with returns | some
    · cases returns
    · exact .inr (.inr (docblock ▸ some))

theorem isAuthored_of_solid {t : Text} (content : IsContent t) (solid : t ≠ []) :
    isAuthored t = !isRegenerated (trimStart t) := by
  have some : (trim t).isEmpty = false := by
    rw [List.isEmpty_eq_false_iff]
    exact trim_ne_nil content.trimmed solid
  rw [isAuthored, some, Bool.not_false, Bool.true_and]

theorem not_entry_of_tagged {t name : Text} (tagged : tagName? (trimStart t) = some name) :
    ¬∃ entry, t = "- ".toList ++ entry := by
  rintro ⟨entry, rfl⟩
  rw [tagName?_eq_none_of_dash] at tagged
  cases tagged

theorem accounts_regenerated {state next : Reading} {t name : Text}
    (tagged : tagName? (trimStart t) = some name) (regenerated : isRegenerated (trimStart t) = true)
    (kept : next.docblock.keptTexts = state.docblock.keptTexts)
    (below : (next.continues == .settings) = opensSettings t) (grounded : next.IsGrounded)
    (returned : next.Returned → opensReturn t = true ∨ state.Returned) :
    Accounts state next t := by
  have apart : ¬((state.continues == .settings) = true ∧ ∃ entry, t = "- ".toList ++ entry) :=
    fun entry => not_entry_of_tagged tagged entry.2
  refine ⟨?_, by rw [stillBelow_of_apart apart, below], grounded, returned⟩
  rw [authoredTexts_singleton apart, kept, isAuthored, regenerated]
  simp

theorem accounts_readTag {state : Reading} {line : ContentLine} {name : Text}
    (content : IsContent line.text) (tagged : tagName? (trimStart line.text) = some name)
    (first : opensReturn line.text = true → ¬state.Returned) :
    Accounts state (state.readTag name (trimStart line.text) line.raw) line.text := by
  have solid : line.text ≠ [] := fun empty => by
    rw [empty] at tagged
    cases tagged
  have apart : ¬(state.continues = .settings ∧ ∃ entry, line.text = "- ".toList ++ entry) :=
    fun entry => not_entry_of_tagged tagged entry.2
  have keeps : ∀ {base : Reading} {leading : Bool}, base.docblock = state.docblock →
      base.inSummary = false → isRegenerated (trimStart line.text) = false →
      name ≠ "@settings".toList →
      Accounts state (base.keep (trimStart line.text) line.raw leading) line.text := by
    intro base leading docblock after authored other
    refine accounts_keep docblock after apart ?_ ?_ (trim_trimStart line.text)
    · rw [isAuthored_of_solid content solid, authored]
      rfl
    · simpa [opensSettings, tagged] using other
  by_cases settings : name = "@settings".toList
  · rw [settings] at tagged ⊢
    rw [readTag_settings]
    refine accounts_regenerated tagged (by rw [isRegenerated, tagged]; rfl) rfl
      (by rw [opensSettings, tagged]; rfl) ⟨by simp [generated], by simp, by simp⟩ ?_
    rintro (returns | some)
    · cases returns
    · exact .inr (.inr some)
  by_cases param : name = "@param".toList
  · rw [param] at tagged ⊢
    rw [readTag_param, readParamTag]
    cases read : readParam? (trimStart line.text) with
    | none =>
        exact keeps rfl rfl (by rw [isRegenerated, tagged, read]; rfl) settings
    | some param =>
        have single := (isReadableParam_of_readParam? (isContent_trimStart content) read).2
        refine accounts_regenerated tagged (by rw [isRegenerated, tagged, read]; rfl) ?_
          (by rw [opensSettings, tagged]; rfl) ⟨by simp [generated], by simp, by simp⟩ ?_
        · simp [keptTexts, generated, single]
        · rintro (returns | some)
          · cases returns
          · exact .inr (.inr some)
  by_cases returns : name = "@return".toList
  · rw [returns] at tagged ⊢
    have opens : opensReturn line.text = true := by rw [opensReturn, tagged]; rfl
    -- A return tag starts its continuation anew, so there must be none yet.
    have fresh : state.docblock.returnContinuation = [] := by
      by_contra some
      exact first opens (.inr some)
    rw [readTag_return, readReturnTag_eq]
    refine accounts_regenerated tagged (by rw [isRegenerated, tagged]; rfl) ?_
      (by rw [opensSettings, tagged]; rfl) ⟨by simp [generated], by simp, by simp⟩
      fun _ => .inl opens
    simp [keptTexts, generated, fresh]
  · rw [readTag_other settings param returns]
    refine keeps rfl rfl ?_ settings
    simp only [isRegenerated, tagged, Bool.or_eq_false_iff, Bool.and_eq_false_iff,
      beq_eq_false_iff_ne]
    exact ⟨⟨settings, returns⟩, .inl param⟩

theorem perm_map_trim_insert (front rest : List Text) (t : Text) :
    ((front ++ [t] ++ rest).map trim).Perm ((front ++ rest).map trim ++ [trim t]) := by
  have swapped : (front ++ [t] ++ rest).Perm (front ++ rest ++ [t]) := by
    rw [List.append_assoc, List.append_assoc]
    exact List.perm_append_comm.append_left front
  simpa using swapped.map trim

theorem keptTexts_continued {state : Reading} (grounded : state.IsGrounded)
    (continuing : state.continues ≠ .nothing ∧ state.continues ≠ .settings) (t : Text) :
    (continued state.continues [t] state.docblock).keptTexts.Perm
      (state.docblock.keptTexts ++ [trim t]) := by
  cases continues : state.continues with
  | nothing => exact absurd continues continuing.1
  | settings => exact absurd continues continuing.2
  | param =>
      obtain ⟨init, last, params⟩ :=
        (List.eq_nil_or_concat' _).resolve_left (grounded.param continues)
      have kept := perm_map_trim_insert
        (state.docblock.summary.filter (fun t => !(trim t).isEmpty) ++
          state.docblock.parameters.flatMap ParamDoc.continuation)
        (state.docblock.returnContinuation ++
          state.docblock.otherTags.flatMap fun tag => tag.text :: tag.continuation) t
      simpa [keptTexts, continued, params, onLast_concat] using kept
  | returns =>
      have kept := perm_map_trim_insert
        (state.docblock.summary.filter (fun t => !(trim t).isEmpty) ++
          state.docblock.parameters.flatMap ParamDoc.continuation ++
          state.docblock.returnContinuation)
        (state.docblock.otherTags.flatMap fun tag => tag.text :: tag.continuation) t
      simpa [keptTexts, continued] using kept
  | other =>
      obtain ⟨init, last, tags⟩ :=
        (List.eq_nil_or_concat' _).resolve_left (grounded.other continues)
      simp [keptTexts, continued, tags, onLast_concat]

theorem onLast_ne_nil {α : Type} {change : α → α} {entries : List α} (some : entries ≠ []) :
    onLast change entries ≠ [] := by
  obtain ⟨init, last, rfl⟩ := (List.eq_nil_or_concat' entries).resolve_left some
  simp [onLast_concat]

theorem accounts_readFree {state : Reading} {line : ContentLine} (grounded : state.IsGrounded)
    (free : IsFree line.text)
    (apart : ¬(state.continues = .settings ∧ ∃ entry, line.text = "- ".toList ++ entry)) :
    Accounts state (state.readFree line.text line.raw) line.text := by
  have some : trim line.text ≠ [] := trim_ne_nil free.trimmed free.solid
  have authored : isAuthored line.text = true := by
    rw [isAuthored_of_solid free.toIsContent free.solid, isRegenerated, free.untagged]
    rfl
  have closed : opensSettings line.text = false := by
    rw [opensSettings, free.untagged]
    rfl
  have apart' : ¬((state.continues == .settings) = true ∧
      ∃ entry, line.text = "- ".toList ++ entry) := by simpa using apart
  have texts : authoredTexts (state.continues == .settings) [line.text] = [trim line.text] := by
    rw [authoredTexts_singleton apart', if_pos authored]
  have still : stillBelow (state.continues == .settings) line.text = false := by
    rw [stillBelow_of_apart apart', closed]
  by_cases inSummary : state.inSummary = true
  · have nothing := grounded.summary inSummary
    rw [readFree, if_pos inSummary]
    refine ⟨?_, ?_, ⟨fun _ => nothing, grounded.param, grounded.other⟩, .inr⟩
    · rw [texts]
      have kept := perm_map_trim_insert (state.docblock.summary.filter fun t => !(trim t).isEmpty)
        (state.docblock.parameters.flatMap ParamDoc.continuation ++
          state.docblock.returnContinuation ++
          state.docblock.otherTags.flatMap fun tag => tag.text :: tag.continuation) line.text
      simpa [keptTexts, some] using kept
    · rw [still, nothing]
      rfl
  have outside : state.inSummary = false := by simpa using inSummary
  by_cases continuing : state.continues ≠ .nothing ∧ state.continues ≠ .settings
  · rw [readFree_continued outside continuing]
    refine ⟨?_, ?_, ⟨fun h => absurd h inSummary, fun param => ?_, fun other => ?_⟩, ?_⟩
    · rw [texts]
      exact keptTexts_continued grounded continuing line.text
    · rw [still]
      simpa using continuing.2
    · have known : state.continues = .param := param
      simpa [known, continued] using onLast_ne_nil (grounded.param known)
    · have known : state.continues = .other := other
      simpa [known, continued] using onLast_ne_nil (grounded.other known)
    · rintro (returns | extended)
      · exact .inr (.inl returns)
      · refine .inr ?_
        cases known : state.continues with
        | returns => exact .inl known
        | nothing | settings | param | other =>
            simp only [known, continued] at extended
            exact .inr extended
  · rw [readFree, if_neg inSummary]
    cases known : state.continues with
    | nothing | settings => exact accounts_keep rfl outside apart authored closed rfl
    | param | returns | other => exact absurd (by simp [known]) continuing

theorem accounts_read {state : Reading} {line : ContentLine} (grounded : state.IsGrounded)
    (content : IsContent line.text) (first : opensReturn line.text = true → ¬state.Returned) :
    Accounts state (state.read line) line.text := by
  by_cases below : state.continues = .settings ∧ ∃ entry, line.text = "- ".toList ++ entry
  · obtain ⟨below, entry, split⟩ := below
    rw [read_entry below split]
    exact accounts_readEntry grounded below split
  by_cases empty : line.text = []
  · rw [read_blank empty, empty]
    exact accounts_readBlank
  cases tagged : tagName? (trimStart line.text) with
  | some name =>
      rw [read_tagged tagged]
      exact accounts_readTag content tagged first
  | none =>
      rw [read_free below empty tagged]
      exact accounts_readFree grounded ⟨content, empty, tagged⟩ below

theorem keptTexts_foldl_read {lines : List ContentLine} {state : Reading}
    (grounded : state.IsGrounded) (content : ∀ line ∈ lines, IsContent line.text)
    (once : lines.countP (fun line => opensReturn line.text) ≤ 1)
    (first : state.Returned → lines.countP (fun line => opensReturn line.text) = 0) :
    (lines.foldl read state).docblock.keptTexts.Perm
      (state.docblock.keptTexts ++
        authoredTexts (state.continues == .settings) (lines.map ContentLine.text)) := by
  -- The one return tag is either still to come or was read, and then no other one comes.
  induction lines generalizing state with
  | nil => simp [authoredTexts]
  | cons line lines ih =>
      rw [List.countP_cons] at once first
      have step := accounts_read grounded (content line (by simp)) fun opens returned => by
        have none := first returned
        rw [opens] at none
        simp at none
      have rest := ih step.grounded (fun line member => content line (List.mem_cons_of_mem _ member))
        (by omega) fun returned => by
          rcases step.returned returned with opens | before
          · simp only [opens, if_true] at once
            omega
          · have none := first before
            omega
      rw [List.foldl_cons, List.map_cons, authoredTexts_cons, ← step.below, ← List.append_assoc]
      exact rest.trans (step.kept.append_right _)

end Reading

theorem filter_squeezeBlank {p : Text → Bool} (drops : p [] = false) (afterBlank : Bool)
    (lines : List Text) : (squeezeBlank afterBlank lines).filter p = lines.filter p := by
  fun_induction squeezeBlank afterBlank lines with
  | case1 => rfl
  | case2 line rest empty ih =>
      rw [ih, List.isEmpty_iff.1 empty, List.filter_cons_of_neg (by simp [drops])]
  | case3 _ line rest empty fresh ih =>
      rw [List.filter_cons, List.filter_cons, ih]
  | case4 _ line rest solid ih =>
      rw [List.filter_cons, List.filter_cons, ih]

theorem filter_dropWhile_isEmpty {p : Text → Bool} (drops : p [] = false) (lines : List Text) :
    (lines.dropWhile List.isEmpty).filter p = lines.filter p := by
  induction lines with
  | nil => rfl
  | cons line rest ih =>
      cases line with
      | nil => rw [List.dropWhile_cons_of_pos rfl, ih, List.filter_cons_of_neg (by simp [drops])]
      | cons c line => rw [List.dropWhile_cons_of_neg (by simp)]

theorem filter_tidySummary {p : Text → Bool} (drops : p [] = false) (lines : List Text) :
    (tidySummary lines).filter p = lines.filter p := by
  rw [tidySummary, List.filter_reverse, filter_dropWhile_isEmpty drops, List.filter_reverse,
    List.reverse_reverse, filter_squeezeBlank drops]

theorem keptTexts_ofLines {lines : List Text} (closes : closesAtMostAtEnd lines = true)
    (single : ∀ line ∈ lines, '\n' ∉ line)
    (once : (contentLines lines).countP (fun line => opensReturn line.text) ≤ 1) :
    (ofLines lines).keptTexts.Perm
      (authoredTexts false ((contentLines lines).map ContentLine.text)) := by
  have grounded : ({} : Reading).IsGrounded := ⟨fun _ => rfl, by simp, by simp⟩
  have fresh : ¬({} : Reading).Returned := by simp [Reading.Returned]
  have kept := Reading.keptTexts_foldl_read grounded (isContent_contentLines closes single) once
    fun returned => absurd returned fresh
  have tidied : (ofLines lines).keptTexts =
      ((contentLines lines).foldl Reading.read {}).docblock.keptTexts := by
    simp only [ofLines, keptTexts]
    rw [filter_tidySummary (by rfl)]
  rw [tidied]
  exact kept

end DocblockSync.Docblock
