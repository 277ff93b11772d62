import DocblockSync.Proofs.ParamTags
import DocblockSync.Proofs.ReturnTags
import DocblockSync.Proofs.SettingsEntries

/-! What every docblock that was read is like: each part of it can be written on a line of its own and
read back. Reading keeps this from line to line. -/

namespace DocblockSync.Docblock

open Text

/-- Free text: content that is not blank and opens no tag. -/
structure IsFree (t : Text) : Prop extends IsContent t where
  solid : t ≠ []
  untagged : tagName? (trimStart t) = none

def isRegenerated (t : Text) : Bool :=
  match tagName? t with
  | some name =>
      name == "@settings".toList || name == "@return".toList ||
        (name == "@param".toList && (readParam? t).isSome)
  | none => false

/-- A tag that was kept, with a source line that says the same where it can be used again. -/
structure IsKept (tag : Tag) : Prop where
  content : IsContent tag.text
  solid : tag.text ≠ []
  authored : isRegenerated (trimStart tag.text) = false
  start : tagName? (trimStart tag.text) ≠ none → trimStart tag.text = tag.text
  faithful : ∀ padding : Text, (∀ c ∈ padding, isBlank c = true) →
    isLaidOut padding tag.raw = true → trimStart (stripLine false tag.raw).1 = trimStart tag.text
  continuation : ∀ t ∈ tag.continuation, IsFree t

/-- A docblock whose parts can be read back. -/
structure IsLegible (docblock : Docblock) : Prop where
  summary : ∀ t ∈ docblock.summary, t = [] ∨ IsFree t
  parameters : ∀ p ∈ docblock.parameters, IsReadableParam p ∧ ∀ t ∈ p.continuation, IsFree t
  returns : IsReadableReturn (docblock.returnType.getD "void".toList) docblock.returnDescription
  returnContinuation : ∀ t ∈ docblock.returnContinuation, IsFree t
  settings : ∀ usage ∈ docblock.settings, IsReadEntry usage
  tags : ∀ tag ∈ docblock.otherTags, IsKept tag

theorem isLegible_empty : IsLegible {} where
  summary := by simp
  parameters := by simp
  returns := isReadableReturn_void (by simp)
  returnContinuation := by simp
  settings := by simp
  tags := by simp

theorem onLast_concat {α : Type} (change : α → α) (init : List α) (last : α) :
    onLast change (init ++ [last]) = init ++ [change last] := by
  induction init with
  | nil => rfl
  | cons first init ih =>
      cases init with
      | nil => rfl
      | cons second init => exact congrArg (first :: ·) ih

theorem forall_mem_onLast {α : Type} {change : α → α} {entries : List α} {P : α → Prop}
    (all : ∀ x ∈ entries, P x) (keeps : ∀ x, P x → P (change x)) :
    ∀ x ∈ onLast change entries, P x := by
  rcases List.eq_nil_or_concat' entries with rfl | ⟨init, last, rfl⟩
  · simp [onLast]
  · rw [onLast_concat]
    simp only [List.mem_append, List.mem_singleton] at all ⊢
    rintro x (member | rfl)
    · exact all x (.inl member)
    · exact keeps last (all last (.inr rfl))

namespace Reading

theorem tagName?_eq_none_of_dash (entry : Text) :
    tagName? (trimStart ("- ".toList ++ entry)) = none := rfl

theorem read_entry {state : Reading} {line : ContentLine} {entry : Text}
    (below : state.continues = .settings) (split : line.text = "- ".toList ++ entry) :
    state.read line = state.readEntry entry := by
  unfold read
  rw [below, split, after?_append]

theorem read_plain {state : Reading} {line : ContentLine}
    (apart : ¬(state.continues = .settings ∧ ∃ entry, line.text = "- ".toList ++ entry)) :
    state.read line = state.readPlain line := by
  unfold read
  split
  · next entry below found => exact absurd ⟨below, entry, after?_eq_some_iff.1 found⟩ apart
  · rfl

theorem read_blank {state : Reading} {line : ContentLine} (empty : line.text = []) :
    state.read line = state.readBlank := by
  rw [read_plain (by simp [empty]), readPlain, empty]
  rfl

theorem read_tagged {state : Reading} {line : ContentLine} {name : Text}
    (tagged : tagName? (trimStart line.text) = some name) :
    state.read line = state.readTag name (trimStart line.text) line.raw := by
  have apart : ¬(state.continues = .settings ∧ ∃ entry, line.text = "- ".toList ++ entry) := by
    rintro ⟨-, entry, split⟩
    rw [split, tagName?_eq_none_of_dash] at tagged
    cases tagged
  have solid : ¬line.text.isEmpty = true := fun empty => by
    rw [List.isEmpty_iff.1 empty] at tagged
    cases tagged
  rw [read_plain apart, readPlain, if_neg solid, tagged]

theorem read_free {state : Reading} {line : ContentLine}
    (apart : ¬(state.continues = .settings ∧ ∃ entry, line.text = "- ".toList ++ entry))
    (solid : line.text ≠ []) (untagged : tagName? (trimStart line.text) = none) :
    state.read line = state.readFree line.text line.raw := by
  rw [read_plain apart, readPlain, if_neg (by simpa using solid), untagged]

theorem readTag_settings (state : Reading) (text raw : Text) :
    state.readTag "@settings".toList text raw = { state.generated with continues := .settings } := by
  unfold readTag
  rw [if_pos (by decide)]

theorem readTag_param (state : Reading) (text raw : Text) :
    state.readTag "@param".toList text raw = state.generated.readParamTag text raw := by
  unfold readTag
  rw [if_neg (by decide), if_pos (by decide)]

theorem readTag_return (state : Reading) (text raw : Text) :
    state.readTag "@return".toList text raw = state.generated.readReturnTag text := by
  unfold readTag
  rw [if_neg (by decide), if_neg (by decide), if_pos (by decide)]

theorem readTag_other {state : Reading} {name text raw : Text} (settings : name ≠ "@settings".toList)
    (param : name ≠ "@param".toList) (returns : name ≠ "@return".toList) :
    state.readTag name text raw =
      ({ state with
        inSummary := false
        inGenerated := state.inGenerated || name == "@throws".toList }).keep text raw
        !(state.inGenerated || name == "@throws".toList) := by
  unfold readTag
  rw [if_neg (by simpa using settings), if_neg (by simpa using param),
    if_neg (by simpa using returns)]

theorem isLegible_keep {state : Reading} {text raw : Text} {leading : Bool}
    (legible : IsLegible state.docblock) (kept : IsKept { text, raw, leading }) :
    IsLegible (state.keep text raw leading).docblock where
  summary := legible.summary
  parameters := legible.parameters
  returns := legible.returns
  returnContinuation := legible.returnContinuation
  settings := legible.settings
  tags := by
    intro tag member
    rcases List.mem_append.1 member with member | member
    · exact legible.tags tag member
    · rw [List.mem_singleton.1 member]
      exact kept

theorem isContent_trimStart {t : Text} (content : IsContent t) : IsContent (trimStart t) :=
  isContent_of_isInfix (trimStart_suffix t).isInfix content
    (trimEnd_eq_of_suffix (trimStart_suffix t) content.trimmed)

theorem isKept_tag {line : ContentLine} {name : Text} {leading : Bool}
    (content : IsContent line.text) (faithful : line.IsFaithful)
    (tagged : tagName? (trimStart line.text) = some name)
    (authored : isRegenerated (trimStart line.text) = false) :
    IsKept { text := trimStart line.text, raw := line.raw, leading } where
  content := isContent_trimStart content
  solid := fun empty => by
    rw [show trimStart line.text = [] from empty] at tagged
    cases tagged
  authored := by rwa [trimStart_trimStart]
  start := fun _ => trimStart_trimStart _
  faithful := fun padding blank laid => by rw [faithful padding blank laid, trimStart_trimStart]
  continuation := by simp

theorem isKept_free {line : ContentLine} {leading : Bool} (faithful : line.IsFaithful)
    (free : IsFree line.text) : IsKept { text := line.text, raw := line.raw, leading } where
  content := free.toIsContent
  solid := free.solid
  authored := by rw [isRegenerated, free.untagged]
  start := fun tagged => absurd free.untagged tagged
  faithful := fun padding blank laid => by rw [faithful padding blank laid]
  continuation := by simp

theorem isLegible_readParamTag {state : Reading} {line : ContentLine}
    (legible : IsLegible state.docblock) (content : IsContent line.text)
    (faithful : line.IsFaithful) (tagged : tagName? (trimStart line.text) = some "@param".toList) :
    IsLegible (state.readParamTag (trimStart line.text) line.raw).docblock := by
  unfold readParamTag
  cases read : readParam? (trimStart line.text) with
  | none =>
      refine isLegible_keep legible (isKept_tag content faithful tagged ?_)
      rw [isRegenerated, tagged, read]
      decide
  | some param =>
      refine { legible with parameters := fun p member => ?_ }
      rcases List.mem_append.1 member with member | member
      · exact legible.parameters p member
      · obtain ⟨readable, continuation⟩ :=
          isReadableParam_of_readParam? (isContent_trimStart content) read
        rw [List.mem_singleton.1 member]
        exact ⟨readable, by simp [continuation]⟩

theorem readReturnTag_eq (state : Reading) (text : Text) :
    state.readReturnTag text =
      { state with
        docblock :=
          { state.docblock with
            returnType := (readReturn? text).map Prod.fst
            returnDescription := ((readReturn? text).map Prod.snd).getD
              (nonempty? (trim (dropHead "@return".toList text)))
            returnContinuation := [] }
        continues := .returns } := by
  unfold readReturnTag
  cases readReturn? text <;> rfl

theorem isLegible_readReturnTag {state : Reading} {text : Text}
    (legible : IsLegible state.docblock) (content : IsContent text) :
    IsLegible (state.readReturnTag text).docblock := by
  rw [readReturnTag_eq]
  exact { legible with returns := isReadableReturn_of_text content, returnContinuation := by simp }

theorem isLegible_readTag {state : Reading} {line : ContentLine} {name : Text}
    (legible : IsLegible state.docblock) (content : IsContent line.text)
    (faithful : line.IsFaithful) (tagged : tagName? (trimStart line.text) = some name) :
    IsLegible (state.readTag name (trimStart line.text) line.raw).docblock := by
  have generated : IsLegible state.generated.docblock := legible
  by_cases settings : name = "@settings".toList
  · rw [settings, readTag_settings]
    exact generated
  by_cases param : name = "@param".toList
  · rw [param, readTag_param]
    rw [param] at tagged
    exact isLegible_readParamTag generated content faithful tagged
  by_cases returns : name = "@return".toList
  · rw [returns, readTag_return]
    exact isLegible_readReturnTag generated (isContent_trimStart content)
  · rw [readTag_other settings param returns]
    refine isLegible_keep legible (isKept_tag content faithful tagged ?_)
    simp only [isRegenerated, tagged, Bool.or_eq_false_iff, Bool.and_eq_false_iff, beq_eq_false_iff_ne]
    exact ⟨⟨settings, returns⟩, .inl param⟩

theorem isLegible_readFree {state : Reading} {line : ContentLine}
    (legible : IsLegible state.docblock) (free : IsFree line.text)
    (faithful : line.IsFaithful ∨ state.inSummary = true) :
    IsLegible (state.readFree line.text line.raw).docblock := by
  have extend : ∀ {texts : List Text}, (∀ t ∈ texts, IsFree t) →
      ∀ t ∈ texts ++ [line.text], IsFree t := by
    intro texts all t member
    rcases List.mem_append.1 member with member | member
    · exact all t member
    · rw [List.mem_singleton.1 member]
      exact free
  unfold readFree
  by_cases inSummary : state.inSummary = true
  · rw [if_pos inSummary]
    refine { legible with summary := fun t member => ?_ }
    rcases List.mem_append.1 member with member | member
    · exact legible.summary t member
    · rw [List.mem_singleton.1 member]
      exact .inr free
  · rw [if_neg inSummary]
    have kept : ∀ leading, IsKept { text := line.text, raw := line.raw, leading } := fun leading =>
      isKept_free (faithful.resolve_right inSummary) free
    cases state.continues with
    | nothing => exact isLegible_keep legible (kept _)
    | settings => exact isLegible_keep legible (kept _)
    | param =>
        refine { legible with
          parameters := forall_mem_onLast legible.parameters fun p ⟨readable, all⟩ => ?_ }
        exact ⟨⟨readable.named, readable.word, readable.type, readable.description⟩, extend all⟩
    | returns =>
        exact { legible with returnContinuation := extend legible.returnContinuation }
    | other =>
        exact { legible with
          tags := forall_mem_onLast legible.tags fun tag kept =>
            { kept with continuation := extend kept.continuation } }

theorem isLegible_readBlank {state : Reading} (legible : IsLegible state.docblock) :
    IsLegible state.readBlank.docblock := by
  unfold readBlank
  by_cases inSummary : state.inSummary = true
  · simp only [if_pos inSummary]
    refine { legible with summary := fun t member => ?_ }
    rcases List.mem_append.1 member with member | member
    · exact legible.summary t member
    · exact .inl (List.mem_singleton.1 member)
  · simp only [if_neg inSummary]
    exact legible

theorem isLegible_readEntry {state : Reading} {line : ContentLine} {entry : Text}
    (legible : IsLegible state.docblock) (content : IsContent line.text)
    (split : line.text = "- ".toList ++ entry) : IsLegible (state.readEntry entry).docblock := by
  refine { legible with settings := fun usage member => ?_ }
  rcases List.mem_append.1 member with member | member
  · exact legible.settings usage member
  · rw [List.mem_singleton.1 member]
    exact isReadEntry_of_text content split

/-- Reading a line keeps a docblock legible. A line without a tag may be unfaithful in the summary,
which has no source lines. -/
theorem isLegible_read {state : Reading} {line : ContentLine} (legible : IsLegible state.docblock)
    (content : IsContent line.text)
    (faithful : line.IsFaithful ∨
      state.inSummary = true ∧ tagName? (trimStart line.text) = none) :
    IsLegible (state.read line).docblock := by
  by_cases below : state.continues = .settings ∧ ∃ entry, line.text = "- ".toList ++ entry
  · obtain ⟨below, entry, split⟩ := below
    rw [read_entry below split]
    exact isLegible_readEntry legible content split
  by_cases empty : line.text = []
  · rw [read_blank empty]
    exact isLegible_readBlank legible
  cases tagged : tagName? (trimStart line.text) with
  | some name =>
      rw [read_tagged tagged]
      rcases faithful with faithful | ⟨-, untagged⟩
      · exact isLegible_readTag legible content faithful tagged
      · rw [tagged] at untagged
        cases untagged
  | none =>
      rw [read_free below empty tagged]
      exact isLegible_readFree legible ⟨content, empty, tagged⟩ (faithful.imp_right And.left)

theorem isLegible_foldl_read {lines : List ContentLine}
    (faithful : ∀ line ∈ lines, IsContent line.text ∧ line.IsFaithful) {state : Reading}
    (legible : IsLegible state.docblock) : IsLegible (lines.foldl read state).docblock := by
  induction lines generalizing state with
  | nil => exact legible
  | cons line lines ih =>
      obtain ⟨content, here⟩ := faithful line (by simp)
      exact ih (fun line member => faithful line (List.mem_cons_of_mem _ member))
        (isLegible_read legible content (.inl here))

end Reading

theorem squeezeBlank_sublist (afterBlank : Bool) (lines : List Text) :
    (squeezeBlank afterBlank lines).Sublist lines := by
  fun_induction squeezeBlank afterBlank lines with
  | case1 => exact List.Sublist.refl []
  | case2 line rest empty ih => exact ih.cons line
  | case3 _ line rest empty fresh ih => exact ih.cons_cons line
  | case4 _ line rest solid ih => exact ih.cons_cons line

theorem tidySummary_sublist (lines : List Text) : (tidySummary lines).Sublist lines := by
  have front : tidySummary lines <+: squeezeBlank true lines := by
    have ends := List.reverse_prefix.2
      (List.dropWhile_suffix List.isEmpty (l := (squeezeBlank true lines).reverse))
    rwa [List.reverse_reverse] at ends
  exact front.sublist.trans (squeezeBlank_sublist true lines)

theorem isLegible_ofLines {lines : List Text} (closes : closesAtMostAtEnd lines = true)
    (single : ∀ line ∈ lines, '\n' ∉ line) : IsLegible (ofLines lines) := by
  obtain ⟨first, rest, split, start, faithful⟩ := contentLines_spec closes single
  have begun : IsLegible (first.foldl Reading.read {}).docblock := by
    cases first with
    | nil => exact isLegible_empty
    | cons line others =>
        obtain ⟨only, content, faithful⟩ := start line (by simp)
        have inSummary : ({} : Reading).inSummary = true := rfl
        rw [only]
        exact Reading.isLegible_read isLegible_empty content
          (faithful.imp_right fun untagged => ⟨inSummary, untagged⟩)
  have legible := Reading.isLegible_foldl_read faithful begun
  rw [← List.foldl_append, ← split] at legible
  exact { legible with
    summary := fun t member => legible.summary t ((tidySummary_sublist _).subset member) }

end DocblockSync.Docblock
