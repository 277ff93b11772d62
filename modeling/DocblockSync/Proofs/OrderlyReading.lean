import DocblockSync.Proofs.Rereading
import Mathlib.Data.List.Chain
import Mathlib.Data.List.DropRight

/-! How reading sorts the lines of a docblock. The summary comes out tidy, without blank lines at its
ends and with single ones inside. The tags kept above all tags that are written anew start with a
line that has a tag, and none of them is a parameter tag. -/

namespace DocblockSync.Docblock

open Text

/-- Lines without blank ones at their ends and with single ones inside. -/
structure IsTidy (lines : List Text) : Prop where
  squeezed : squeezeBlank true lines = lines
  trimmed : lines.rdropWhile List.isEmpty = lines

theorem isTidy_nil : IsTidy [] := ⟨rfl, rfl⟩

theorem squeezeBlank_append (afterBlank : Bool) (front rest : List Text) :
    squeezeBlank afterBlank (front ++ rest) = squeezeBlank afterBlank front ++
      squeezeBlank ((front.getLast?.map List.isEmpty).getD afterBlank) rest := by
  induction front generalizing afterBlank with
  | nil => rfl
  | cons line front ih =>
      have last : ((line :: front).getLast?.map List.isEmpty).getD afterBlank =
          (front.getLast?.map List.isEmpty).getD line.isEmpty := by
        rw [List.getLast?_cons]
        cases front.getLast? <;> rfl
      rw [last, List.cons_append, squeezeBlank, squeezeBlank]
      by_cases empty : line.isEmpty = true
      · rw [if_pos empty, if_pos empty, ih, empty]
        split <;> rfl
      · rw [if_neg empty, if_neg empty, ih, Bool.eq_false_iff.2 empty]
        rfl

theorem squeezeBlank_idem (afterBlank : Bool) (lines : List Text) :
    squeezeBlank afterBlank (squeezeBlank afterBlank lines) = squeezeBlank afterBlank lines := by
  fun_induction squeezeBlank afterBlank lines with
  | case1 => rfl
  | case2 line rest empty ih => exact ih
  | case3 afterBlank line rest empty fresh ih =>
      rw [squeezeBlank, if_pos empty, if_neg fresh, ih]
  | case4 _ line rest solid ih => rw [squeezeBlank, if_neg solid, ih]

theorem squeezeBlank_of_append {front rest : List Text}
    (squeezed : squeezeBlank true (front ++ rest) = front ++ rest) :
    squeezeBlank true front = front := by
  have size := congrArg List.length squeezed
  rw [squeezeBlank_append, List.length_append, List.length_append] at size
  have upper := (squeezeBlank_sublist true front).length_le
  have lower := (squeezeBlank_sublist ((front.getLast?.map List.isEmpty).getD true) rest).length_le
  exact (squeezeBlank_sublist true front).eq_of_length (by omega)

theorem tidySummary_eq (lines : List Text) :
    tidySummary lines = (squeezeBlank true lines).rdropWhile List.isEmpty := rfl

theorem isTidy_tidySummary (lines : List Text) : IsTidy (tidySummary lines) := by
  rw [tidySummary_eq]
  refine ⟨?_, List.rdropWhile_idempotent List.isEmpty _⟩
  obtain ⟨blanks, split⟩ := List.rdropWhile_prefix List.isEmpty (l := squeezeBlank true lines)
  have squeezed := squeezeBlank_idem true lines
  rw [← split] at squeezed
  exact squeezeBlank_of_append squeezed

theorem squeezeBlank_ne_cons (afterBlank : Bool) (line : Text) (rest : List Text) :
    squeezeBlank afterBlank rest ≠ line :: rest := fun same => by
  have size := (squeezeBlank_sublist afterBlank rest).length_le
  rw [same, List.length_cons] at size
  omega

theorem squeezeBlank_of_cons {afterBlank : Bool} {line : Text} {rest : List Text}
    (squeezed : squeezeBlank afterBlank (line :: rest) = line :: rest) :
    (afterBlank = true → line ≠ []) ∧ squeezeBlank line.isEmpty rest = rest := by
  rw [squeezeBlank] at squeezed
  by_cases empty : line.isEmpty = true
  · rw [if_pos empty] at squeezed
    split at squeezed
    · exact absurd squeezed (squeezeBlank_ne_cons true line rest)
    · next fresh => exact ⟨fun after => absurd after fresh, empty ▸ (List.cons.inj squeezed).2⟩
  · rw [if_neg empty] at squeezed
    rw [Bool.eq_false_iff.2 empty]
    exact ⟨fun _ => by simpa using empty, (List.cons.inj squeezed).2⟩

theorem isChain_of_squeezed {afterBlank : Bool} {lines : List Text}
    (squeezed : squeezeBlank afterBlank lines = lines) :
    lines.IsChain fun upper lower => upper ≠ [] ∨ lower ≠ [] := by
  induction lines generalizing afterBlank with
  | nil => exact List.isChain_nil
  | cons line rest ih =>
      obtain ⟨-, below⟩ := squeezeBlank_of_cons squeezed
      rw [List.isChain_cons]
      refine ⟨fun next first => ?_, ih below⟩
      obtain ⟨rest, rfl⟩ := List.head?_eq_some_iff.1 first
      by_cases empty : line = []
      · exact .inr ((squeezeBlank_of_cons below).1 (List.isEmpty_iff.2 empty))
      · exact .inl empty

namespace IsTidy

theorem head_ne_nil {line : Text} {rest : List Text} (tidy : IsTidy (line :: rest)) : line ≠ [] :=
  (squeezeBlank_of_cons tidy.squeezed).1 rfl

theorem squeezeBlank_eq {lines : List Text} (tidy : IsTidy lines) (afterBlank : Bool) :
    squeezeBlank afterBlank lines = lines := by
  cases lines with
  | nil => rfl
  | cons line rest =>
      have solid : ¬line.isEmpty = true := by simpa using tidy.head_ne_nil
      have below := (squeezeBlank_of_cons tidy.squeezed).2
      rw [Bool.eq_false_iff.2 solid] at below
      rw [squeezeBlank, if_neg solid, below]

theorem last_ne_nil {lines : List Text} (tidy : IsTidy lines) (some : lines ≠ []) :
    lines.getLast some ≠ [] := fun empty =>
  List.rdropWhile_eq_self_iff.1 tidy.trimmed some (List.isEmpty_iff.2 empty)

theorem append {lines rest : List Text} (tidy : IsTidy lines) (some : lines ≠ [])
    (below : IsTidy rest) (some' : rest ≠ []) : IsTidy (lines ++ [] :: rest) where
  squeezed := by
    have last : (lines.getLast?.map List.isEmpty).getD true = false := by
      rw [List.getLast?_eq_getLast_of_ne_nil some]
      simpa using tidy.last_ne_nil some
    rw [squeezeBlank_append, last, tidy.squeezed, squeezeBlank,
      if_pos List.isEmpty_nil, if_neg (by simp), below.squeezed]
  trimmed := by
    rw [List.rdropWhile_eq_self_iff]
    intro _ empty
    rw [List.getLast_append_of_ne_nil _ (by simp), List.getLast_cons some'] at empty
    exact below.last_ne_nil some' (List.isEmpty_iff.1 empty)

theorem cons {t : Text} (solid : t ≠ []) {lines : List Text} (tidy : IsTidy lines) :
    IsTidy (t :: lines) where
  squeezed := by
    rw [squeezeBlank, if_neg (by simpa using solid), tidy.squeezeBlank_eq]
  trimmed := by
    rw [List.rdropWhile_eq_self_iff]
    intro _ empty
    cases lines with
    | nil => exact solid (List.isEmpty_iff.1 empty)
    | cons next rest => exact tidy.last_ne_nil (by simp) (List.isEmpty_iff.1 empty)

theorem of_solid {lines : List Text} (solid : ∀ t ∈ lines, t ≠ []) : IsTidy lines := by
  induction lines with
  | nil => exact isTidy_nil
  | cons t lines ih =>
      rw [List.forall_mem_cons] at solid
      exact cons solid.1 (ih solid.2)

theorem tidySummary_append_gap {lines : List Text} (tidy : IsTidy lines) (condition : Bool) :
    tidySummary (lines ++ gapTexts condition) = lines := by
  rw [tidySummary_eq, squeezeBlank_append, tidy.squeezed]
  cases condition with
  | false => rw [gapTexts, if_neg (by simp), squeezeBlank, List.append_nil, tidy.trimmed]
  | true =>
      rw [gapTexts, if_pos rfl, squeezeBlank, if_pos List.isEmpty_nil]
      split
      · rw [squeezeBlank, List.append_nil, tidy.trimmed]
      · rw [squeezeBlank, List.rdropWhile_concat_pos _ _ _ rfl, tidy.trimmed]

end IsTidy

theorem isTidy_title_append_summary {docblock : Docblock} (tidy : IsTidy docblock.summary)
    (site : Site) : IsTidy (titleTexts docblock site ++ docblock.summary) := by
  unfold titleTexts
  simp only
  split
  · exact tidy
  · exact tidy.cons (by simp)

/-- Kept tags as reading leaves them: no leading one is a parameter tag or names a thrown type, and
the first of them has a tag. -/
structure IsSorted (tags : List Tag) : Prop where
  unprompted : ∀ tag ∈ tags, tag.leading = true →
    tag.isThrows = false ∧ tagName? (trimStart tag.text) ≠ some "@param".toList
  opened : ∀ tag ∈ tags.find? Tag.leading, tagName? (trimStart tag.text) ≠ none
  single : ∀ tag ∈ tags, '\n' ∉ (stripLine false tag.raw).1

namespace IsSorted

theorem concat {tags : List Tag} (sorted : IsSorted tags) {tag : Tag}
    (unprompted : tag.leading = true →
      tag.isThrows = false ∧ tagName? (trimStart tag.text) ≠ some "@param".toList)
    (opened : tag.leading = true →
      tags.any Tag.leading = true ∨ tagName? (trimStart tag.text) ≠ none)
    (single : '\n' ∉ (stripLine false tag.raw).1) : IsSorted (tags ++ [tag]) where
  unprompted := by
    intro other member
    rcases List.mem_append.1 member with member | member
    · exact sorted.unprompted other member
    · rw [List.mem_singleton.1 member]
      exact unprompted
  opened := by
    intro first found
    rw [List.find?_append] at found
    cases before : tags.find? Tag.leading with
    | some other =>
        rw [before, Option.some_or] at found
        exact sorted.opened first (before.trans found)
    | none =>
        rw [before, Option.none_or] at found
        obtain rfl := List.mem_singleton.1 (List.mem_of_find?_eq_some found)
        rcases opened (List.find?_some found) with some | tagged
        · obtain ⟨other, member, leading⟩ := List.any_eq_true.1 some
          exact absurd leading (List.find?_eq_none.1 before other member)
        · exact tagged
  single := by
    intro other member
    rcases List.mem_append.1 member with member | member
    · exact sorted.single other member
    · rw [List.mem_singleton.1 member]
      exact single

theorem onLast {tags : List Tag} (sorted : IsSorted tags) (text : Text) :
    IsSorted (onLast (fun tag => { tag with continuation := tag.continuation ++ [text] }) tags) := by
  rcases List.eq_nil_or_concat' tags with rfl | ⟨init, last, rfl⟩
  · exact sorted
  · rw [onLast_concat]
    have front : IsSorted init := by
      refine ⟨fun tag member => sorted.unprompted tag (by simp [member]), fun tag found => ?_,
        fun tag member => sorted.single tag (by simp [member])⟩
      refine sorted.opened tag ?_
      rw [List.find?_append, show init.find? Tag.leading = some tag from found]
      rfl
    refine front.concat (sorted.unprompted last (by simp)) (fun leading => ?_)
      (sorted.single last (by simp))
    by_cases some : init.any Tag.leading = true
    · exact .inl some
    · refine .inr (sorted.opened last ?_)
      have none : init.find? Tag.leading = none := by
        rw [List.find?_eq_none]
        exact fun tag member leading => some (List.any_eq_true.2 ⟨tag, member, leading⟩)
      rw [List.find?_append, none, Option.none_or]
      exact List.find?_cons_of_pos leading

end IsSorted

namespace Reading

/-- What holds of the kept tags between two lines: outside of the summary, a tag that is written anew
or a leading one has been read. -/
structure IsOrdered (state : Reading) : Prop where
  sorted : IsSorted state.docblock.otherTags
  begun : state.inSummary = false →
    state.inGenerated = true ∨ state.docblock.otherTags.any Tag.leading = true

theorem any_leading_onLast (text : Text) (tags : List Tag) :
    (onLast (fun tag => { tag with continuation := tag.continuation ++ [text] }) tags).any
      Tag.leading = tags.any Tag.leading := by
  rcases List.eq_nil_or_concat' tags with rfl | ⟨init, last, rfl⟩
  · rfl
  · simp only [onLast_concat, List.any_append, List.any_cons]

theorem isOrdered_keep {state : Reading} {text raw : Text} {leading : Bool}
    (sorted : IsSorted state.docblock.otherTags)
    (unprompted : leading = true →
      tagName? text ≠ some "@throws".toList ∧ tagName? (trimStart text) ≠ some "@param".toList)
    (opened : leading = true → state.docblock.otherTags.any Tag.leading = true ∨
      tagName? (trimStart text) ≠ none)
    (single : '\n' ∉ (stripLine false raw).1)
    (begun : state.inGenerated = true ∨ leading = true) :
    (state.keep text raw leading).IsOrdered where
  sorted := by
    refine sorted.concat (fun first => ?_) opened single
    obtain ⟨quiet, unprompted⟩ := unprompted first
    exact ⟨by simpa [Tag.isThrows] using quiet, unprompted⟩
  begun := fun _ => begun.imp_right fun first => by simp [keep, first]

theorem isOrdered_readTag {state : Reading} {name text raw : Text} (ordered : state.IsOrdered)
    (tagged : tagName? text = some name) (single : '\n' ∉ (stripLine false raw).1) :
    (state.readTag name text raw).IsOrdered := by
  have start := trimStart_of_tagName? tagged
  by_cases settings : name = "@settings".toList
  · rw [settings, readTag_settings]
    exact ⟨ordered.sorted, fun _ => .inl rfl⟩
  by_cases param : name = "@param".toList
  · rw [param, readTag_param, readParamTag]
    cases readParam? text with
    | some param => exact ⟨ordered.sorted, fun _ => .inl rfl⟩
    | none => exact isOrdered_keep ordered.sorted (by simp) (by simp) single (.inl rfl)
  by_cases returns : name = "@return".toList
  · rw [returns, readTag_return, readReturnTag_eq]
    exact ⟨ordered.sorted, fun _ => .inl rfl⟩
  · rw [readTag_other settings param returns]
    refine isOrdered_keep ordered.sorted (fun leading => ?_) (fun _ => .inr ?_) single ?_
    · rw [Bool.not_eq_true', Bool.or_eq_false_iff, beq_eq_false_iff_ne] at leading
      rw [start, tagged]
      exact ⟨fun same => leading.2 (Option.some.inj same), fun same => param (Option.some.inj same)⟩
    · simp [start, tagged]
    · cases state.inGenerated || name == "@throws".toList <;> simp

theorem isOrdered_readFree {state : Reading} {text raw : Text} (ordered : state.IsOrdered)
    (untagged : tagName? (trimStart text) = none) (single : '\n' ∉ (stripLine false raw).1) :
    (state.readFree text raw).IsOrdered := by
  have plain : tagName? text ≠ some "@throws".toList := fun tagged => by
    rw [trimStart_of_tagName? tagged, tagged] at untagged
    cases untagged
  unfold readFree
  by_cases inSummary : state.inSummary = true
  · rw [if_pos inSummary]
    exact ⟨ordered.sorted, ordered.begun⟩
  · rw [if_neg inSummary]
    have begun := ordered.begun (Bool.eq_false_iff.2 inSummary)
    -- A leading line without a tag is not the first leading one: `begun` has another above it.
    have kept : (state.keep text raw !state.inGenerated).IsOrdered := by
      refine isOrdered_keep ordered.sorted (fun _ => ⟨plain, by simp [untagged]⟩)
        (fun leading => .inl (begun.resolve_left ?_)) single ?_
      · rw [Bool.not_eq_true'] at leading
        simp [leading]
      · cases state.inGenerated <;> simp
    cases state.continues with
    | nothing | settings => exact kept
    | param | returns => exact ⟨ordered.sorted, ordered.begun⟩
    | other =>
        refine ⟨ordered.sorted.onLast text, fun _ => begun.imp_right fun some => ?_⟩
        exact (any_leading_onLast text state.docblock.otherTags).trans some

theorem isOrdered_read {state : Reading} {line : ContentLine} (ordered : state.IsOrdered)
    (single : '\n' ∉ (stripLine false line.raw).1) : (state.read line).IsOrdered := by
  by_cases below : state.continues = .settings ∧ ∃ entry, line.text = "- ".toList ++ entry
  · obtain ⟨below, entry, split⟩ := below
    rw [read_entry below split]
    exact ⟨ordered.sorted, ordered.begun⟩
  by_cases empty : line.text = []
  · have same : state.readBlank.docblock.otherTags = state.docblock.otherTags := by
      unfold readBlank
      cases state.inSummary <;> rfl
    rw [read_blank empty]
    exact ⟨same ▸ ordered.sorted, fun after => same ▸ ordered.begun after⟩
  cases tagged : tagName? (trimStart line.text) with
  | some name =>
      rw [read_tagged tagged]
      exact isOrdered_readTag ordered tagged single
  | none =>
      rw [read_free below empty tagged]
      exact isOrdered_readFree ordered tagged single

theorem isOrdered_foldl_read {lines : List ContentLine}
    (single : ∀ line ∈ lines, '\n' ∉ (stripLine false line.raw).1) {state : Reading}
    (ordered : state.IsOrdered) : (lines.foldl read state).IsOrdered := by
  induction lines generalizing state with
  | nil => exact ordered
  | cons line lines ih =>
      rw [List.forall_mem_cons] at single
      exact ih single.2 (isOrdered_read ordered single.1)

theorem isOrdered_empty : IsOrdered {} where
  sorted := ⟨by simp, by simp, by simp⟩
  begun := fun after => by cases after

end Reading

/-- A docblock as reading leaves it. -/
structure IsOrderly (docblock : Docblock) : Prop extends IsLegible docblock where
  tidy : IsTidy docblock.summary
  sorted : IsSorted docblock.otherTags

theorem isSorted_otherTags_ofLines {lines : List Text}
    (single : ∀ line ∈ contentLines lines, '\n' ∉ (stripLine false line.raw).1) :
    IsSorted (ofLines lines).otherTags :=
  (Reading.isOrdered_foldl_read single Reading.isOrdered_empty).sorted

theorem raw_mem_of_mem_contentFrom {first : Bool} {lines : List Text} {line : ContentLine}
    (member : line ∈ contentFrom first lines) : line.raw ∈ lines := by
  induction lines generalizing first with
  | nil => cases member
  | cons raw rest ih =>
      rw [contentFrom_cons, List.mem_append] at member
      rcases member with member | member
      · split at member
        · cases member
        · simp [List.mem_singleton.1 member]
      · split at member
        · cases member
        · exact List.mem_cons_of_mem raw (ih member)

theorem isOrderly_ofLines {lines : List Text} (closes : closesAtMostAtEnd lines = true)
    (single : ∀ line ∈ lines, '\n' ∉ line) : IsOrderly (ofLines lines) where
  toIsLegible := isLegible_ofLines closes single
  tidy := isTidy_tidySummary _
  sorted := isSorted_otherTags_ofLines fun line member feed =>
    single line.raw (raw_mem_of_mem_contentFrom member)
      ((stripLine_isInfix false line.raw).subset feed)

theorem isOrderly_of_contentLines {lines body : List Text}
    (written : contentLines lines = body.map contentLine)
    (content : ∀ line ∈ body, IsContent (contentLine line).text) : IsOrderly (ofLines lines) where
  toIsLegible := by
    have legible : IsLegible ((contentLines lines).foldl Reading.read {}).docblock := by
      refine Reading.isLegible_foldl_read (fun line member => ?_) isLegible_empty
      rw [written] at member
      obtain ⟨raw, inside, rfl⟩ := List.mem_map.1 member
      exact ⟨content raw inside, fun _ _ _ => rfl⟩
    exact { legible with
      summary := fun t member => legible.summary t ((tidySummary_sublist _).subset member) }
  tidy := isTidy_tidySummary _
  sorted := by
    refine isSorted_otherTags_ofLines fun line member => ?_
    rw [written] at member
    obtain ⟨raw, inside, rfl⟩ := List.mem_map.1 member
    exact (content raw inside).single

end DocblockSync.Docblock
