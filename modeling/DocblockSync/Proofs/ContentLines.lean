import DocblockSync.Docblock.Reader
import DocblockSync.Docblock.Layout
import DocblockSync.Proofs.ClosingDelimiter
import DocblockSync.Proofs.CommentExtent
import DocblockSync.Proofs.Trimming

/-! The content lines of a comment that closes at its end or not at all. Their texts have no blanks at
the end and no closing delimiter, and a source line that already has the layout of a body line says
the same when it is read once more. -/

namespace DocblockSync.Docblock

open Text

/-- What the text of a content line is like. -/
structure IsContent (t : Text) : Prop where
  trimmed : trimEnd t = t
  unclosed : contains closer t = false
  single : '\n' ∉ t

/-- Whether a closing delimiter occurs in some lines only at the end of the last, blanks aside. -/
def closesAtMostAtEnd : List Text → Bool
  | [] => true
  | [last] => !contains closer (trim last) || closesFirstAtEnd (trim last)
  | line :: rest => !contains closer line && closesAtMostAtEnd rest

theorem contains_closer_of_isInfix {s t : Text} (part : s <:+: t)
    (unclosed : contains closer t = false) : contains closer s = false := by
  obtain ⟨before, after, rfl⟩ := part
  rw [not_contains_closer_iff] at unclosed ⊢
  rintro front rest rfl
  exact unclosed (before ++ front) (rest ++ after) (by simp)

theorem after_eq_nil_of_closesFirstAtEnd {t before after : Text}
    (closes : closesFirstAtEnd t = true) (split : t = before ++ (closer ++ after)) :
    after = [] := by
  induction before generalizing t with
  | nil =>
      subst split
      rw [List.nil_append, closer, List.cons_append, closesFirstAtEnd_cons, ← List.cons_append,
        ← closer, after?_append] at closes
      simpa using closes
  | cons c before ih =>
      subst split
      rw [List.cons_append, closesFirstAtEnd_cons] at closes
      split at closes
      · next rest here =>
          -- A delimiter that starts here would have to end the text, which goes on.
          rw [after?_eq_some_iff, List.isEmpty_iff.1 closes] at here
          have size := congrArg List.length here
          simp only [closer, List.length_append, List.length_cons, List.length_nil] at size
          omega
      · exact ih closes rfl

/-- The condition on a line that its closing delimiters stand at its end. -/
def ClosesAtEnd (raw : Text) : Prop :=
  ∀ before after, trim raw = before ++ (closer ++ after) → after = []

theorem closesAtEnd_of_unclosed {raw : Text} (unclosed : contains closer raw = false) :
    ClosesAtEnd raw := by
  intro before after split
  have part := contains_closer_of_isInfix (trim_isInfix raw) unclosed
  exact absurd split (not_contains_closer_iff.1 part before after)

theorem closesAtMostAtEnd_cons {line : Text} {rest : List Text}
    (closes : closesAtMostAtEnd (line :: rest) = true) :
    ClosesAtEnd line ∧ closesAtMostAtEnd rest = true ∧
      (rest ≠ [] → contains closer line = false) := by
  cases rest with
  | nil =>
      rw [closesAtMostAtEnd, Bool.or_eq_true, Bool.not_eq_true'] at closes
      refine ⟨fun before after split => ?_, rfl, fun some => absurd rfl some⟩
      rcases closes with unclosed | first
      · exact absurd split (not_contains_closer_iff.1 unclosed before after)
      · exact after_eq_nil_of_closesFirstAtEnd first split
  | cons next rest =>
      have both : (!contains closer line && closesAtMostAtEnd (next :: rest)) = true := closes
      rw [Bool.and_eq_true, Bool.not_eq_true'] at both
      exact ⟨closesAtEnd_of_unclosed both.1, both.2, fun _ => both.1⟩

theorem withoutOpener_suffix (first : Bool) (raw : Text) : withoutOpener first raw <:+ trim raw := by
  unfold withoutOpener
  split
  · exact (trimStart_suffix _).trans (dropHead_suffix opener _)
  · exact List.suffix_refl _

theorem withoutMarker_suffix (first : Bool) (t : Text) : withoutMarker first t <:+ t := by
  unfold withoutMarker
  split
  · exact List.suffix_refl t
  · exact (dropHead_suffix [' '] _).trans (dropHead_suffix ['*'] t)

theorem stripLine_cases (first : Bool) (raw : Text) :
    (∃ inner, inner <:+ trim raw ∧ before? closer inner = none ∧ (stripLine first raw).2 = false ∧
      (stripLine first raw).1 <:+: inner) ∨
    ∃ body, body ++ closer <:+ trim raw ∧ (stripLine first raw).2 = true ∧
      (stripLine first raw).1 <:+: body := by
  have part := withoutOpener_suffix first raw
  unfold stripLine
  simp only
  cases found : before? closer (withoutOpener first raw) with
  | none =>
      exact .inl ⟨_, part, found, rfl,
        (trimEnd_isPrefix _).isInfix.trans (withoutMarker_suffix first _).isInfix⟩
  | some body =>
      rw [before?_eq_some_iff] at found
      refine .inr ⟨body, found ▸ part, rfl, ?_⟩
      have inner : withoutMarker first (trimEnd body) <:+: body :=
        (withoutMarker_suffix first _).isInfix.trans (trimEnd_isPrefix body).isInfix
      simp only
      split
      · exact List.nil_infix
      · exact (trimEnd_isPrefix _).isInfix.trans inner

theorem stripLine_isInfix (first : Bool) (raw : Text) : (stripLine first raw).1 <:+: raw := by
  refine List.IsInfix.trans ?_ (trim_isInfix raw)
  rcases stripLine_cases first raw with ⟨inner, part, -, -, inside⟩ | ⟨body, part, -, inside⟩
  · exact inside.trans part.isInfix
  · exact inside.trans ((List.prefix_append body closer).isInfix.trans part.isInfix)

theorem trimEnd_stripLine (first : Bool) (raw : Text) :
    trimEnd (stripLine first raw).1 = (stripLine first raw).1 := by
  unfold stripLine
  simp only
  split
  · exact trimEnd_trimEnd _
  · simp only
    split
    · rfl
    · exact trimEnd_trimEnd _

theorem contains_closer_stripLine (first : Bool) {raw : Text} (closes : ClosesAtEnd raw) :
    contains closer (stripLine first raw).1 = false := by
  rw [not_contains_closer_iff]
  intro front rest split
  rcases stripLine_cases first raw with ⟨inner, part, stays, -, inside⟩ | ⟨body, part, -, inside⟩
  · obtain ⟨before, after, whole⟩ := inside
    obtain ⟨skipped, line⟩ := part
    have last := closes (skipped ++ before ++ front) (rest ++ after) (by
      rw [← line, ← whole, split]
      simp)
    have ends : inner = before ++ front ++ closer := by
      rw [← whole, split, List.append_assoc, List.append_assoc, List.append_assoc, last]
      simp
    rw [before?_eq_some_iff.2 ends] at stays
    cases stays
  · obtain ⟨before, after, whole⟩ := inside
    obtain ⟨skipped, line⟩ := part
    have last := closes (skipped ++ before ++ front) (rest ++ after ++ closer) (by
      rw [← line, ← whole, split]
      simp)
    simp [closer] at last

theorem isContent_stripLine (first : Bool) {raw : Text} (closes : ClosesAtEnd raw)
    (single : '\n' ∉ raw) : IsContent (stripLine first raw).1 where
  trimmed := trimEnd_stripLine first raw
  unclosed := contains_closer_stripLine first closes
  single := fun feed => single ((stripLine_isInfix first raw).subset feed)

/-- Where the source line of a content line can be used again, it says the same once more. -/
def ContentLine.IsFaithful (line : ContentLine) : Prop :=
  ∀ padding : Text, (∀ c ∈ padding, isBlank c = true) → isLaidOut padding line.raw = true →
    (stripLine false line.raw).1 = line.text

theorem exists_of_isLaidOut {padding raw : Text} (laid : isLaidOut padding raw = true) :
    contains closer raw = false ∧ ∃ rest, raw = padding ++ (" * ".toList ++ rest) := by
  unfold isLaidOut at laid
  split at laid
  · next behind found =>
      rw [Bool.and_eq_true, Bool.not_eq_true', startsWith_iff] at laid
      obtain ⟨⟨rest, rfl⟩, unclosed⟩ := laid
      exact ⟨unclosed, rest, after?_eq_some_iff.1 found⟩
  · cases laid

theorem trim_append_marker {padding : Text} (blank : ∀ c ∈ padding, isBlank c = true) (t : Text) :
    trim (padding ++ " *".toList ++ t) = '*' :: trimEnd t := by
  have start : trimStart (padding ++ " *".toList ++ t) = '*' :: t := by
    rw [List.append_assoc, trimStart_append_of_blank blank]
    rfl
  have solid : isBlank '*' = false := by decide
  rw [trim, start]
  exact trimEnd_append_cons_of_not_blank solid [] t

theorem before?_closer_of_unclosed {t : Text} (unclosed : contains closer t = false) :
    before? closer t = none := by
  cases found : before? closer t with
  | none => rfl
  | some body =>
      rw [before?_eq_some_iff] at found
      exact absurd (by simpa using found) (not_contains_closer_iff.1 unclosed body [])

theorem stripLine_of_unclosed {raw : Text} (unclosed : contains closer raw = false) :
    stripLine false raw = (trimEnd (withoutMarker false (trim raw)), false) := by
  have inner := before?_closer_of_unclosed (contains_closer_of_isInfix (trim_isInfix raw) unclosed)
  simp [stripLine, withoutOpener, inner]

theorem untagged_of_first_isLaidOut {padding raw : Text} (blank : ∀ c ∈ padding, isBlank c = true)
    (laid : isLaidOut padding raw = true) : tagName? (trimStart (stripLine true raw).1) = none := by
  obtain ⟨unclosed, rest, split⟩ := exists_of_isLaidOut laid
  have trimmed : trim raw = '*' :: trimEnd (' ' :: rest) := by
    rw [split, ← trim_append_marker blank]
    simp
  have solid : isBlank '*' = false := by decide
  have inner : withoutOpener true raw = '*' :: trimEnd (' ' :: rest) := by
    rw [withoutOpener, if_pos rfl, trimmed]
    exact trimStart_cons_of_not_blank solid _
  have stays := before?_closer_of_unclosed (contains_closer_of_isInfix (trim_isInfix raw) unclosed)
  rw [trimmed, ← inner] at stays
  have text : (stripLine true raw).1 = '*' :: trimEnd (' ' :: rest) := by
    rw [stripLine, stays]
    show trimEnd (withoutMarker true (withoutOpener true raw)) = _
    rw [withoutMarker, if_pos rfl, inner, ← trimmed, trimEnd_trim]
  rw [text, trimStart_cons_of_not_blank solid]
  rfl

theorem contentFrom_cons (first : Bool) (raw : Text) (rest : List Text) :
    contentFrom first (raw :: rest) =
      (if (stripLine first raw).1.isEmpty && (first || (stripLine first raw).2) then []
        else [⟨(stripLine first raw).1, raw⟩]) ++
      if (stripLine first raw).2 then [] else contentFrom false rest := rfl

theorem contentFrom_spec {lines : List Text} (closes : closesAtMostAtEnd lines = true)
    (single : ∀ line ∈ lines, '\n' ∉ line) :
    ∀ line ∈ contentFrom false lines, IsContent line.text ∧ line.IsFaithful := by
  induction lines with
  | nil => simp [contentFrom]
  | cons raw rest ih =>
      obtain ⟨here, below, -⟩ := closesAtMostAtEnd_cons closes
      intro line member
      rw [contentFrom_cons, List.mem_append] at member
      rcases member with member | member
      · split at member
        · cases member
        · obtain rfl := List.mem_singleton.1 member
          exact ⟨isContent_stripLine false here (single raw (by simp)), fun _ _ _ => rfl⟩
      · split at member
        · cases member
        · exact ih below (fun line member => single line (List.mem_cons_of_mem raw member)) line
            member

theorem contentLines_spec {lines : List Text} (closes : closesAtMostAtEnd lines = true)
    (single : ∀ line ∈ lines, '\n' ∉ line) :
    ∃ first rest, contentLines lines = first ++ rest ∧
      (∀ line ∈ first, first = [line] ∧ IsContent line.text ∧
        (line.IsFaithful ∨ tagName? (trimStart line.text) = none)) ∧
      ∀ line ∈ rest, IsContent line.text ∧ line.IsFaithful := by
  cases lines with
  | nil => exact ⟨[], [], rfl, by simp, by simp⟩
  | cons raw rest =>
      obtain ⟨here, below, -⟩ := closesAtMostAtEnd_cons closes
      refine ⟨_, _, contentFrom_cons true raw rest, ?_, ?_⟩
      · intro line member
        split at member
        · cases member
        · next solid =>
            obtain rfl := List.mem_singleton.1 member
            refine ⟨if_neg solid, isContent_stripLine true here (single raw (by simp)), ?_⟩
            by_cases tagged : tagName? (trimStart (stripLine true raw).1) = none
            · exact .inr tagged
            · exact .inl fun padding blank laid =>
                absurd (untagged_of_first_isLaidOut blank laid) tagged
      · intro line member
        split at member
        · cases member
        · exact contentFrom_spec below
            (fun line member => single line (List.mem_cons_of_mem raw member)) line member

theorem isContent_contentLines {lines : List Text} (closes : closesAtMostAtEnd lines = true)
    (single : ∀ line ∈ lines, '\n' ∉ line) :
    ∀ line ∈ contentLines lines, IsContent line.text := by
  obtain ⟨first, rest, split, start, faithful⟩ := contentLines_spec closes single
  rw [split]
  intro line member
  rcases List.mem_append.1 member with member | member
  · exact (start line member).2.1
  · exact (faithful line member).1

/-- What a line below the first is read as, unless it closes the comment. -/
def contentLine (raw : Text) : ContentLine := ⟨(stripLine false raw).1, raw⟩

theorem contentFrom_append {lines : List Text}
    (unclosed : ∀ line ∈ lines, contains closer line = false) (rest : List Text) :
    contentFrom false (lines ++ rest) = lines.map contentLine ++ contentFrom false rest := by
  induction lines with
  | nil => rfl
  | cons raw lines ih =>
      have here := stripLine_of_unclosed (unclosed raw (by simp))
      have below := ih fun line member => unclosed line (List.mem_cons_of_mem raw member)
      simp [contentFrom, contentLine, here, below]

theorem stripLine_trimEnd (raw : Text) : stripLine false (trimEnd raw) = stripLine false raw := by
  have same : withoutOpener false (trimEnd raw) = withoutOpener false raw := trim_trimEnd raw
  rw [stripLine, stripLine, same]

@[simp]
theorem textLine_nil (padding : Text) : textLine padding [] = blankLine padding := rfl

theorem contains_closer_textLine {padding : Text} (blank : ∀ c ∈ padding, isBlank c = true)
    (t : Text) : contains closer (textLine padding t) = contains closer t := by
  obtain ⟨unclosed, ends⟩ := contains_closer_blanks blank
  cases t with
  | nil =>
      rw [textLine_nil, blankLine, contains_closer_append, unclosed, ends]
      rfl
  | cons c t =>
      have marker : contains closer (" * ".toList ++ c :: t) = contains closer (c :: t) := by
        simp [contains_closer_cons]
      rw [textLine, if_neg (by simp), List.append_assoc, contains_closer_append, marker, unclosed,
        ends]
      simp

theorem stripLine_textLine {padding : Text} (blank : ∀ c ∈ padding, isBlank c = true) {t : Text}
    (unclosed : contains closer t = false) :
    stripLine false (textLine padding t) = (trimEnd t, false) := by
  rw [stripLine_of_unclosed (by rw [contains_closer_textLine blank, unclosed])]
  congr 1
  cases t with
  | nil =>
      have marker := trim_append_marker blank []
      rw [List.append_nil] at marker
      rw [textLine_nil, blankLine, marker]
      rfl
  | cons c t =>
      have marker := trim_append_marker blank (' ' :: c :: t)
      have line : textLine padding (c :: t) = padding ++ " *".toList ++ ' ' :: c :: t := by
        simp [textLine]
      rw [line, marker]
      by_cases empty : trimEnd (c :: t) = []
      · have blanks : ∀ d ∈ ' ' :: c :: t, isBlank d = true := by
          intro d member
          rcases List.mem_cons.1 member with rfl | member
          · decide
          · exact trimEnd_eq_nil_iff.1 empty d member
        rw [trimEnd_eq_nil_iff.2 blanks, empty]
        rfl
      · rw [show ' ' :: c :: t = [' '] ++ c :: t from rfl, trimEnd_append empty]
        show trimEnd (trimEnd (c :: t)) = trimEnd (c :: t)
        exact trimEnd_trimEnd _

theorem defuse_of_unclosed {t : Text} (unclosed : contains closer t = false) : defuse t = t := by
  fun_induction defuse t with
  | case1 => rfl
  | case2 rest ih => simp [contains_closer_cons] at unclosed
  | case3 c rest other ih =>
      rw [contains_closer_cons, Bool.or_eq_false_iff] at unclosed
      rw [ih unclosed.2]

theorem sanitize?_of_unclosed {line : Text} (unclosed : contains closer line = false) :
    sanitize? line = some line := by
  have inner := contains_closer_of_isInfix (trim_isInfix line) unclosed
  have kept : ¬(trim line == closer || trim line == "**/".toList ||
      trim line == "* */".toList) = true := by
    intro found
    simp only [Bool.or_eq_true, beq_iff_eq] at found
    rcases found with (same | same) | same <;> rw [same] at inner <;> revert inner <;> decide
  rw [sanitize?, if_neg kept, defuse_of_unclosed unclosed]

theorem filterMap_sanitize?_of_unclosed {lines : List Text}
    (unclosed : ∀ line ∈ lines, contains closer line = false) :
    lines.filterMap sanitize? = lines := by
  rw [List.filterMap_congr fun line member => sanitize?_of_unclosed (unclosed line member)]
  simp

/-- The content of a written docblock is what its body lines are read as. -/
theorem contentLines_render {docblock : Docblock} {site : Site}
    (blank : ∀ c ∈ site.padding, isBlank c = true)
    (unclosed : ∀ line ∈ bodyLines docblock site, contains closer line = false) :
    contentLines (docblock.render site) = (bodyLines docblock site).map contentLine := by
  have opening : stripLine true (site.padding ++ opener) = ([], false) := by
    have inner : withoutOpener true (site.padding ++ opener) = [] := by
      rw [withoutOpener, trim, trimStart_append_of_blank blank]
      rfl
    rw [stripLine, inner]
    rfl
  have closing : stripLine false (site.padding ++ " */".toList) = ([], true) := by
    have inner : withoutOpener false (site.padding ++ " */".toList) = closer := by
      rw [withoutOpener, trim, trimStart_append_of_blank blank]
      rfl
    rw [stripLine, inner]
    rfl
  have last : contentFrom false [site.padding ++ " */".toList] = [] := by
    rw [contentFrom_cons, closing]
    rfl
  rw [render, filterMap_sanitize?_of_unclosed unclosed, contentLines, List.cons_append,
    contentFrom_cons, opening, contentFrom_append unclosed, last, List.append_nil]
  rfl

theorem isContent_of_isInfix {s t : Text} (part : s <:+: t) (content : IsContent t)
    (trimmed : trimEnd s = s) : IsContent s where
  trimmed := trimmed
  unclosed := contains_closer_of_isInfix part content.unclosed
  single := fun feed => content.single (part.subset feed)

theorem isContent_of_nonempty?_trim {s t description : Text} (part : s <:+: t)
    (content : IsContent t) (some : nonempty? (trim s) = some description) :
    IsContent description ∧ description ≠ [] ∧ trimStart description = description := by
  obtain ⟨rfl, solid⟩ := nonempty?_eq_some_iff.1 some
  exact ⟨isContent_of_isInfix ((trim_isInfix s).trans part) content (trimEnd_trim s), solid,
    trimStart_trim s⟩

theorem contains_closer_append_of_not_slash {s t : Text} (first : contains closer s = false)
    (second : contains closer t = false) (slash : startsWith ['/'] t = false) :
    contains closer (s ++ t) = false := by
  rw [contains_closer_append, first, second, slash]
  simp

/-- The end of a tag's text: nothing, or a description behind a blank. -/
def describedTail (description : Option Text) : Text :=
  match description with
  | some description => ' ' :: description
  | none => []

theorem contains_closer_append_describedTail {t : Text} (unclosed : contains closer t = false)
    {description : Option Text} (described : ∀ d ∈ description, contains closer d = false) :
    contains closer (t ++ describedTail description) = false := by
  cases description with
  | none => rwa [describedTail, List.append_nil]
  | some d =>
      refine contains_closer_append_of_not_slash unclosed ?_ (by simp [describedTail])
      simpa [describedTail, contains_closer_cons] using described d rfl

theorem describedTail_spec {description : Option Text}
    (content : ∀ d ∈ description, IsContent d ∧ d ≠ [] ∧ trimStart d = d) :
    IsContent (describedTail description) ∧ IsBreak (describedTail description) ∧
      startsWith ['/'] (describedTail description) = false ∧
      nonempty? (trim (describedTail description)) = description := by
  cases description with
  | none => exact ⟨⟨rfl, rfl, by simp [describedTail]⟩, isBreak_nil, rfl, rfl⟩
  | some d =>
      obtain ⟨⟨trimmed, unclosed, single⟩, solid, start⟩ := content d rfl
      have tail : trim (' ' :: d) = d := by
        rw [trim, trimStart_cons_of_blank (by decide), start, trimmed]
      refine ⟨⟨trimEnd_append_of_trimEnd_eq trimmed solid [' '], ?_, ?_⟩, ?_, rfl, ?_⟩
      · simp [describedTail, contains_closer_cons, unclosed]
      · simpa [describedTail] using single
      · simp [describedTail, isBlank]
      · rw [describedTail, tail]
        exact nonempty?_eq_some_iff.2 ⟨rfl, solid⟩

end DocblockSync.Docblock
