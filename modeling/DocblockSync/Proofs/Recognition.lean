import DocblockSync.Proofs.ContentLines
import DocblockSync.Proofs.DocblockSearch

/-! A docblock that was laid out is found again. Whatever its fields hold, each body line has a marker
behind the indentation and no slash behind the marker, so that defusing leaves the marker alone and
the search goes up from the closing line to the opening one without a stop in between. -/

namespace DocblockSync.Docblock

open Text

/-- A body line with a marker that no closing delimiter starts with. -/
def IsMarked (padding line : Text) : Prop :=
  ∃ rest, line = padding ++ " *".toList ++ rest ∧ startsWith ['/'] rest = false

theorem isMarked_blankLine (padding : Text) : IsMarked padding (blankLine padding) :=
  ⟨[], (List.append_nil _).symm, rfl⟩

theorem isMarked_textLine (padding t : Text) : IsMarked padding (textLine padding t) := by
  unfold textLine
  split
  · exact isMarked_blankLine padding
  · exact ⟨' ' :: t, by simp, rfl⟩

theorem isMarked_trimEnd_of_isLaidOut {padding raw : Text} (laid : isLaidOut padding raw = true) :
    IsMarked padding (trimEnd raw) := by
  obtain ⟨-, rest, rfl⟩ := exists_of_isLaidOut laid
  have split : padding ++ (" * ".toList ++ rest) = (padding ++ [' ']) ++ '*' :: (' ' :: rest) := by
    simp
  refine ⟨trimEnd (' ' :: rest), ?_, ?_⟩
  · rw [split, trimEnd_append_cons_of_not_blank (by decide)]
    simp
  · obtain ⟨behind, whole⟩ := trimEnd_isPrefix (' ' :: rest)
    cases kept : trimEnd (' ' :: rest) with
    | nil => rfl
    | cons c behind' =>
        rw [kept, List.cons_append, List.cons.injEq] at whole
        rw [whole.1]
        rfl

theorem isMarked_of_mem_tagLines {padding line : Text} {tag : Tag}
    (member : line ∈ tagLines padding tag) : IsMarked padding line := by
  rcases List.mem_cons.1 member with rfl | member
  · split
    · next laid => exact isMarked_trimEnd_of_isLaidOut laid
    · exact isMarked_textLine padding tag.text
  · obtain ⟨t, -, rfl⟩ := List.mem_map.1 member
    exact isMarked_textLine padding t

section Body

variable {padding : Text} {body : List Text} (marked : ∀ line ∈ body, IsMarked padding line)

include marked

theorem isMarked_addBlankIf (condition : Bool) :
    ∀ line ∈ addBlankIf condition padding body, IsMarked padding line := by
  cases condition with
  | false => exact marked
  | true =>
      intro line member
      rcases List.mem_append.1 member with member | member
      · exact marked line member
      · rw [List.mem_singleton.1 member]
        exact isMarked_blankLine padding

theorem isMarked_addTexts (texts : List Text) :
    ∀ line ∈ addTexts padding texts body, IsMarked padding line := by
  intro line member
  rcases List.mem_append.1 member with member | member
  · exact marked line member
  · obtain ⟨t, -, rfl⟩ := List.mem_map.1 member
    exact isMarked_textLine padding t

theorem isMarked_addTags (tags : List Tag) :
    ∀ line ∈ addTags padding tags body, IsMarked padding line := by
  intro line member
  rcases List.mem_append.1 member with member | member
  · exact marked line member
  · obtain ⟨tag, -, member⟩ := List.mem_flatMap.1 member
    exact isMarked_of_mem_tagLines member

end Body

theorem isMarked_headLines (docblock : Docblock) (site : Site) :
    ∀ line ∈ headLines docblock site, IsMarked site.padding line := by
  have opening : ∀ line ∈ addTexts site.padding (titleTexts docblock site ++ docblock.summary) [],
      IsMarked site.padding line := isMarked_addTexts (by simp) _
  unfold headLines
  simp only
  split
  · exact opening
  · exact isMarked_addTexts (isMarked_addBlankIf opening _) _

theorem isMarked_bodyLines (docblock : Docblock) (site : Site) :
    ∀ line ∈ bodyLines docblock site, IsMarked site.padding line := by
  have blank : ∀ {body : List Text}, (∀ line ∈ body, IsMarked site.padding line) →
      ∀ line ∈ addBlank site.padding body, IsMarked site.padding line :=
    fun marked => isMarked_addBlankIf marked true
  have returned : ∀ {body : List Text} (returns gap : Bool) (texts : List Text),
      (∀ line ∈ body, IsMarked site.padding line) →
        ∀ line ∈ if returns then addTexts site.padding texts (addBlankIf gap site.padding body)
          else body, IsMarked site.padding line := by
    intro body returns gap texts marked
    cases returns with
    | false => exact marked
    | true => exact isMarked_addTexts (isMarked_addBlankIf marked gap) texts
  have upper := fun gap leading params =>
    isMarked_addTexts (isMarked_addTags
      (isMarked_addBlankIf (isMarked_headLines docblock site) gap) leading) params
  -- The body grows by one group after the other, and each of them is marked.
  unfold bodyLines
  refine returned _ _ _ ?_
  split
  · split
    · exact upper _ _ _
    · exact isMarked_addTags (isMarked_addBlankIf (upper _ _ _) _) _
  · exact isMarked_addTags (blank (isMarked_addTags (isMarked_addBlankIf (upper _ _ _) _) _)) _

theorem defuse_append_of_blank {blanks : Text} (blank : ∀ c ∈ blanks, isBlank c = true) (t : Text) :
    defuse (blanks ++ t) = blanks ++ defuse t := by
  induction blanks with
  | nil => rfl
  | cons c blanks ih =>
      have below := ih fun c member => blank c (List.mem_cons_of_mem _ member)
      rw [List.cons_append, defuse, below]
      · rfl
      · rintro rest rfl
        exact absurd (blank '*' (by simp)) (by decide)

theorem defuse_star {rest : Text} (apart : startsWith ['/'] rest = false) :
    defuse ('*' :: rest) = '*' :: defuse rest := by
  rw [defuse]
  rintro behind - rfl
  cases apart

theorem startsWith_marker_defuse {padding line : Text} (blank : ∀ c ∈ padding, isBlank c = true)
    (marked : IsMarked padding line) : startsWith ['*'] (trim (defuse line)) = true := by
  obtain ⟨rest, rfl, apart⟩ := marked
  have spaced : ∀ c ∈ padding ++ [' '], isBlank c = true := by
    rw [List.forall_mem_append]
    exact ⟨blank, List.forall_mem_singleton.2 (by decide)⟩
  have split : padding ++ " *".toList ++ rest = (padding ++ [' ']) ++ '*' :: rest := by simp
  have line : defuse (padding ++ " *".toList ++ rest) = padding ++ " *".toList ++ defuse rest := by
    rw [split, defuse_append_of_blank spaced, defuse_star apart]
    simp
  rw [line, trim_append_marker blank]
  rfl

theorem marker_of_sanitize? {padding line kept : Text} (blank : ∀ c ∈ padding, isBlank c = true)
    (marked : IsMarked padding line) (done : sanitize? line = some kept) :
    startsWith ['*'] (trim kept) = true := by
  unfold sanitize? at done
  simp only at done
  split at done
  · cases done
  · rw [← Option.some.inj done]
    exact startsWith_marker_defuse blank marked

theorem looksLikeDocblock_render (docblock : Docblock) {site : Site}
    (blank : ∀ c ∈ site.padding, isBlank c = true) : LooksLikeDocblock (docblock.render site) := by
  have opening : trim (site.padding ++ opener) = opener := by
    rw [trim, trimStart_append_of_blank blank]
    rfl
  have closing : trim (site.padding ++ " */".toList) = closer := by
    rw [trim, trimStart_append_of_blank blank]
    rfl
  refine .several (by rw [opening]; rfl) ?_ (by rw [closing]; rfl) (by rw [closing]; rfl)
  intro line member
  obtain ⟨laid, inside, kept⟩ := List.mem_filterMap.1 member
  exact marker_of_sanitize? blank (isMarked_bodyLines docblock site laid inside) kept

/-- The search from below a docblock that was laid out, with any number of blank lines between,
finds exactly the lines of that docblock. -/
theorem laid_out_docblock_found (docblock : Docblock) (site : Site)
    (before blanks after : List Text) (blank : ∀ c ∈ site.padding, isBlank c = true)
    (between : ∀ line ∈ blanks, ∀ c ∈ line, isBlank c = true) :
    existingDocblock? (before ++ docblock.render site ++ blanks ++ after)
        (before.length + (docblock.render site).length + blanks.length) =
      some ⟨before.length, before.length + (docblock.render site).length - 1⟩ := by
  refine existingDocblock?_eq_some_iff.2 ⟨before, docblock.render site, blanks, ?_,
    looksLikeDocblock_render docblock blank, fun line member => ?_, rfl⟩
  · rw [← List.append_assoc]
    apply List.take_left'
    simp only [List.length_append]
  · rw [List.isEmpty_iff, trim_eq_nil_iff]
    exact between line member

theorem laid_out_docblock_found_between :
    existingDocblock?
        (["/**", " */", "/* a"].map String.toList ++
          ({ otherTags := [{ text := "/** b */".toList, raw := " * */".toList }] } :
            Docblock).render ⟨.traitType, "T".toList, "\t".toList⟩ ++
          ["", " \t"].map String.toList ++ ["trait T".toList]) 10 =
      some ⟨3, 7⟩ := by
  have blank : isBlank ' ' = true ∧ isBlank '\t' = true := by decide
  exact laid_out_docblock_found
    { otherTags := [{ text := "/** b */".toList, raw := " * */".toList }] }
    ⟨.traitType, "T".toList, "\t".toList⟩ (["/**", " */", "/* a"].map String.toList)
    (["", " \t"].map String.toList) ["trait T".toList] (by simp [blank]) (by simp [blank])

end DocblockSync.Docblock
