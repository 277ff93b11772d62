import DocblockSync.Proofs.RenewedSections

/-! Writing a docblock and reading it again, over and over. The first reading of what was written may
move texts between the sections. From then on each text stays where it is, so only the entries of
the settings list can still change: those with a name that ends with ` :` behind another blank. -/

namespace DocblockSync.Docblock

open Text

namespace Sections

/-- Sections that keep their texts when they are written and read again, the settings aside. -/
structure IsSettled (sections : Sections) : Prop where
  below : sections.entries ≠ [] → sections.leading = []
  apart : sections.entries = [] → sections.params = [] → sections.throws = [] →
    sections.joined = [] ∧ (sections.tagged.takeWhile fun t => !isPrompt t) = sections.leading

theorem isSettled_renewed {sections : Sections} {entries : List Text}
    (some : sections.entries ≠ [] → entries ≠ []) : (sections.renewed entries).IsSettled := by
  unfold renewed
  split
  · next listed =>
      exact ⟨fun _ => rfl, fun none => absurd none (some (by simpa using listed))⟩
  · next unlisted =>
      have none : sections.entries = [] := by simpa using unlisted
      split
      · next generated =>
          refine ⟨fun listed => absurd none listed, fun _ params throws => ?_⟩
          rw [params, throws] at generated
          cases generated
      · refine ⟨fun listed => absurd none listed, fun _ _ _ => ?_⟩
        -- What is left after the summary took its texts starts with a tag.
        have kept : (sections.tagged.takeWhile fun t => !isPrompt t) ++
            (sections.tagged.dropWhile fun t => !isPrompt t) = sections.tagged :=
          List.takeWhile_append_dropWhile
        have again : sections.tagged.dropWhile isUntagged = sections.tagged :=
          List.dropWhile_idempotent isUntagged _
        have first : sections.tagged.takeWhile isUntagged = [] := by
          have whole : sections.tagged.takeWhile isUntagged ++ sections.tagged.dropWhile isUntagged =
            sections.tagged := List.takeWhile_append_dropWhile
          rw [again] at whole
          exact List.append_left_eq_self.1 whole
        simp only [joined, tagged] at kept first again ⊢
        rw [kept, first, again]
        exact ⟨rfl, rfl⟩

theorem renewed_of_isSettled {sections : Sections} (settled : sections.IsSettled)
    {entries : List Text} (none : sections.entries = [] → entries = []) :
    sections.renewed entries = { sections with entries } := by
  unfold renewed
  split
  · next listed =>
      rw [settled.below (by simpa using listed), List.nil_append]
  · next unlisted =>
      have missing : sections.entries = [] := by simpa using unlisted
      split
      · rw [none missing, ← missing]
      · next plain =>
          simp only [Bool.or_eq_true, Bool.not_eq_true', List.isEmpty_eq_false_iff, not_or,
            not_not] at plain
          obtain ⟨joined, leading⟩ := settled.apart missing plain.1 plain.2
          have kept := joined_append_tagged sections
          rw [joined, List.nil_append] at kept
          have trailing : (sections.tagged.dropWhile fun t => !isPrompt t) = sections.trailing := by
            have whole : (sections.tagged.takeWhile fun t => !isPrompt t) ++
                (sections.tagged.dropWhile fun t => !isPrompt t) = sections.tagged :=
              List.takeWhile_append_dropWhile
            rw [leading] at whole
            exact List.append_cancel_left (whole.trans kept)
          rw [leading, trailing, joined, none missing, ← missing, if_pos (by rw [missing]; rfl),
            missing, List.append_nil]

theorem texts_eq_iff_entries_eq {sections : Sections} {entries : List Text}
    (same : entries.isEmpty = sections.entries.isEmpty) :
    { sections with entries }.texts = sections.texts ↔ entries = sections.entries := by
  have split : ∀ listed : List Text, { sections with entries := listed }.texts =
      sections.opening ++ ((if listed.isEmpty then [] else [] :: "@settings".toList :: listed) ++
        (gapTexts sections.hasTags ++ (sections.leading ++ sections.params) ++ sections.lowerTags ++
          sections.closing)) := by
    intro listed
    simp only [texts, upper, List.append_assoc]
    rfl
  constructor
  · intro equal
    rw [split, show sections.texts = { sections with entries := sections.entries }.texts from rfl,
      split, List.append_cancel_left_eq, List.append_cancel_right_eq, same] at equal
    split at equal
    · next none => rw [List.isEmpty_iff.1 none, List.isEmpty_iff.1 (same.trans none)]
    · exact (List.cons.inj (List.cons.inj equal).2).2
  · rintro rfl
    rfl

end Sections

def reformat (site : Site) (lines : List Text) : List Text := (ofLines lines).render site

/-- What was written is written the same way after the next reading exactly if its settings are. -/
theorem render_ofLines_eq_iff {docblock : Docblock} {site : Site} (orderly : IsOrderly docblock)
    (plain : site.IsPlain) (settled : (sections docblock site).IsSettled) :
    reformat site (docblock.render site) = docblock.render site ↔
      ∀ usage ∈ docblock.settings, usage.isSteady = true := by
  have entries : (sections docblock site).entries = docblock.settings.map settingsEntry := rfl
  rw [reformat, render_eq_iff_texts_eq (isOrderly_ofLines_render orderly plain) plain orderly,
    sections_ofLines_render orderly plain, Sections.renewed_of_isSettled settled,
    Sections.texts_eq_iff_entries_eq, entries, List.map_inj_left]
  · exact forall₂_congr fun usage member => settingsEntry_reread_iff (orderly.settings usage member)
  · rw [entries, List.isEmpty_map, List.isEmpty_map]
  · intro none
    rw [entries, List.map_eq_nil_iff] at none
    rw [none, List.map_nil]

/-- A third pass over a docblock changes nothing exactly if, after the first, no setting with a
description has a name that ends with ` :` behind another blank. -/
theorem third_pass_eq_second_iff (lines : List Text) (site : Site)
    (closes : closesAtMostAtEnd lines = true) (single : ∀ line ∈ lines, '\n' ∉ line)
    (plain : site.IsPlain) :
    reformat site (reformat site (reformat site lines)) = reformat site (reformat site lines) ↔
      ∀ usage ∈ (ofLines (reformat site lines)).settings, usage.isSteady = true := by
  have orderly := isOrderly_ofLines closes single
  refine render_ofLines_eq_iff (isOrderly_ofLines_render orderly plain) plain ?_
  have renewed := sections_ofLines_render orderly plain
  rw [reformat, renewed]
  refine Sections.isSettled_renewed fun some => ?_
  simpa [sections] using some

def partedTags : List Text :=
  ["/**", " * @see A", " * @settings", " * - a : b", " * @see B", " */"].map String.toList

theorem third_pass_eq_second_parted :
    reformat ⟨.classType, "C".toList, []⟩ (reformat ⟨.classType, "C".toList, []⟩ partedTags) ≠
        reformat ⟨.classType, "C".toList, []⟩ partedTags ∧
      reformat ⟨.classType, "C".toList, []⟩ (reformat ⟨.classType, "C".toList, []⟩
          (reformat ⟨.classType, "C".toList, []⟩ partedTags)) =
        reformat ⟨.classType, "C".toList, []⟩ (reformat ⟨.classType, "C".toList, []⟩ partedTags) := by
  refine ⟨by decide +kernel, (third_pass_eq_second_iff partedTags ⟨.classType, "C".toList, []⟩
    (by decide) (by decide) ⟨by decide, ⟨by decide, by decide, by decide⟩, by simp⟩).2 ?_⟩
  have read : (ofLines (reformat ⟨.classType, "C".toList, []⟩ partedTags)).settings =
      [⟨"a".toList, some "b".toList⟩] := by decide +kernel
  rw [read]
  decide

def colonName : List Text :=
  ["/**", " * @settings", " * - a :\t :\t :\t : b", " */"].map String.toList

/-- Each pass takes one more colon from the name, and the blank in front of it goes away. -/
theorem third_pass_cuts_name_again :
    closesAtMostAtEnd colonName = true ∧ (∀ line ∈ colonName, '\n' ∉ line) ∧
      reformat ⟨.classType, "C".toList, []⟩ (reformat ⟨.classType, "C".toList, []⟩ colonName) =
        ["/**", " * class C", " *", " * @settings", " * - a :\t : : : b", " */"].map
          String.toList ∧
      reformat ⟨.classType, "C".toList, []⟩ (reformat ⟨.classType, "C".toList, []⟩
          (reformat ⟨.classType, "C".toList, []⟩ colonName)) ≠
        reformat ⟨.classType, "C".toList, []⟩ (reformat ⟨.classType, "C".toList, []⟩ colonName) := by
  refine ⟨by decide, by decide, by decide +kernel, by decide +kernel⟩

end DocblockSync.Docblock
