import DocblockSync.Proofs.ContentLines

/-! Entries of the settings list. A name is read up to the first ` : `, so an entry that was read once
gives its name and its description back unless the name ends with ` :` in front of a description:
there the end of the name and the divider behind it hold an earlier ` : `. -/

namespace DocblockSync

open Text

namespace Text

theorem splitOnce?_spec {separator : Text} (solid : separator ≠ []) (t : Text) :
    (∃ front rest, splitOnce? separator t = some (front, rest) ∧ t = front ++ (separator ++ rest) ∧
      ∀ u v, t = u ++ (separator ++ v) → front.length ≤ u.length) ∨
    splitOnce? separator t = none ∧ ∀ u v, t ≠ u ++ (separator ++ v) := by
  induction t with
  | nil =>
      refine .inr ⟨if_neg (by simpa using solid), fun u v split => ?_⟩
      simp [solid] at split
  | cons c t ih =>
      rw [splitOnce?]
      cases here : after? separator (c :: t) with
      | some rest =>
          have split := after?_eq_some_iff.1 here
          exact .inl ⟨[], rest, rfl, split, by simp⟩
      | none =>
          have later : ∀ u v, c :: t = u ++ (separator ++ v) →
              ∃ below, u = c :: below ∧ t = below ++ (separator ++ v) := by
            intro u v split
            cases u with
            | nil =>
                rw [List.nil_append, ← after?_eq_some_iff, here] at split
                cases split
            | cons d below =>
                rw [List.cons_append, List.cons.injEq] at split
                exact ⟨below, by rw [split.1], split.2⟩
          rcases ih with ⟨front, rest, found, split, first⟩ | ⟨missing, nowhere⟩
          · refine .inl ⟨c :: front, rest, by rw [found]; rfl, by rw [split]; rfl, ?_⟩
            intro u v split'
            obtain ⟨below, rfl, split''⟩ := later u v split'
            simpa using first below v split''
          · refine .inr ⟨by rw [missing]; rfl, fun u v split => ?_⟩
            obtain ⟨below, -, split'⟩ := later u v split
            exact nowhere below v split'

end Text

namespace SettingsUsage

/-- An entry as it is written: without a description that repeats its name. -/
def withoutEcho (usage : SettingsUsage) : SettingsUsage :=
  { usage with description := usage.description.filter (· != usage.name) }

/-- Whether the divider between name and description is the first one of the entry. -/
def isSeparable (usage : SettingsUsage) : Bool :=
  usage.withoutEcho.description.isNone || !endsWith " :".toList usage.name

end SettingsUsage

namespace Docblock

/-- An entry of the settings list that was read. -/
structure IsReadEntry (usage : SettingsUsage) : Prop where
  named : usage.name ≠ []
  start : trimStart usage.name = usage.name
  name : IsContent usage.name
  undivided : ∀ u v, usage.name ≠ u ++ (" : ".toList ++ v)
  description : ∀ d ∈ usage.description, IsContent d ∧ d ≠ [] ∧ trimStart d = d

theorem isReadEntry_of_text {t entry : Text} (content : IsContent t)
    (split : t = "- ".toList ++ entry) : IsReadEntry (readSettingsEntry entry) := by
  have suffix : entry <:+ t := by
    rw [split]
    exact List.suffix_append _ entry
  have part : trim entry <:+: t := (trim_isInfix entry).trans suffix.isInfix
  have some : entry ≠ [] := by
    rintro rfl
    have trimmed := content.trimmed
    rw [split] at trimmed
    revert trimmed
    decide
  have solid := trim_ne_nil (trimEnd_eq_of_suffix suffix content.trimmed) some
  have divider : " : ".toList ≠ [] := by decide
  unfold readSettingsEntry
  rcases splitOnce?_spec divider (trim entry) with
    ⟨front, behind, found, whole, first⟩ | ⟨missing, nowhere⟩
  · rw [found]
    have front_part : front <:+: t := by
      rw [whole] at part
      exact (List.prefix_append front _).isInfix.trans part
    have behind_part : behind <:+: t := by
      rw [whole, ← List.append_assoc] at part
      exact (List.suffix_append _ behind).isInfix.trans part
    have three : " : ".toList.length = 3 := rfl
    refine ⟨fun empty => ?_, trimStart_trim front, isContent_of_isInfix
      ((trim_isInfix front).trans front_part) content (trimEnd_trim front), fun u v inside => ?_,
      fun d member => isContent_of_nonempty?_trim behind_part content member⟩
    · -- A name of blanks would make the trimmed entry start with a blank.
      have start := trimStart_trim entry
      rw [whole, trimStart_append_of_blank (trim_eq_nil_iff.1 empty)] at start
      have cut : trimStart (" : ".toList ++ behind) = ": ".toList ++ behind := rfl
      have size := congrArg List.length start
      have two : ": ".toList.length = 2 := rfl
      simp only [cut, List.length_append] at size
      omega
    · have named : trim front = u ++ (" : ".toList ++ v) := inside
      obtain ⟨before, after, cut⟩ := trim_isInfix front
      have early := first (before ++ u) (v ++ after ++ " : ".toList ++ behind) (by
        rw [whole, ← cut, named]
        simp)
      have size := congrArg List.length cut
      simp only [named, List.length_append] at size early
      omega
  · rw [missing]
    exact ⟨solid, trimStart_trim entry, isContent_of_isInfix part content (trimEnd_trim entry),
      nowhere, by simp⟩

def entryText (usage : SettingsUsage) : Text :=
  usage.name ++
    match usage.withoutEcho.description with
    | some description => " : ".toList ++ description
    | none => []

theorem settingsEntry_eq {usage : SettingsUsage} (read : IsReadEntry usage) :
    settingsEntry usage = "- ".toList ++ entryText usage := by
  unfold settingsEntry entryText SettingsUsage.withoutEcho
  cases known : usage.description with
  | none => simp
  | some d =>
      obtain ⟨⟨trimmed, -, -⟩, solid, start⟩ := read.description d known
      have whole : trim d = d := trim_eq_self start trimmed
      by_cases echo : d = usage.name
      · have none : (some d).filter (· != usage.name) = none := by simp [Option.filter, echo]
        rw [none, Option.map_some, whole, echo]
        simp
      · have kept : (some d).filter (· != usage.name) = some d := by simp [Option.filter, echo]
        rw [kept]
        simp [whole, echo, solid]

theorem contains_closer_settingsEntry {usage : SettingsUsage}
    (name : contains closer usage.name = false)
    (description : ∀ d ∈ usage.description, contains closer d = false) :
    contains closer (settingsEntry usage) = false := by
  have entry : contains closer ("- ".toList ++ usage.name) = false := by
    simpa [contains_closer_cons] using name
  unfold settingsEntry
  split
  · next d known =>
      obtain ⟨d, found, rfl⟩ := Option.map_eq_some_iff.1 known
      split
      · exact entry
      · have tail : contains closer (" : ".toList ++ trim d) = false := by
          have inner := contains_closer_of_isInfix (trim_isInfix d) (description d found)
          simpa [contains_closer_cons] using inner
        rw [List.append_assoc]
        exact contains_closer_append_of_not_slash entry tail (by simp)
  · exact entry

theorem isContent_settingsEntry {usage : SettingsUsage} (read : IsReadEntry usage) :
    IsContent (settingsEntry usage) := by
  have unclosed := contains_closer_settingsEntry read.name.unclosed
    fun d known => (read.description d known).1.unclosed
  rw [settingsEntry_eq read, entryText] at unclosed ⊢
  cases known : usage.withoutEcho.description with
  | none =>
      rw [known] at unclosed
      simp only [List.append_nil] at unclosed ⊢
      exact ⟨trimEnd_append_of_trimEnd_eq read.name.trimmed read.named _, unclosed,
        by simpa using read.name.single⟩
  | some d =>
      obtain ⟨⟨trimmed, -, single⟩, solid, -⟩ :=
        read.description d (Option.filter_eq_some_iff.1 known).1
      rw [known] at unclosed
      refine ⟨?_, unclosed, by simp [read.name.single, single]⟩
      rw [← List.append_assoc, ← List.append_assoc]
      exact trimEnd_append_of_trimEnd_eq trimmed solid _

theorem eq_append_of_early_divider {name d u v : Text} (trimmed : trimEnd name = name)
    (undivided : ∀ u v, name ≠ u ++ (" : ".toList ++ v))
    (same : name ++ (" : ".toList ++ d) = u ++ (" : ".toList ++ v))
    (early : u.length < name.length) : name = u ++ " :".toList := by
  rcases List.append_eq_append_iff.1 same with ⟨w, split, -⟩ | ⟨w, split, behind⟩
  · rw [split, List.length_append] at early
    omega
  · rw [show " : ".toList = [' ', ':', ' '] from rfl] at behind
    match w with
    | [] =>
        rw [split, List.append_nil] at early
        omega
    | [x] =>
        simp only [List.cons_append, List.cons.injEq] at behind
        rw [← behind.1] at split
        rw [split] at trimmed
        cases eq_nil_of_trimEnd_append (List.all_eq_true.1 (by decide)) trimmed
    | [x, y] =>
        simp only [List.cons_append, List.cons.injEq] at behind
        rw [split, ← behind.1, ← behind.2.1]
        rfl
    | x :: y :: z :: w =>
        simp only [List.cons_append, List.cons.injEq] at behind
        rw [← behind.1, ← behind.2.1, ← behind.2.2.1] at split
        exact absurd split (undivided u w)

theorem IsReadEntry.trim_append {usage : SettingsUsage} (read : IsReadEntry usage) {d : Text}
    (trimmed : trimEnd d = d) (solid : d ≠ []) :
    trim (usage.name ++ (" : ".toList ++ d)) = usage.name ++ (" : ".toList ++ d) := by
  refine trim_eq_self ?_ ?_
  · rw [trimStart_append (by rw [read.start]; exact read.named), read.start]
  · rw [← List.append_assoc]
    exact trimEnd_append_of_trimEnd_eq trimmed solid _

/-- An entry is read back exactly if its divider is its first. -/
theorem readSettingsEntry_entryText_iff {usage : SettingsUsage} (read : IsReadEntry usage) :
    readSettingsEntry (entryText usage) = usage.withoutEcho ↔ usage.isSeparable = true := by
  have divider : " : ".toList ≠ [] := by decide
  have named : trim usage.name = usage.name := trim_eq_self read.start read.name.trimmed
  have name : usage.withoutEcho.name = usage.name := rfl
  unfold readSettingsEntry entryText SettingsUsage.isSeparable
  cases known : usage.withoutEcho.description with
  | none =>
      rcases splitOnce?_spec divider usage.name with ⟨front, rest, -, split, -⟩ | ⟨missing, -⟩
      · exact absurd split (read.undivided front rest)
      · rw [List.append_nil, named, missing]
        refine iff_of_true ?_ rfl
        rw [← name, ← known]
  | some d =>
      obtain ⟨⟨trimmed, -, -⟩, solid, start'⟩ :=
        read.description d (Option.filter_eq_some_iff.1 known).1
      have whole := read.trim_append trimmed solid
      rw [Option.isNone_some, Bool.false_or, Bool.not_eq_true']
      rcases splitOnce?_spec divider (usage.name ++ (" : ".toList ++ d)) with
        ⟨front, rest, found, split, first⟩ | ⟨-, nowhere⟩
      · have start := first usage.name d rfl
        simp only [whole, found]
        constructor
        · intro same
          by_contra ends
          obtain ⟨u, ended⟩ := endsWith_iff.1 (Bool.not_eq_false _ ▸ ends)
          have earlier := first u (": ".toList ++ d) (by rw [ended]; simp)
          have longer := (trim_isInfix front).length_le
          rw [show trim front = usage.name from congrArg SettingsUsage.name same] at longer
          have two : " :".toList.length = 2 := rfl
          have size := congrArg List.length ended
          rw [List.length_append] at size
          omega
        · intro ends
          have full : ¬front.length < usage.name.length := fun early => by
            have ended := eq_append_of_early_divider read.name.trimmed read.undivided split early
            rw [endsWith_iff.2 ⟨front, ended⟩] at ends
            cases ends
          obtain ⟨rfl, behind⟩ := List.append_inj split (by omega)
          rw [← List.append_cancel_left behind, named, trim_eq_self start' trimmed,
            nonempty?_eq_some_iff.2 ⟨rfl, solid⟩, ← known, ← name]
      · exact absurd rfl (nowhere usage.name d)

end Docblock

namespace SettingsUsage

def reread (usage : SettingsUsage) : SettingsUsage :=
  Docblock.readSettingsEntry (Docblock.entryText usage)

/-- Whether an entry keeps its text where the end of its name is taken for the divider: no other
blank stands in front of that end, and what is left does not repeat the description. -/
def isSteady (usage : SettingsUsage) : Bool :=
  usage.withoutEcho.description.all fun description =>
    (before? " :".toList usage.name).all fun front =>
      trimEnd front == front && ": ".toList ++ description != front

theorem withoutEcho_withoutEcho (usage : SettingsUsage) :
    usage.withoutEcho.withoutEcho = usage.withoutEcho := by
  cases usage with
  | mk name description => cases description <;> simp [withoutEcho, Option.filter_filter]

theorem description_withoutEcho (name description : Text) :
    (SettingsUsage.mk name (some description)).withoutEcho.description =
      if description = name then none else some description := by
  by_cases echo : description = name <;> simp [withoutEcho, Option.filter, echo]

end SettingsUsage

namespace Docblock

theorem IsReadEntry.withoutEcho {usage : SettingsUsage} (read : IsReadEntry usage) :
    IsReadEntry usage.withoutEcho where
  named := read.named
  start := read.start
  name := read.name
  undivided := read.undivided
  description := fun d member => read.description d (Option.filter_eq_some_iff.1 member).1

theorem settingsEntry_withoutEcho {usage : SettingsUsage} (read : IsReadEntry usage) :
    settingsEntry usage.withoutEcho = settingsEntry usage := by
  rw [settingsEntry_eq read.withoutEcho, settingsEntry_eq read, entryText, entryText,
    SettingsUsage.withoutEcho_withoutEcho]
  rfl

theorem IsReadEntry.reread {usage : SettingsUsage} (read : IsReadEntry usage) :
    IsReadEntry usage.reread :=
  isReadEntry_of_text (isContent_settingsEntry read) (settingsEntry_eq read)

theorem reread_of_isSeparable {usage : SettingsUsage} (read : IsReadEntry usage)
    (separable : usage.isSeparable = true) : usage.reread = usage.withoutEcho :=
  (readSettingsEntry_entryText_iff read).2 separable

theorem settingsEntry_reread_of_isSeparable {usage : SettingsUsage} (read : IsReadEntry usage)
    (separable : usage.isSeparable = true) : settingsEntry usage.reread = settingsEntry usage := by
  rw [reread_of_isSeparable read separable, settingsEntry_withoutEcho read]

theorem reread_of_endsWith {usage : SettingsUsage} (read : IsReadEntry usage) {d front : Text}
    (known : usage.withoutEcho.description = some d) (ended : usage.name = front ++ " :".toList) :
    usage.reread = ⟨trimEnd front, some (": ".toList ++ d)⟩ := by
  have divider : " : ".toList ≠ [] := by decide
  obtain ⟨⟨trimmed, -, -⟩, solid, -⟩ :=
    read.description d (Option.filter_eq_some_iff.1 known).1
  have text : entryText usage = usage.name ++ (" : ".toList ++ d) := by rw [entryText, known]
  have whole := read.trim_append trimmed solid
  have behind : trim (": ".toList ++ d) = ": ".toList ++ d :=
    trim_eq_self (trimStart_cons_of_not_blank (by decide) _)
      (trimEnd_append_of_trimEnd_eq trimmed solid _)
  have start : trimStart front = front := by
    have first := read.start
    cases front with
    | nil => rfl
    | cons c front =>
        rw [ended] at first
        exact trimStart_cons_of_not_blank (head_trimStart first) front
  rw [SettingsUsage.reread, text, readSettingsEntry, whole]
  rcases splitOnce?_spec divider (usage.name ++ (" : ".toList ++ d)) with
    ⟨cut, rest, found, split, first⟩ | ⟨-, nowhere⟩
  · have two : " :".toList.length = 2 := rfl
    have size := congrArg List.length ended
    have early := first front (": ".toList ++ d) (by rw [ended]; simp)
    rw [List.length_append] at size
    have ended' := eq_append_of_early_divider read.name.trimmed read.undivided split (by omega)
    obtain rfl : front = cut := List.append_cancel_right (ended.symm.trans ended')
    have rest_eq : ": ".toList ++ d = rest := by
      rw [ended, List.append_assoc, List.append_cancel_left_eq] at split
      simpa using split
    have name : trim front = trimEnd front := by rw [trim, start]
    rw [found, ← rest_eq]
    simp only [behind, name]
    rw [nonempty?_eq_some_iff.2 ⟨rfl, by simp⟩]
  · exact absurd rfl (nowhere usage.name d)

theorem settingsEntry_reread_iff_of_endsWith {usage : SettingsUsage} (read : IsReadEntry usage)
    {d front : Text} (known : usage.withoutEcho.description = some d)
    (ended : usage.name = front ++ " :".toList) :
    settingsEntry usage.reread = settingsEntry usage ↔
      trimEnd front = front ∧ ": ".toList ++ d ≠ front := by
  rw [settingsEntry_eq read.reread, settingsEntry_eq read, List.append_cancel_left_eq, entryText,
    entryText, known, reread_of_endsWith read known ended, ended,
    SettingsUsage.description_withoutEcho]
  by_cases echo : ": ".toList ++ d = trimEnd front
  · rw [if_pos echo]
    refine iff_of_false (fun same => ?_) (fun steady => steady.2 (echo.trans steady.1))
    have size := congrArg List.length same
    have shorter := (trimEnd_isPrefix front).length_le
    have two : " :".toList.length = 2 := rfl
    simp only [List.append_nil, List.length_append] at size
    omega
  · have tail : front ++ " :".toList ++ (" : ".toList ++ d) =
        front ++ (" : ".toList ++ (": ".toList ++ d)) := by simp
    rw [if_neg echo, tail, List.append_cancel_right_eq]
    exact ⟨fun same => ⟨same, fun repeated => echo (repeated.trans same.symm)⟩, And.left⟩

/-- Reading an entry again keeps its text exactly if it is steady. -/
theorem settingsEntry_reread_iff {usage : SettingsUsage} (read : IsReadEntry usage) :
    settingsEntry usage.reread = settingsEntry usage ↔ usage.isSteady = true := by
  cases known : usage.withoutEcho.description with
  | none =>
      refine iff_of_true (settingsEntry_reread_of_isSeparable read ?_) ?_
      · rw [SettingsUsage.isSeparable, known]
        rfl
      · rw [SettingsUsage.isSteady, known]
        rfl
  | some d =>
      cases ended : before? " :".toList usage.name with
      | none =>
          have ends : endsWith " :".toList usage.name = false := by
            by_contra ends
            obtain ⟨front, split⟩ := endsWith_iff.1 (Bool.not_eq_false _ ▸ ends)
            rw [before?_eq_some_iff.2 split] at ended
            cases ended
          refine iff_of_true (settingsEntry_reread_of_isSeparable read ?_) ?_
          · rw [SettingsUsage.isSeparable, ends, Bool.not_false, Bool.or_true]
          · rw [SettingsUsage.isSteady, known, ended]
            rfl
      | some front =>
          have steady : usage.isSteady = (trimEnd front == front && ": ".toList ++ d != front) := by
            rw [SettingsUsage.isSteady, known, ended]
            rfl
          rw [settingsEntry_reread_iff_of_endsWith read known (before?_eq_some_iff.1 ended), steady,
            Bool.and_eq_true, beq_iff_eq, bne_iff_ne]

end Docblock

end DocblockSync
