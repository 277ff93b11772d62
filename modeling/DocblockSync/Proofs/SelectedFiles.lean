import DocblockSync.Command.Run
import DocblockSync.Proofs.DiskWrites
import DocblockSync.Proofs.ExcludedDirectories

/-! The files that a path selects. A file selects itself. A directory selects what lies at or below
it, at whatever depth, if the name ends in `.php` with something in front of it and the path is not
excluded. -/

namespace DocblockSync.Text

theorem eq_of_splitOn_eq_singleton {separator : Char} {t segment : Text}
    (split : t.splitOn separator = [segment]) : t = segment :=
  calc
    t = [separator].intercalate (t.splitOn separator) := (List.intercalate_splitOn separator).symm
    _ = segment := by rw [split, List.intercalate_singleton]

theorem exists_of_splitOn_eq_concat {separator : Char} {t last : Text} {first : List Text}
    (some : first ≠ []) (split : t.splitOn separator = first ++ [last]) :
    ∃ front, t = front ++ separator :: last ∧ front.splitOn separator = first := by
  obtain ⟨front, rest, same, splitFront, splitRest⟩ :=
    exists_of_splitOn_eq_append some (List.cons_ne_nil last []) split
  exact ⟨front, eq_of_splitOn_eq_singleton splitRest ▸ same, splitFront⟩

end DocblockSync.Text

namespace DocblockSync.Path

open Text

theorem extension?_eq {path name last : Text} {first : List Text}
    (named : fileName? path = some name) (split : name.splitOn '.' = first ++ [last]) :
    extension? path = if first = [] ∨ first = [[]] then none else some last := by
  unfold extension?
  rw [named, Option.map_some, split, List.reverse_append, List.reverse_singleton,
    List.singleton_append]
  rcases List.eq_nil_or_concat first with rfl | ⟨before, stem, rfl⟩
  · rfl
  · rw [List.concat_eq_append, List.reverse_append, List.reverse_singleton, List.singleton_append]
    rcases List.eq_nil_or_concat before with rfl | ⟨earlier, middle, rfl⟩
    · simp
    · have long : earlier ++ [middle, stem] ≠ [[]] := fun same => by
        simpa using congrArg List.length same
      simp [long]

theorem extension?_eq_some_iff {path extension : Text} :
    extension? path = some extension ↔
      ∃ stem, stem ≠ [] ∧ '.' ∉ extension ∧ fileName? path = some (stem ++ '.' :: extension) := by
  constructor
  · intro found
    cases named : fileName? path with
    | none =>
        rw [extension?, named] at found
        cases found
    | some name =>
        obtain ⟨first, last, split⟩ : ∃ first last, name.splitOn '.' = first ++ [last] := by
          simpa [List.splitOn_ne_nil] using List.eq_nil_or_concat (name.splitOn '.')
        rw [extension?_eq named split] at found
        split_ifs at found with bare
        cases found
        rw [not_or] at bare
        obtain ⟨stem, rfl, splitStem⟩ := exists_of_splitOn_eq_concat bare.1 split
        refine ⟨stem, ?_, not_mem_of_mem_splitOn (t := stem ++ '.' :: extension) ?_, rfl⟩
        · rintro rfl
          exact bare.2 splitStem.symm
        · rw [split]
          exact List.mem_append_right _ List.mem_cons_self
  · rintro ⟨stem, solid, free, named⟩
    have split : (stem ++ '.' :: extension).splitOn '.' = stem.splitOn '.' ++ [extension] := by
      rw [List.splitOn_append_cons_self, List.splitOn_eq_singleton free]
    have long : ¬(stem.splitOn '.' = [] ∨ stem.splitOn '.' = [[]]) := by
      rintro (none | bare)
      · exact List.splitOn_ne_nil _ _ none
      · exact solid (eq_of_splitOn_eq_singleton bare)
    rw [extension?_eq named split, if_neg long]

end DocblockSync.Path

namespace DocblockSync.Disk

theorem isSome_lookup_iff {entries : List (Location × Entry)} {location : Location} :
    (entries.lookup location).isSome = true ↔ ∃ entry, (location, entry) ∈ entries := by
  simp [List.lookup_isSome_iff]

theorem mem_walk_iff {disk : Disk} {workingDirectory top : Location} {path found : Text}
    (led : disk.locate workingDirectory path = .ok top)
    (directory : disk.get? top = some .directory) :
    found ∈ disk.walk workingDirectory path ↔
      ∃ names entry, disk.get? (top ++ names) = some entry ∧
        found = names.foldl Path.join path := by
  have listed : ∀ {name : Text} {names : List Text},
      (∃ entry, disk.get? (top ++ name :: names) = some entry) ↔
        ∃ entry, (top ++ name :: names, entry) ∈ disk.entries := by
    intro name names
    rw [get?_of_ne_nil disk (by simp), ← Option.isSome_iff_exists, isSome_lookup_iff]
  unfold walk
  rw [led]
  simp only [List.mem_cons, List.mem_filterMap]
  constructor
  · rintro (rfl | ⟨⟨place, entry⟩, member, below⟩)
    · exact ⟨[], .directory, by rwa [List.append_nil], rfl⟩
    · split at below
      · next name names ahead =>
          rw [List.isPrefixOf?_eq_some_iff_append_eq] at ahead
          subst ahead
          obtain ⟨entry, held⟩ := listed.2 ⟨entry, member⟩
          exact ⟨name :: names, entry, held, (Option.some.inj below).symm⟩
      · cases below
  · rintro ⟨names, entry, held, rfl⟩
    cases names with
    | nil => exact .inl rfl
    | cons name names =>
        obtain ⟨entry, member⟩ := listed.1 ⟨entry, held⟩
        refine .inr ⟨(top ++ name :: names, entry), member, ?_⟩
        rw [List.isPrefixOf?_eq_some_iff_append_eq.2 rfl]

end DocblockSync.Disk

namespace DocblockSync.Command

open Text

section Selects

variable (disk : Disk) (environment : Environment) (config : Config)

/-- What a path selects: itself if it leads to a file, and whatever is named like a source at or below
the directory that it leads to, unless it is excluded. -/
inductive Selects (path : Text) : Text → Prop
  | file {location : Location} {content : Content}
      (led : disk.locate environment.workingDirectory path = .ok location)
      (held : disk.get? location = some (.file content)) : Selects path path
  | below {top : Location} {names : List Text} {entry : Entry} {stem : Text}
      (led : disk.locate environment.workingDirectory path = .ok top)
      (directory : disk.get? top = some .directory)
      (held : disk.get? (top ++ names) = some entry)
      (named : Path.fileName? (names.foldl Path.join path) = some (stem ++ ".php".toList))
      (some : stem ≠ [])
      (kept : config.excludes (names.foldl Path.join path) = false) :
      Selects path (names.foldl Path.join path)

variable {disk environment config}

theorem mem_selectedBy_iff {path found : Text} :
    found ∈ selectedBy disk environment config path ↔
      Selects disk environment config path found := by
  have source : ∀ path, Path.extension? path = some "php".toList ↔
      ∃ stem, stem ≠ [] ∧ Path.fileName? path = some (stem ++ ".php".toList) := by
    intro path
    rw [Path.extension?_eq_some_iff]
    exact exists_congr fun stem => and_congr_right fun _ => and_iff_right (by decide)
  unfold selectedBy
  constructor
  · intro member
    split at member
    · next isFile =>
        obtain ⟨location, content, led, held⟩ := Disk.isFile_iff.1 isFile
        rw [List.mem_singleton.1 member]
        exact .file led held
    · split at member
      · next isDirectory =>
          obtain ⟨top, led, directory⟩ := Disk.isDirectory_iff.1 isDirectory
          obtain ⟨walked, picked⟩ := List.mem_filter.1 member
          rw [Bool.and_eq_true, beq_iff_eq, source, Bool.not_eq_true'] at picked
          obtain ⟨⟨stem, some, named⟩, kept⟩ := picked
          obtain ⟨names, entry, held, rfl⟩ := (Disk.mem_walk_iff led directory).1 walked
          exact .below led directory held named some kept
      · exact absurd member List.not_mem_nil
  · intro selects
    cases selects with
    | file led held =>
        rw [if_pos (Disk.isFile_iff.2 ⟨_, _, led, held⟩)]
        exact List.mem_singleton_self _
    | below led directory held named some kept =>
        have noFile : ¬disk.isFile environment.workingDirectory path = true := by
          rw [Disk.isFile_iff]
          rintro ⟨location, content, led', file⟩
          cases led.symm.trans led'
          rw [directory] at file
          cases file
        rw [if_neg noFile, if_pos (Disk.isDirectory_iff.2 ⟨_, led, directory⟩), List.mem_filter,
          Disk.mem_walk_iff led directory, Bool.and_eq_true, beq_iff_eq, source,
          Bool.not_eq_true']
        exact ⟨⟨_, _, held, rfl⟩, ⟨_, some, named⟩, kept⟩

end Selects

end DocblockSync.Command
