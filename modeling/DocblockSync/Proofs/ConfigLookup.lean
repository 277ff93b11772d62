import DocblockSync.Command.Run
import DocblockSync.Proofs.CacheFile

/-! The configuration that a run finds once a cache has been saved. A cache file is no configuration,
and neither is a directory; so if a configuration is found and can be used, it is the one that was
found before. -/

namespace DocblockSync

open Text

theorem Toml.parse?_of_brace (rest : Text) : Toml.parse? ('\x7b' :: rest) = none := by
  have keys : ∀ fuel, readKeys? fuel ('\x7b' :: rest) = none := by
    intro fuel
    cases fuel with
    | zero => rfl
    | succ fuel => rfl
  have mark : dropHead [Char.ofNat 0xFEFF] ('\x7b' :: rest) = '\x7b' :: rest := rfl
  have blanks : skipBlanks ('\x7b' :: rest) = '\x7b' :: rest := rfl
  rw [Toml.parse?, mark, List.length_cons, Reading.readLines?]
  simp [blanks, Reading.readPair?, keys]

theorem SettingsCache.parse?_toText_eq_none (cache : SettingsCache) :
    Toml.parse? cache.toText = none := by
  obtain ⟨rest, text⟩ : ∃ rest, cache.toText = '\x7b' :: rest := by
    rw [toText_eq, fileLines]
    split
    · exact ⟨_, rfl⟩
    · exact ⟨_, rfl⟩
  rw [text, Toml.parse?_of_brace]

namespace Path

def IsAbsolute (path : Text) : Prop := path.head? = some '/'

theorem getLast?_dropEmptyEnd (segments : List Text) :
    (dropEmptyEnd segments).getLast? = segments.getLast? := by
  induction segments with
  | nil => rfl
  | cons last rest ih =>
      cases rest with
      | nil => rfl
      | cons next rest =>
          rw [dropEmptyEnd.eq_3 _ _ (by simp)]
          split
          · rw [ih, List.getLast?_cons_cons]
          · rfl

theorem isAbsolute_join {directory : Text} (absolute : IsAbsolute directory) (name : Text) :
    IsAbsolute (join directory name) := by
  cases directory with
  | nil => cases absolute
  | cons c rest =>
      unfold join IsAbsolute at *
      split
      · simp at *
      · split <;> simpa using absolute

theorem isAbsolute_parent {path directory : Text} (absolute : IsAbsolute path)
    (held : parent? path = some directory) : IsAbsolute directory := by
  obtain ⟨rest, rfl⟩ : ∃ rest, path = '/' :: rest := by
    cases path with
    | nil => cases absolute
    | cons c rest => exact ⟨rest, by rw [Option.some.inj absolute]⟩
  have split : ('/' :: rest).splitOn '/' = [] :: rest.splitOn '/' := by
    simpa using List.splitOn_append_cons_self (a := '/') [] rest
  have first := getLast?_dropEmptyEnd (('/' :: rest).splitOn '/').reverse
  rw [split, List.getLast?_reverse, List.head?_cons] at first
  rw [parent?, split] at held
  split at held
  · cases held
  · next only segments =>
      rw [segments] at first
      cases first
      cases held
  · next last before several segments =>
      have around := getLast?_dropEmptyEnd before
      cases before with
      | nil => exact absurd rfl several
      | cons next before =>
          rw [segments, List.getLast?_cons_cons] at first
          rw [first, ← List.head?_reverse, List.head?_eq_some_iff] at around
          obtain ⟨names, reversed⟩ := around
          split at held
          · cases held
            rfl
          · next more =>
              obtain rfl := Option.some.inj held
              rw [reversed]
              cases names with
              | nil => exact absurd (by simpa using congrArg List.reverse reversed) more
              | cons name names => rfl

theorem isAbsolute_ancestors {path directory : Text} (absolute : IsAbsolute path)
    (around : directory ∈ ancestors path) : IsAbsolute directory := by
  suffices ∀ fuel path, IsAbsolute path → directory ∈ ancestorsFrom fuel path →
      IsAbsolute directory from this _ _ absolute around
  intro fuel
  induction fuel with
  | zero =>
      intro path absolute around
      rwa [List.mem_singleton.1 around]
  | succ fuel ih =>
      intro path absolute around
      rw [ancestorsFrom] at around
      split at around
      · next parent held =>
          rcases List.mem_cons.1 around with rfl | further
          · exact absolute
          · exact ih parent (isAbsolute_parent absolute held) further
      · rwa [List.mem_singleton.1 around]

end Path

namespace Disk

theorem follow_append (disk : Disk) (start : Location) (first second : List Text) :
    disk.follow start (first ++ second) =
      (disk.follow start first).bind fun location => disk.follow location second := by
  induction first generalizing start with
  | nil => rfl
  | cons segment rest ih =>
      rw [List.cons_append, follow, follow]
      split
      · rfl
      · rfl
      · split
        · exact ih start
        · split
          · exact ih _
          · exact ih _

theorem follow_join {disk : Disk} {start location : Location} {directory name : Text}
    (given : directory ≠ []) (plain : '/' ∉ name)
    (led : disk.follow start (directory.splitOn '/') = .ok location) :
    disk.follow start ((Path.join directory name).splitOn '/') = disk.follow location [name] := by
  have single : name.splitOn '/' = [name] := List.splitOn_eq_singleton plain
  rw [Path.join, if_neg (by simpa using given)]
  split
  · next ends =>
      obtain ⟨front, rfl⟩ := List.isSuffixOf_iff_suffix.1 ends
      rw [List.splitOn_append_cons_self, List.splitOn_nil, follow_append] at led
      rw [List.append_assoc, List.singleton_append, List.splitOn_append_cons_self, single,
        follow_append]
      -- The empty segment behind the last slash leads nowhere else.
      cases reached : disk.follow start (front.splitOn '/') with
      | error cause =>
          rw [reached] at led
          cases led
      | ok place =>
          rw [reached] at led
          simp only [Except.bind, follow] at led
          split at led
          · cases led
          · cases led
          · cases led
            rfl
  · rw [List.splitOn_append_cons_self, single, follow_append, led]
    rfl

theorem locate_of_isAbsolute (disk : Disk) (workingDirectory : Location) {path : Text}
    (absolute : Path.IsAbsolute path) :
    disk.locate workingDirectory path = disk.follow [] (path.splitOn '/') := by
  have given : path.isEmpty = false := by
    cases path with
    | nil => cases absolute
    | cons c rest => rfl
  have root : path.head? = some '/' := absolute
  simp [locate, given, root]

theorem locate_join {disk : Disk} {directory name : Text} (absolute : Path.IsAbsolute directory)
    (stands : disk.isDirectory [] directory = true) (plain : '/' ∉ name) :
    ∃ location, ∀ workingDirectory,
      disk.locate workingDirectory (Path.join directory name) = .ok location := by
  obtain ⟨place, led, held⟩ := isDirectory_iff.1 stands
  rw [locate_of_isAbsolute disk [] absolute] at led
  have given : directory ≠ [] := by
    rintro rfl
    cases absolute
  obtain ⟨location, found⟩ : ∃ location, disk.follow place [name] = .ok location := by
    simp only [follow, held]
    split
    · exact ⟨_, rfl⟩
    · split
      · exact ⟨_, rfl⟩
      · exact ⟨_, rfl⟩
  refine ⟨location, fun workingDirectory => ?_⟩
  rw [locate_of_isAbsolute disk workingDirectory (Path.isAbsolute_join absolute name),
    follow_join given plain led, found]

end Disk

/-- A configuration that could be used before a cache was saved is the same afterwards, unless the
cache has taken its place, which is no configuration. -/
theorem Config.load_after_save {cache : SettingsCache} {disk after : Disk}
    {workingDirectory : Location} {cachePath path : Text} {config config' : Config}
    (saved : cache.save disk workingDirectory cachePath = .ok after)
    (loaded : Config.load disk workingDirectory path = .ok config)
    (again : Config.load after workingDirectory path = .ok config') : config' = config := by
  unfold Config.load at loaded again
  cases read : disk.read workingDirectory path with
  | error cause =>
      rw [read] at loaded
      cases loaded
  | ok text =>
      rcases SettingsCache.read_after_save saved read with same | taken
      · rw [read] at loaded
        rw [same] at again
        exact Except.ok.inj (again.symm.trans loaded)
      · simp only [taken, SettingsCache.parse?_toText_eq_none] at again
        cases again

theorem find?_eq_or_new (candidates : List Text) {before after : Text → Bool}
    (kept : ∀ candidate, before candidate = true → after candidate = true) :
    candidates.find? after = candidates.find? before ∨
      ∃ candidate ∈ candidates, candidates.find? after = some candidate ∧
        before candidate = false ∧ after candidate = true := by
  induction candidates with
  | nil => exact .inl rfl
  | cons candidate rest ih =>
      rw [List.find?_cons, List.find?_cons]
      cases old : before candidate with
      | true =>
          rw [kept candidate old]
          exact .inl rfl
      | false =>
          cases new : after candidate with
          | true => exact .inr ⟨candidate, List.mem_cons_self, rfl, old, new⟩
          | false =>
              rcases ih with same | ⟨found, member, first, absent, here⟩
              · exact .inl same
              · exact .inr ⟨found, List.mem_cons_of_mem _ member, first, absent, here⟩

namespace Command

/-- The working directory and those around it are there. -/
def Environment.Stands (environment : Environment) (disk : Disk) : Prop :=
  ∀ directory ∈ Path.ancestors (locationPath environment.workingDirectory),
    disk.isDirectory [] directory = true

theorem isAbsolute_locationPath (location : Location) : Path.IsAbsolute (locationPath location) := rfl

theorem entry?_after_save {cache : SettingsCache} {disk after : Disk} {workingDirectory : Location}
    {cachePath : Text} (saved : cache.save disk workingDirectory cachePath = .ok after) (path : Text)
    (there : (disk.entry? [] path).isSome) : (after.entry? [] path).isSome := by
  unfold Disk.entry? at there ⊢
  cases led : disk.locate [] path with
  | error cause =>
      rw [led] at there
      cases there
  | ok location =>
      rw [led] at there
      rw [(SettingsCache.keepsDirectories_of_save saved).locate led]
      rcases SettingsCache.get?_of_save saved location with same | ⟨-, made⟩ | file
      · simpa only [same] using there
      · simp only [made, Option.isSome_some]
      · simp only [file, Option.isSome_some]

/-- What has come to stand where a configuration is looked for is none. -/
theorem load_of_new {cache : SettingsCache} {disk after : Disk} {workingDirectory : Location}
    {cachePath path : Text} {location : Location}
    (saved : cache.save disk workingDirectory cachePath = .ok after)
    (led : ∀ start, disk.locate start path = .ok location)
    (absent : (disk.entry? [] path).isSome = false) (there : (after.entry? [] path).isSome)
    (config : Config) : Config.load after workingDirectory path ≠ .ok config := by
  have still := fun start => (SettingsCache.keepsDirectories_of_save saved).locate (led start)
  simp only [Disk.entry?, led, Option.isSome_eq_false_iff, Option.isNone_iff_eq_none] at absent
  simp only [Disk.entry?, still] at there
  intro loaded
  unfold Config.load at loaded
  split at loaded
  · cases loaded
  · next text read =>
      obtain ⟨place, found, held⟩ := Disk.read_eq_ok_iff.1 read
      obtain rfl := Except.ok.inj ((still workingDirectory).symm.trans found)
      rcases SettingsCache.get?_of_save saved location with same | ⟨-, made⟩ | file
      · rw [same, absent] at there
        cases there
      · rw [made] at held
        cases held
      · rw [file] at held
        cases held
        rw [SettingsCache.parse?_toText_eq_none] at loaded
        cases loaded

theorem loadConfig_some_iff {disk : Disk} {environment : Environment} {path : Text}
    {config : Config} :
    loadConfig disk environment (some path) = .ok config ↔
      Config.load disk environment.workingDirectory path = .ok config := by
  rw [loadConfig]
  cases Config.load disk environment.workingDirectory path <;> simp [Except.mapError]

theorem loadConfig_after_save {cache : SettingsCache} {disk after : Disk}
    {environment : Environment} {arguments : Arguments} {cachePath : Text} {config config' : Config}
    (stands : environment.Stands disk)
    (saved : cache.save disk environment.workingDirectory cachePath = .ok after)
    (loaded : loadConfig disk environment (configPath? disk environment arguments) = .ok config)
    (again : loadConfig after environment (configPath? after environment arguments) = .ok config') :
    config' = config := by
  have samePath : ∀ path?, loadConfig disk environment path? = .ok config →
      loadConfig after environment path? = .ok config' → config' = config := by
    intro path? loaded again
    cases path? with
    | none => exact Except.ok.inj (again.symm.trans loaded)
    | some path =>
        exact Config.load_after_save saved (loadConfig_some_iff.1 loaded)
          (loadConfig_some_iff.1 again)
  unfold configPath? at loaded again
  split at loaded
  · next off =>
      rw [if_pos off] at again
      exact samePath none loaded again
  · next on =>
      rw [if_neg on] at again
      cases chosen : arguments.value? .config with
      | some path =>
          simp only [chosen] at loaded again
          exact samePath (some path) loaded again
      | none =>
          simp only [chosen, Config.find?] at loaded again
          have more := find?_eq_or_new
            ((Path.ancestors (locationPath environment.workingDirectory)).map fun around =>
              Path.join around Config.fileName) (entry?_after_save saved)
          rcases more with same | ⟨path, candidate, found, absent, there⟩
          · rw [same] at again
            exact samePath _ loaded again
          · rw [found] at again
            obtain ⟨directory, around, rfl⟩ := List.mem_map.1 candidate
            obtain ⟨location, led⟩ := Disk.locate_join
              (Path.isAbsolute_ancestors (isAbsolute_locationPath _) around) (stands directory around)
              (show '/' ∉ Config.fileName by decide)
            exact absurd (loadConfig_some_iff.1 again) (load_of_new saved led absent there config')

end Command

end DocblockSync
