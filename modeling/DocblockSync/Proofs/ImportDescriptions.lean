import DocblockSync.Proofs.ConfigLookup
import Mathlib.Data.Finset.Card

/-! Importing descriptions into the cache. A file that can be imported is a JSON object of strings; the
cache afterwards is the union in which the imported descriptions win, and the number reported counts
the names for which that makes a difference. To import the same file again changes nothing. -/

namespace DocblockSync.SettingsCache

open Text Json

/-- A text is a JSON object of strings, and these are the descriptions by name. -/
def Describes (text : Text) (known : Text → Option Text) : Prop :=
  ∃ members, parse? text = some (.object members) ∧
    (∀ member ∈ members, ∃ description, member.2 = .string description) ∧
    ∀ name description, known name = some description ↔ (name, .string description) ∈ members

/-- A file cannot be imported: it cannot be read, or it is no JSON, no object, or not of strings. -/
inductive Unimportable (disk : Disk) (workingDirectory : Location) (path : Text) : Prop
  | unreadable {cause : DiskError} (refused : disk.read workingDirectory path = .error cause)
  | malformed {text : Text} (read : disk.read workingDirectory path = .ok text)
      (bad : parse? text = none)
  | notAnObject {text : Text} {value : Json} (read : disk.read workingDirectory path = .ok text)
      (parsed : parse? text = some value) (other : ∀ members, value ≠ .object members)
  | notAString {text : Text} {members : List (Text × Json)} {member : Text × Json}
      (read : disk.read workingDirectory path = .ok text)
      (parsed : parse? text = some (.object members)) (listed : member ∈ members)
      (other : ∀ description, member.2 ≠ .string description)

/-- A cache file is missing, or it holds these descriptions. -/
def Holds (disk : Disk) (workingDirectory : Location) (path : Text)
    (known : Text → Option Text) : Prop :=
  (disk.entry? workingDirectory path = none ∧ ∀ name, known name = none) ∨
    ∃ text, disk.read workingDirectory path = .ok text ∧ Describes text known

theorem exists_strings {members : List (Text × Json)}
    (strings : ∀ member ∈ members, ∃ description, member.2 = .string description) :
    ∃ entries : List (Text × Text), members = entries.map stringMember := by
  induction members with
  | nil => exact ⟨[], rfl⟩
  | cons member rest ih =>
      obtain ⟨entries, same⟩ := ih fun other listed => strings other (List.mem_cons_of_mem _ listed)
      obtain ⟨description, value⟩ := strings member List.mem_cons_self
      exact ⟨(member.1, description) :: entries, by rw [List.map_cons, ← same, stringMember, ← value]⟩

theorem map_fst_stringMember (entries : List (Text × Text)) :
    (entries.map stringMember).map Prod.fst = entries.map Prod.fst := by
  rw [List.map_map]
  rfl

theorem mem_map_stringMember {entries : List (Text × Text)} {name description : Text} :
    (name, .string description) ∈ entries.map stringMember ↔ (name, description) ∈ entries := by
  simp [stringMember]

theorem describes_iff (path : Text) {text : Text} {known : Text → Option Text} :
    Describes text known ↔ ∃ cache, ofText path text = .ok cache ∧ cache.get? = known := by
  constructor
  · rintro ⟨members, parsed, strings, meaning⟩
    obtain ⟨entries, rfl⟩ := exists_strings strings
    have distinct := nodup_of_parse? parsed
    rw [map_fst_stringMember] at distinct
    refine ⟨ofList entries, by simp only [ofText, parsed, ofMembers_strings, Except.map], ?_⟩
    funext name
    apply Option.ext
    intro description
    rw [get?_ofList distinct, ← mem_iff_lookup distinct, meaning, mem_map_stringMember]
  · rintro ⟨cache, read, rfl⟩
    unfold ofText at read
    split at read
    · next members parsed =>
        cases known : ofMembers path members with
        | error failure =>
            rw [known] at read
            cases read
        | ok entries =>
            rw [known] at read
            obtain rfl := Except.ok.inj read
            obtain rfl := eq_strings_of_ofMembers known
            have distinct := nodup_of_parse? parsed
            rw [map_fst_stringMember] at distinct
            refine ⟨_, parsed, ?_, ?_⟩
            · intro member listed
              obtain ⟨entry, -, rfl⟩ := List.mem_map.1 listed
              exact ⟨entry.2, rfl⟩
            · intro name description
              rw [get?_ofList distinct, ← mem_iff_lookup distinct, mem_map_stringMember]
    · cases read
    · cases read

theorem ofMembers_error {path : Text} {members : List (Text × Json)} {error : CacheError}
    (failed : ofMembers path members = .error error) :
    ∃ member ∈ members, ∀ description, member.2 ≠ .string description := by
  by_contra none
  push Not at none
  obtain ⟨entries, rfl⟩ := exists_strings none
  rw [ofMembers_strings] at failed
  cases failed

theorem unimportable_of_error {disk : Disk} {workingDirectory : Location} {path : Text}
    {error : CacheError} (failed : read disk workingDirectory path = .error error) :
    Unimportable disk workingDirectory path := by
  unfold SettingsCache.read at failed
  split at failed
  · next refused => exact .unreadable refused
  · next text read =>
      unfold ofText at failed
      split at failed
      · next members parsed =>
          cases known : ofMembers path members with
          | error failure =>
              obtain ⟨member, listed, other⟩ := ofMembers_error known
              exact .notAString read parsed listed other
          | ok entries =>
              rw [known] at failed
              cases failed
      · next value other parsed => exact .notAnObject read parsed other
      · next bad => exact .malformed read bad

theorem describes_of_read {disk : Disk} {workingDirectory : Location} {path : Text}
    {cache : SettingsCache} (known : read disk workingDirectory path = .ok cache) :
    ∃ text, disk.read workingDirectory path = .ok text ∧ Describes text cache.get? := by
  unfold SettingsCache.read at known
  split at known
  · cases known
  · next text read => exact ⟨text, read, (describes_iff path).2 ⟨cache, known, rfl⟩⟩

theorem get?_load_of_holds {disk : Disk} {workingDirectory : Location} {path : Text}
    {known : Text → Option Text} (holds : Holds disk workingDirectory path known) :
    (load disk workingDirectory path).get? = known := by
  rcases holds with ⟨missing, nothing⟩ | ⟨text, read, describes⟩
  · have refused : ∃ cause, disk.read workingDirectory path = .error cause := by
      cases read : disk.read workingDirectory path with
      | error cause => exact ⟨cause, rfl⟩
      | ok text =>
          obtain ⟨location, led, held⟩ := Disk.read_eq_ok_iff.1 read
          rw [Disk.entry?, led] at missing
          exact absurd (held.symm.trans missing) (by simp)
    obtain ⟨cause, refused⟩ := refused
    funext name
    rw [load, SettingsCache.read, refused, nothing]
    rfl
  · obtain ⟨cache, read', same⟩ := (describes_iff path).1 describes
    rw [load, SettingsCache.read, read]
    simp only [read', same]

theorem exists_changeCount (cache added : SettingsCache) :
    ∃ changed : Finset Text, cache.changeCount added = changed.card ∧
      ∀ name, name ∈ changed ↔
        ∃ description, added.get? name = some description ∧ cache.get? name ≠ some description := by
  let changed := (added.entries.filter fun entry => cache.get? entry.1 != some entry.2).map Prod.fst
  have distinct : changed.Nodup := added.names_nodup.sublist (List.filter_sublist.map Prod.fst)
  refine ⟨changed.toFinset, ?_, fun name => ?_⟩
  · rw [List.toFinset_card_of_nodup distinct, List.length_map, changeCount,
      List.countP_eq_length_filter]
  · simp only [changed, List.mem_toFinset, List.mem_map, List.mem_filter, Prod.exists, mem_iff_get?,
      bne_iff_ne]
    constructor
    · rintro ⟨_, description, listed, rfl⟩
      exact ⟨description, listed⟩
    · rintro ⟨description, listed⟩
      exact ⟨name, description, listed, rfl⟩

theorem merge_of_known {cache added : SettingsCache}
    (known : ∀ name description, added.get? name = some description →
      cache.get? name = some description) : cache.merge added = cache := by
  apply ext_get?
  intro name
  rw [get?_merge]
  cases held : added.get? name with
  | none => rfl
  | some description => rw [known name description held, Option.some_or]

theorem changeCount_of_known {cache added : SettingsCache}
    (known : ∀ name description, added.get? name = some description →
      cache.get? name = some description) : cache.changeCount added = 0 := by
  rw [changeCount, List.countP_eq_zero]
  rintro ⟨name, description⟩ listed
  simpa using known name description ((mem_iff_get? added name description).1 listed)

end DocblockSync.SettingsCache

namespace DocblockSync.Command

open Text SettingsCache

/-- What a run prints ends in a line with the number of descriptions that an import has changed and
the number of all that are in the cache, both in decimal digits. -/
def ReportsImport (result : RunResult) (style : Style) (cachePath : Text) (changed total : Nat) :
    Prop :=
  ∃ opening, result.console.output =
    opening ++ (if style.color then "\x1b[32mImported\x1b[0m".toList else "Imported".toList) ++
      [' '] ++ Nat.toDigits 10 changed ++ " description(s) into ".toList ++ cachePath ++
      " (".toList ++ Nat.toDigits 10 total ++ " total)\n".toList

theorem importDescriptions_error {disk : Disk} {environment : Environment} {cachePath path : Text}
    {cache : SettingsCache} {error : CacheError}
    (failed : SettingsCache.read disk environment.workingDirectory path = .error error) :
    importDescriptions disk environment cachePath path cache = .error error := by
  rw [importDescriptions, failed]
  rfl

theorem importDescriptions_ok {disk after : Disk} {environment : Environment}
    {cachePath path : Text} {cache added : SettingsCache}
    (known : SettingsCache.read disk environment.workingDirectory path = .ok added)
    (saved : (cache.merge added).save disk environment.workingDirectory cachePath = .ok after) :
    importDescriptions disk environment cachePath path cache =
      .ok ⟨after, cache.merge added, cache.changeCount added⟩ := by
  rw [importDescriptions, known]
  simp only [bind, Except.bind, saved]
  rfl

/-- To import what the cache knows into the cache that has been saved changes nothing. -/
theorem importDescriptions_again {disk after : Disk} {environment : Environment}
    {cachePath path : Text} {merged added : SettingsCache}
    (saved : merged.save disk environment.workingDirectory cachePath = .ok after)
    (known : SettingsCache.read disk environment.workingDirectory path = .ok added)
    (within : ∀ name description, added.get? name = some description →
      merged.get? name = some description) :
    importDescriptions after environment cachePath path merged = .ok ⟨after, merged, 0⟩ := by
  -- The file is as it was, unless it is the cache itself.
  obtain ⟨found, readAgain, withinAgain⟩ : ∃ found,
      SettingsCache.read after environment.workingDirectory path = .ok found ∧
      ∀ name description, found.get? name = some description →
        merged.get? name = some description := by
    unfold SettingsCache.read at known ⊢
    split at known
    · cases known
    · next text read =>
        rcases read_after_save saved read with same | taken
        · rw [same]
          exact ⟨added, known, within⟩
        · rw [taken]
          exact ⟨merged, ofText_toText path merged, fun _ _ held => held⟩
  have unchanged := merge_of_known withinAgain
  have savedAgain : (merged.merge found).save after environment.workingDirectory cachePath =
      .ok after := by
    rw [unchanged]
    exact save_again saved
  rw [importDescriptions_ok readAgain savedAgain, unchanged, changeCount_of_known withinAgain]

theorem exists_run_import {disk : Disk} {environment : Environment} {given : List Text}
    {arguments : Arguments} {importPath : Text} {format : OutputFormat} {config : Config}
    (read : Arguments.read given = .ok arguments)
    (asked : arguments.value? .importDescriptions = some importPath) (alone : arguments.paths = [])
    (formatted : outputFormat arguments = .ok format)
    (configured : loadConfig disk environment (configPath? disk environment arguments) =
      .ok config) :
    ∃ console : Console, run disk environment given =
      match importDescriptions disk environment
          ((arguments.value? .settingsCache).getD config.cachePath) importPath
          (load disk environment.workingDirectory
            ((arguments.value? .settingsCache).getD config.cachePath)) with
      | .error error => giveUp environment disk console (.cache error)
      | .ok imported =>
          ⟨0, console.printLine (importLine environment.style
            ((arguments.value? .settingsCache).getD config.cachePath) imported), imported.disk⟩ := by
  simp only [run, read, execute, formatted, configured, runWith, asked, alone, List.isEmpty_nil,
    if_true]
  exact ⟨_, rfl⟩

theorem show_green_imported (style : Style) :
    style.show .green "Imported".toList =
      if style.color then "\x1b[32mImported\x1b[0m".toList else "Imported".toList := by
  cases style with
  | mk color => cases color <;> rfl

theorem reportsImport (console : Console) (style : Style) (cachePath : Text) (imported : Imported) :
    ReportsImport ⟨0, console.printLine (importLine style cachePath imported), imported.disk⟩ style
      cachePath imported.changed imported.cache.size := by
  have closing : " total)\n".toList = " total)".toList ++ ['\n'] := rfl
  refine ⟨console.output, ?_⟩
  rw [Console.printLine, Console.print, importLine, show_green_imported, closing]
  simp only [ofNat, List.append_assoc]

/-- An import without paths. If the file cannot be imported the run fails and the disk stays as it is.
Otherwise the cache file afterwards is the rendering of the union in which the imported descriptions
win, and the number reported is that of the imported names which were unknown or described
differently. A second import of the same file, where the configuration can still be used, reports
none and leaves everything as it is. -/
theorem import_is_union (disk : Disk) (environment : Environment) (given : List Text)
    (arguments : Arguments) (importPath cachePath : Text) (format : OutputFormat) (config : Config)
    (old : Text → Option Text)
    (read : Arguments.read given = .ok arguments)
    (asked : arguments.value? .importDescriptions = some importPath) (alone : arguments.paths = [])
    (formatted : outputFormat arguments = .ok format)
    (configured : loadConfig disk environment (configPath? disk environment arguments) =
      .ok config)
    (place : (arguments.value? .settingsCache).getD config.cachePath = cachePath)
    (holds : Holds disk environment.workingDirectory cachePath old)
    (writable : ∀ cache : SettingsCache, ∃ saved,
      cache.save disk environment.workingDirectory cachePath = .ok saved) :
    let result := run disk environment given
    (Unimportable disk environment.workingDirectory importPath ∧
        result.exitCode = 1 ∧ result.disk = disk) ∨
      ∃ (text : Text) (added : Text → Option Text) (merged : SettingsCache)
          (changed : Finset Text),
        disk.read environment.workingDirectory importPath = .ok text ∧ Describes text added ∧
        (∀ name, merged.get? name = (added name).or (old name)) ∧
        (∀ name, name ∈ changed ↔
          ∃ description, added name = some description ∧ old name ≠ some description) ∧
        result.exitCode = 0 ∧
        result.disk.read environment.workingDirectory cachePath = .ok merged.toText ∧
        ReportsImport result environment.style cachePath changed.card merged.entries.length ∧
        ∀ config', environment.Stands disk →
          loadConfig result.disk environment (configPath? result.disk environment arguments) =
            .ok config' →
          let again := run result.disk environment given
          again.exitCode = 0 ∧ again.disk = result.disk ∧
            ReportsImport again environment.style cachePath 0 merged.entries.length := by
  intro result
  subst place
  obtain ⟨console, first⟩ := exists_run_import read asked alone formatted configured
  have known := get?_load_of_holds holds
  obtain ⟨cache, loaded⟩ : ∃ cache, load disk environment.workingDirectory
      ((arguments.value? .settingsCache).getD config.cachePath) = cache := ⟨_, rfl⟩
  rw [loaded] at first known
  cases imported : SettingsCache.read disk environment.workingDirectory importPath with
  | error error =>
      rw [importDescriptions_error imported] at first
      refine .inl ⟨unimportable_of_error imported, ?_, ?_⟩
      · exact congrArg RunResult.exitCode first
      · exact congrArg RunResult.disk first
  | ok added =>
      obtain ⟨text, textRead, describes⟩ := describes_of_read imported
      obtain ⟨after, saved⟩ := writable (cache.merge added)
      obtain ⟨changed, count, changes⟩ := exists_changeCount cache added
      have within : ∀ name description, added.get? name = some description →
          (cache.merge added).get? name = some description := by
        intro name description held
        rw [get?_merge, held, Option.some_or]
      rw [importDescriptions_ok imported saved] at first
      change result = _ at first
      rw [first]
      refine .inr ⟨text, added.get?, cache.merge added, changed, textRead, describes, ?_, ?_, rfl,
        read_of_save saved, ?_, ?_⟩
      · intro name
        rw [get?_merge, known]
      · intro name
        rw [changes, known]
      · rw [← count]
        exact reportsImport console _ _ _
      · intro config' stands reconfigured again
        obtain rfl := loadConfig_after_save stands saved configured reconfigured
        obtain ⟨reopened, second⟩ := exists_run_import read asked alone formatted reconfigured
        rw [load_of_save saved, importDescriptions_again saved imported within] at second
        change again = _ at second
        rw [second]
        exact ⟨rfl, rfl, reportsImport reopened _ _ ⟨after, cache.merge added, 0⟩⟩

def incomingText : Text := "\x7b\"a\": \"x\", \"b\": \"y\"\x7d".toList

def overlappingFiles : Disk where
  entries :=
    [([['w']], .directory),
      ([['w'], ['c']], .file (.text (ofList [(['a'], ['z']), (['b'], ['y'])]).toText)),
      ([['w'], ['i']], .file (.text incomingText))]

theorem ofText_incomingText :
    ofText [] incomingText = .ok (ofList [(['a'], ['x']), (['b'], ['y'])]) := by
  have known : (ofText [] incomingText).toOption.map SettingsCache.entries =
      some (ofList [(['a'], ['x']), (['b'], ['y'])]).entries := by decide +kernel
  cases read : ofText [] incomingText with
  | error error =>
      rw [read] at known
      cases known
  | ok cache =>
      rw [read] at known
      refine congrArg Except.ok (ext_get? fun name => ?_)
      rw [get?, get?, Option.some.inj known]

theorem get?_incoming (name : Text) :
    ((ofList [(['a'], ['x']), (['b'], ['y'])]).get? name).or
        ((ofList [(['a'], ['z']), (['b'], ['y'])]).get? name) =
      (ofList [(['a'], ['x']), (['b'], ['y'])]).get? name := by
  rw [get?_ofList (by decide), get?_ofList (by decide)]
  by_cases first : name = ['a']
  · subst first
    rfl
  · by_cases second : name = ['b']
    · subst second
      rfl
    · simp [List.lookup_cons, beq_eq_false_iff_ne.2 first, beq_eq_false_iff_ne.2 second]

theorem changes_incoming (name : Text) :
    (∃ description, (ofList [(['a'], ['x']), (['b'], ['y'])]).get? name = some description ∧
        (ofList [(['a'], ['z']), (['b'], ['y'])]).get? name ≠ some description) ↔ name = ['a'] := by
  rw [get?_ofList (by decide), get?_ofList (by decide)]
  by_cases first : name = ['a']
  · subst first
    exact iff_of_true ⟨['x'], rfl, by decide⟩ rfl
  · refine iff_of_false ?_ first
    simp [List.lookup_cons, beq_eq_false_iff_ne.2 first]

theorem import_is_union_overlapping :
    let given := ["--import-descriptions".toList, ['i'], "--settings-cache".toList, ['c']]
    let result := run overlappingFiles ⟨[['w']], ⟨false⟩⟩ given
    let again := run result.disk ⟨[['w']], ⟨false⟩⟩ given
    result.exitCode = 0 ∧
      result.disk.read [['w']] ['c'] = .ok (ofList [(['a'], ['x']), (['b'], ['y'])]).toText ∧
      ReportsImport result ⟨false⟩ ['c'] 1 2 ∧
      again.exitCode = 0 ∧ again.disk = result.disk ∧ ReportsImport again ⟨false⟩ ['c'] 0 2 := by
  intro given result again
  let arguments : Arguments :=
    ⟨[], [], [(.importDescriptions, ['i']), (.settingsCache, ['c'])], none⟩
  have bare : configPath? overlappingFiles ⟨[['w']], ⟨false⟩⟩ arguments = none := by decide +kernel
  have still : configPath? result.disk ⟨[['w']], ⟨false⟩⟩ arguments = none := by decide +kernel
  have union := import_is_union overlappingFiles ⟨[['w']], ⟨false⟩⟩ given arguments
    ['i'] ['c'] .text {} (ofList [(['a'], ['z']), (['b'], ['y'])]).get?
    (by decide +kernel) rfl rfl rfl (by rw [bare]; rfl) rfl
    (.inr ⟨_, by rfl, (describes_iff []).2 ⟨_, ofText_toText [] _, rfl⟩⟩)
    (fun cache => ⟨_, rfl⟩)
  have stands : Environment.Stands ⟨[['w']], ⟨false⟩⟩ overlappingFiles := by
    unfold Environment.Stands
    decide +kernel
  have ended : result.exitCode = 0 := by decide +kernel
  rcases union with ⟨-, failed, -⟩ |
    ⟨text, added, merged, changed, read, describes, meaning, changes, -, written, reports, again⟩
  · exact absurd (ended.symm.trans failed) (by decide)
  · obtain rfl : incomingText = text := Except.ok.inj read
    obtain ⟨found, known, rfl⟩ := (describes_iff []).1 describes
    obtain rfl := Except.ok.inj (ofText_incomingText.symm.trans known)
    obtain rfl : merged = ofList [(['a'], ['x']), (['b'], ['y'])] :=
      ext_get? fun name => (meaning name).trans (get?_incoming name)
    obtain rfl : changed = {['a']} := Finset.ext fun name => by
      rw [changes, changes_incoming, Finset.mem_singleton]
    obtain ⟨endedAgain, unchanged, none⟩ := again {} stands (by rw [still]; rfl)
    exact ⟨ended, written, reports, endedAgain, unchanged, none⟩

end DocblockSync.Command
