import DocblockSync.Command.Run
import DocblockSync.Proofs.SelectedFiles

/-! Checking and fixing. What becomes of each file is settled from the disk as the run finds it, so a
file is written to the same text however often and in whatever order it is visited. A run that fixes
leaves the disk as it was but for the new texts of the files that need changes; a run that checks
leaves it as it was. Both report the same results. -/

namespace DocblockSync.Command

open Text

theorem edits_ne_nil_of_processSource {source : Text} {options : Options}
    {descriptions : Descriptions} {line : Option Nat} {changes : Changes}
    (found : processSource source options descriptions line = .ok (some changes)) :
    changes.edits ≠ [] := by
  unfold processSource at found
  cases edits : (editsFor source options descriptions line).mapError ProcessError.generate with
  | error error =>
      rw [edits] at found
      cases found
  | ok edits =>
      simp only [edits, bind, Except.bind] at found
      split at found
      · cases found
      · next some =>
          split at found
          · cases found
          · cases found
            intro none
            have length := congrArg List.length none
            simp only [List.length_mergeSort, List.length_map, List.length_nil,
              List.length_eq_zero_iff] at length
            exact some (by rw [length]; rfl)

/-- What is reported for an outcome, if what is to be written can be written. -/
def fileResult : Text × FileOutcome → FileResult
  | (path, .upToDate) => { path }
  | (path, .failed message) => { path, error := some message }
  | (path, .changed _ changes) => { path, edits := changes.edits }

def Reporting.tell (reporting : Reporting) (console : Console) : Text × FileOutcome → Console
  | (path, .upToDate) => reporting.upToDate console path
  | (path, .failed message) => reporting.failed console path message
  | (path, .changed source changes) =>
      if reporting.fix then reporting.written console path changes
      else reporting.check console path source changes

section Files

variable (disk : Disk) (environment : Environment) (documenting : Documenting)

/-- A file cannot be read or documented. -/
def Fails (path : Text) : Prop :=
  (∃ cause, disk.read environment.workingDirectory path = .error cause) ∨
    ∃ source error, disk.read environment.workingDirectory path = .ok source ∧
      processSource source documenting.config.options documenting.cache.descriptions
        documenting.line = .error error

/-- A file has edits, and these are the changes to it. -/
def Needs (path : Text) (changes : Changes) : Prop :=
  ∃ source, disk.read environment.workingDirectory path = .ok source ∧
    processSource source documenting.config.options documenting.cache.descriptions
      documenting.line = .ok (some changes) ∧ changes.edits ≠ []

/-- The text that documenting gives to the file at a location, if it changes the file. -/
def newText? (location : Location) : Option Text :=
  match disk.get? location with
  | some (.file (.text source)) =>
      match processSource source documenting.config.options documenting.cache.descriptions
          documenting.line with
      | .ok (some changes) => some changes.newSource
      | _ => none
  | _ => none

/-- The texts that are written once some paths have been visited, if files are to be fixed. -/
def written (fix : Bool) (visited : List Text) (location : Location) : Option Text :=
  if fix = true ∧
      ∃ path ∈ visited, disk.locate environment.workingDirectory path = .ok location then
    newText? disk documenting location
  else none

variable {disk environment documenting}

theorem onFiles_written (fix : Bool) (visited : List Text) :
    disk.OnFiles (written disk environment documenting fix visited) := by
  intro location text given
  unfold written at given
  split at given
  · unfold newText? at given
    split at given
    · next held => exact ⟨_, held⟩
    · cases given
  · cases given

theorem written_of_check (visited : List Text) :
    written disk environment documenting false visited = fun _ => none := by
  funext location
  simp [written]

theorem written_congr {fix : Bool} {visited others : List Text} {location : Location}
    (same : (∃ path ∈ visited, disk.locate environment.workingDirectory path = .ok location) ↔
      ∃ path ∈ others, disk.locate environment.workingDirectory path = .ok location) :
    written disk environment documenting fix visited location =
      written disk environment documenting fix others location :=
  if_congr (and_congr_right fun _ => same) rfl rfl

theorem written_visit_apart {fix : Bool} {visited : List Text} {path : Text}
    {location : Location}
    (apart : disk.locate environment.workingDirectory path ≠ .ok location) :
    written disk environment documenting fix (visited ++ [path]) location =
      written disk environment documenting fix visited location := by
  apply written_congr
  constructor
  · rintro ⟨other, member, led⟩
    rcases List.mem_append.1 member with earlier | last
    · exact ⟨other, earlier, led⟩
    · rw [List.mem_singleton.1 last] at led
      exact absurd led apart
  · rintro ⟨other, member, led⟩
    exact ⟨other, List.mem_append_left _ member, led⟩

theorem written_visit_of_none {fix : Bool} {visited : List Text} {path : Text}
    (kept : ∀ location, disk.locate environment.workingDirectory path = .ok location →
      newText? disk documenting location = none) :
    written disk environment documenting fix (visited ++ [path]) =
      written disk environment documenting fix visited := by
  funext location
  by_cases led : disk.locate environment.workingDirectory path = .ok location
  · simp [written, kept location led]
  · exact written_visit_apart led

theorem written_visit {visited : List Text} {path text : Text} {location : Location}
    (led : disk.locate environment.workingDirectory path = .ok location)
    (new : newText? disk documenting location = some text) :
    written disk environment documenting true (visited ++ [path]) =
      Function.update (written disk environment documenting true visited) location
        (some text) := by
  funext other
  by_cases here : other = location
  · subst here
    rw [Function.update_self, written, if_pos ⟨rfl, path, by simp, led⟩, new]
  · rw [Function.update_of_ne here]
    apply written_visit_apart
    rw [led]
    exact fun same => here (Except.ok.inj same).symm

theorem documentFile_eq_changed_iff {path source : Text} {changes : Changes} :
    documentFile disk environment documenting path = .changed source changes ↔
      disk.read environment.workingDirectory path = .ok source ∧
        processSource source documenting.config.options documenting.cache.descriptions
          documenting.line = .ok (some changes) := by
  unfold documentFile
  cases disk.read environment.workingDirectory path with
  | error cause => simp
  | ok text =>
      simp only [Except.ok.injEq]
      split
      · next failed =>
          refine iff_of_false (by simp) ?_
          rintro ⟨rfl, found⟩
          rw [failed] at found
          cases found
      · next fresh =>
          refine iff_of_false (by simp) ?_
          rintro ⟨rfl, found⟩
          rw [fresh] at found
          cases found
      · next other found =>
          rw [FileOutcome.changed.injEq]
          refine and_congr_right ?_
          rintro rfl
          simp [found]

theorem exists_failed_iff {path : Text} :
    (∃ message, documentFile disk environment documenting path = .failed message) ↔
      Fails disk environment documenting path := by
  unfold documentFile Fails
  cases disk.read environment.workingDirectory path with
  | error cause => simp
  | ok source =>
      simp only [reduceCtorEq, exists_false, Except.ok.injEq, false_or, exists_and_left,
        exists_eq_left']
      split
      · next error failed => simp [failed]
      · next fresh => simp [fresh]
      · next changes found => simp [found]

theorem exists_changed_iff {path : Text} {changes : Changes} :
    (∃ source, documentFile disk environment documenting path = .changed source changes) ↔
      Needs disk environment documenting path changes := by
  constructor
  · rintro ⟨source, settled⟩
    obtain ⟨read, found⟩ := documentFile_eq_changed_iff.1 settled
    exact ⟨source, read, found, edits_ne_nil_of_processSource found⟩
  · rintro ⟨source, read, found, -⟩
    exact ⟨source, documentFile_eq_changed_iff.2 ⟨read, found⟩⟩

theorem newText?_eq_some_iff {location : Location} {text : Text} :
    newText? disk documenting location = some text ↔
      ∃ source changes, disk.get? location = some (.file (.text source)) ∧
        processSource source documenting.config.options documenting.cache.descriptions
          documenting.line = .ok (some changes) ∧ changes.newSource = text := by
  unfold newText?
  split
  · next source held =>
      split
      · next changes found => simp [held, found]
      · next other =>
          refine iff_of_false (by simp) ?_
          rintro ⟨text, changes, same, found, -⟩
          rw [held] at same
          cases same
          exact other changes found
  · next other =>
      refine iff_of_false (by simp) ?_
      rintro ⟨text, changes, same, -⟩
      exact other text same

theorem Needs.not_fails {path : Text} {changes : Changes}
    (needs : Needs disk environment documenting path changes) :
    ¬Fails disk environment documenting path := by
  obtain ⟨source, read, found, -⟩ := needs
  rintro (⟨cause, failed⟩ | ⟨other, error, again, failed⟩)
  · rw [read] at failed
    cases failed
  · cases read.symm.trans again
    rw [found] at failed
    cases failed

theorem needs_iff {path : Text} {location : Location}
    (led : disk.locate environment.workingDirectory path = .ok location) {text : Text} :
    newText? disk documenting location = some text ↔
      ∃ changes, Needs disk environment documenting path changes ∧ changes.newSource = text := by
  have read : ∀ source, disk.read environment.workingDirectory path = .ok source ↔
      disk.get? location = some (.file (.text source)) := by
    intro source
    rw [Disk.read_eq_ok_iff]
    simp [led]
  rw [newText?_eq_some_iff]
  constructor
  · rintro ⟨source, changes, held, found, same⟩
    exact ⟨changes, ⟨source, (read source).2 held, found, edits_ne_nil_of_processSource found⟩, same⟩
  · rintro ⟨changes, ⟨source, held, found, -⟩, same⟩
    exact ⟨source, changes, (read source).1 held, found, same⟩

theorem written_visit_of_unchanged {fix : Bool} {visited : List Text} {path : Text}
    (unchanged : ∀ source changes,
      documentFile disk environment documenting path ≠ .changed source changes) :
    written disk environment documenting fix (visited ++ [path]) =
      written disk environment documenting fix visited := by
  apply written_visit_of_none
  intro location led
  rw [Option.eq_none_iff_forall_ne_some]
  intro text new
  obtain ⟨changes, needs, -⟩ := (needs_iff led).1 new
  obtain ⟨source, settled⟩ := exists_changed_iff.2 needs
  exact unchanged source changes settled

theorem write_overwrite {visited : List Text} {path source : Text} {changes : Changes}
    (settled : documentFile disk environment documenting path = .changed source changes) :
    (disk.overwrite (written disk environment documenting true visited)).write
        environment.workingDirectory path changes.newSource =
      .ok (disk.overwrite (written disk environment documenting true (visited ++ [path]))) := by
  have files : disk.OnFiles (written disk environment documenting true visited) :=
    onFiles_written true visited
  obtain ⟨location, led, held⟩ := Disk.read_eq_ok_iff.1 (documentFile_eq_changed_iff.1 settled).1
  have new := (needs_iff led).2 ⟨changes, exists_changed_iff.1 ⟨source, settled⟩, rfl⟩
  refine Disk.write_eq_ok_iff.2 ⟨location, (Disk.keepsDirectories_overwrite files).locate led, ?_, ?_⟩
  · rw [Disk.get?_overwrite files]
    split
    · simp
    · simp [held]
  · rw [Disk.put_overwrite _ held, written_visit led new]

variable (disk environment documenting)

def progressAfter (reporting : Reporting) (opening : Console)
    (settled : List (Text × FileOutcome)) : Progress where
  disk := disk.overwrite
    (written disk environment documenting reporting.fix (settled.map Prod.fst))
  console := settled.foldl reporting.tell opening
  results := settled.map fileResult

variable {disk environment documenting}

theorem report_progressAfter (reporting : Reporting) (opening : Console)
    (before : List (Text × FileOutcome)) (path : Text) :
    (progressAfter disk environment documenting reporting opening before).report environment
        reporting (path, documentFile disk environment documenting path) =
      progressAfter disk environment documenting reporting opening
        (before ++ [(path, documentFile disk environment documenting path)]) := by
  unfold progressAfter
  simp only [List.map_append, List.map_singleton, List.foldl_append, List.foldl_cons, List.foldl_nil]
  cases settled : documentFile disk environment documenting path with
  | upToDate =>
      rw [written_visit_of_unchanged (by simp [settled])]
      rfl
  | failed message =>
      rw [written_visit_of_unchanged (by simp [settled])]
      rfl
  | changed source changes =>
      cases fixes : reporting.fix with
      | false => simp [Progress.report, Reporting.tell, fileResult, fixes, written_of_check]
      | true => simp [Progress.report, Reporting.tell, fileResult, fixes, write_overwrite settled]

theorem foldl_report (reporting : Reporting) (opening : Console)
    {settled : List (Text × FileOutcome)}
    (genuine : ∀ entry ∈ settled, entry.2 = documentFile disk environment documenting entry.1)
    (before : List (Text × FileOutcome)) :
    settled.foldl (Progress.report environment reporting)
        (progressAfter disk environment documenting reporting opening before) =
      progressAfter disk environment documenting reporting opening (before ++ settled) := by
  induction settled generalizing before with
  | nil => rw [List.foldl_nil, List.append_nil]
  | cons entry rest ih =>
      have same : entry = (entry.1, documentFile disk environment documenting entry.1) :=
        Prod.ext rfl (genuine entry List.mem_cons_self)
      rw [List.foldl_cons, same, report_progressAfter,
        ih fun other member => genuine other (List.mem_cons_of_mem _ member), List.append_assoc,
        List.singleton_append]

variable (disk environment documenting)

def selectedFiles (paths : List Text) : List Text :=
  paths.flatMap (selectedBy disk environment documenting.config)

/-- The outcomes of a run: one for each selected file. -/
structure Settles (paths : List Text) (settled : List (Text × FileOutcome)) : Prop where
  paths_perm : (settled.map Prod.fst).Perm (selectedFiles disk environment documenting paths)
  genuine : ∀ entry ∈ settled, entry.2 = documentFile disk environment documenting entry.1

variable {disk environment documenting} in
theorem mem_selectedFiles_iff {paths : List Text} {found : Text} :
    found ∈ selectedFiles disk environment documenting paths ↔
      ∃ path ∈ paths, Selects disk environment documenting.config path found := by
  simp only [selectedFiles, List.mem_flatMap, mem_selectedBy_iff]

theorem settles_outcomes (paths : List Text) :
    Settles disk environment documenting paths (outcomes disk environment documenting paths) := by
  have perm : (outcomes disk environment documenting paths).Perm
      ((selectedFiles disk environment documenting paths).map fun path =>
        (path, documentFile disk environment documenting path)) := List.mergeSort_perm _ _
  constructor
  · have names := perm.map Prod.fst
    rw [List.map_map] at names
    exact names.trans (.of_eq (List.map_id _))
  · intro entry member
    obtain ⟨path, -, rfl⟩ := List.mem_map.1 (perm.mem_iff.1 member)
    rfl

variable {disk environment documenting}

theorem error_fileResult_iff {path : Text} :
    (fileResult (path, documentFile disk environment documenting path)).error.isSome = true ↔
      Fails disk environment documenting path := by
  rw [← exists_failed_iff]
  cases documentFile disk environment documenting path <;> simp [fileResult]

theorem edits_fileResult_iff {path : Text} :
    (!(fileResult (path, documentFile disk environment documenting path)).edits.isEmpty) = true ↔
      ∃ changes, Needs disk environment documenting path changes := by
  simp only [← exists_changed_iff]
  cases settled : documentFile disk environment documenting path with
  | upToDate => simp [fileResult]
  | failed message => simp [fileResult]
  | changed source changes =>
      obtain ⟨_, -, -, some⟩ := exists_changed_iff.1 ⟨source, settled⟩
      simpa [fileResult] using some

namespace Settles

variable {paths : List Text} {settled : List (Text × FileOutcome)}
  (settles : Settles disk environment documenting paths settled)
include settles

theorem countP_pos_iff {counts : FileResult → Bool} {holds : Text → Prop}
    (same : ∀ path, counts (fileResult (path, documentFile disk environment documenting path)) =
      true ↔ holds path) :
    0 < (settled.map fileResult).countP counts ↔
      ∃ path ∈ selectedFiles disk environment documenting paths, holds path := by
  rw [List.countP_pos_iff]
  constructor
  · rintro ⟨result, member, counted⟩
    obtain ⟨entry, listed, rfl⟩ := List.mem_map.1 member
    refine ⟨entry.1, settles.paths_perm.mem_iff.1 (List.mem_map_of_mem listed), ?_⟩
    rw [← same, ← settles.genuine entry listed]
    exact counted
  · rintro ⟨path, member, held⟩
    obtain ⟨entry, listed, rfl⟩ := List.mem_map.1 (settles.paths_perm.mem_iff.2 member)
    refine ⟨fileResult entry, List.mem_map_of_mem listed, ?_⟩
    rw [← same, ← settles.genuine entry listed] at held
    exact held

theorem errors_pos_iff :
    0 < (Summary.ofResults (settled.map fileResult)).errors ↔
      ∃ path ∈ selectedFiles disk environment documenting paths,
        Fails disk environment documenting path :=
  settles.countP_pos_iff fun _ => error_fileResult_iff

theorem filesWithChanges_pos_iff :
    0 < (Summary.ofResults (settled.map fileResult)).filesWithChanges ↔
      ∃ path ∈ selectedFiles disk environment documenting paths,
        ∃ changes, Needs disk environment documenting path changes :=
  settles.countP_pos_iff fun _ => edits_fileResult_iff

theorem exitCode_eq_one_iff (reporting : Reporting) :
    reporting.exitCode (settled.map fileResult) = 1 ↔
      ∃ path ∈ selectedFiles disk environment documenting paths,
        Fails disk environment documenting path := by
  rw [← settles.errors_pos_iff, Reporting.exitCode]
  split
  · next failed => simpa using failed
  · next none =>
      refine iff_of_false ?_ none
      split <;> decide

theorem exitCode_of_check {reporting : Reporting} (checks : reporting.fix = false)
    (succeeds : ¬∃ path ∈ selectedFiles disk environment documenting paths,
      Fails disk environment documenting path) :
    reporting.exitCode (settled.map fileResult) =
      if 0 < (Summary.ofResults (settled.map fileResult)).filesWithChanges then 2 else 0 := by
  rw [← settles.errors_pos_iff] at succeeds
  simp [Reporting.exitCode, succeeds, checks]

theorem written_eq (fix : Bool) :
    written disk environment documenting fix (settled.map Prod.fst) =
      written disk environment documenting fix
        (selectedFiles disk environment documenting paths) := by
  funext location
  apply written_congr
  simp only [settles.paths_perm.mem_iff]

end Settles

variable (disk environment documenting) in
/-- Documenting paths: what is reported is settled by the disk as it was, and what is written by the
set of the selected files. -/
theorem exists_documentPaths_eq (reporting : Reporting) (paths : List Text) (console : Console) :
    ∃ opening settled, Settles disk environment documenting paths settled ∧
      documentPaths disk environment reporting documenting paths console =
        { exitCode := reporting.exitCode (settled.map fileResult)
          console :=
            reporting.finish (settled.foldl reporting.tell opening) (settled.map fileResult)
          disk := disk.overwrite (written disk environment documenting reporting.fix
            (selectedFiles disk environment documenting paths)) } := by
  have settles := settles_outcomes disk environment documenting paths
  have start : ∀ opening, (⟨disk, opening, []⟩ : Progress) =
      progressAfter disk environment documenting reporting opening [] := by
    intro opening
    have nothing : written disk environment documenting reporting.fix [] = fun _ => none := by
      funext location
      simp [written]
    rw [progressAfter, List.map_nil, nothing, Disk.overwrite_none]
    rfl
  rw [documentPaths, ← settles.written_eq]
  simp only [start, foldl_report reporting _ settles.genuine, List.nil_append]
  exact ⟨_, _, settles, rfl⟩

theorem read_fixed {visited : List Text} {path : Text} (member : path ∈ visited) {changes : Changes}
    (needs : Needs disk environment documenting path changes) :
    (disk.overwrite (written disk environment documenting true visited)).read
      environment.workingDirectory path = .ok changes.newSource := by
  have files : disk.OnFiles (written disk environment documenting true visited) :=
    onFiles_written true visited
  obtain ⟨source, read, -⟩ := id needs
  obtain ⟨location, led, -⟩ := Disk.read_eq_ok_iff.1 read
  refine Disk.read_eq_ok_iff.2 ⟨location, (Disk.keepsDirectories_overwrite files).locate led, ?_⟩
  rw [Disk.get?_overwrite files, written, if_pos ⟨rfl, path, member, led⟩,
    (needs_iff led).2 ⟨changes, needs, rfl⟩]

theorem get?_fixed {visited : List Text} {location : Location}
    (other : ∀ path ∈ visited, ∀ changes, Needs disk environment documenting path changes →
      disk.locate environment.workingDirectory path ≠ .ok location) :
    (disk.overwrite (written disk environment documenting true visited)).get? location =
      disk.get? location := by
  rw [Disk.get?_overwrite (onFiles_written true visited)]
  split
  · next text new =>
      unfold written at new
      split at new
      · next visit =>
          obtain ⟨-, path, member, led⟩ := visit
          obtain ⟨changes, needs, -⟩ := (needs_iff led).1 new
          exact absurd led (other path member changes needs)
      · cases new
  · rfl

end Files

/-- Arguments that ask for files to be documented as a whole: no line is singled out, and nothing is
imported. -/
structure Arguments.DocumentsFiles (arguments : Arguments) (format : OutputFormat) : Prop where
  line : arguments.line = none
  importDescriptions : arguments.value? .importDescriptions = none
  format : outputFormat arguments = .ok format

/-- Arguments with the same paths, in whatever order and however often, and with the same
configuration and cache. -/
structure Arguments.SameInputs (arguments other : Arguments) : Prop where
  paths : ∀ path, path ∈ arguments.paths ↔ path ∈ other.paths
  noConfig : arguments.has .noConfig = other.has .noConfig
  config : arguments.value? .config = other.value? .config
  settingsCache : arguments.value? .settingsCache = other.value? .settingsCache

def documentingOf (disk : Disk) (environment : Environment) (arguments : Arguments)
    (config : Config) : Documenting where
  config := config
  cache := SettingsCache.load disk environment.workingDirectory
    ((arguments.value? .settingsCache).getD config.cachePath)
  line := none

def reportingOf (environment : Environment) (arguments : Arguments) (format : OutputFormat) :
    Reporting where
  format := format
  verbose := arguments.has .verbose
  style := environment.style
  fix := arguments.has .fix

theorem exists_run_documents {disk : Disk} {environment : Environment} {given : List Text}
    {arguments : Arguments} {format : OutputFormat} {config : Config}
    (read : Arguments.read given = .ok arguments) (documents : arguments.DocumentsFiles format)
    (configured : loadConfig disk environment (configPath? disk environment arguments) =
      .ok config)
    (valid : config.options.validate = .ok ()) :
    ∃ console, run disk environment given =
      documentPaths disk environment (reportingOf environment arguments format)
        (documentingOf disk environment arguments config) arguments.paths console := by
  simp only [run, read, execute, documents.format, configured, runWith,
    documents.importDescriptions, runPaths, valid, targetLine, documents.line]
  exact ⟨_, rfl⟩

section SameInputs

variable {disk : Disk} {environment : Environment} {arguments other : Arguments} {config : Config}
  (same : arguments.SameInputs other)
include same

theorem Arguments.SameInputs.configPath? :
    configPath? disk environment other = configPath? disk environment arguments := by
  simp only [Command.configPath?, same.noConfig, same.config]

theorem Arguments.SameInputs.documentingOf :
    documentingOf disk environment other config = documentingOf disk environment arguments config := by
  simp only [Command.documentingOf, same.settingsCache]

theorem Arguments.SameInputs.mem_selectedFiles {documenting : Documenting} {path : Text} :
    path ∈ selectedFiles disk environment documenting other.paths ↔
      path ∈ selectedFiles disk environment documenting arguments.paths := by
  simp only [selectedFiles, List.mem_flatMap, same.paths]

theorem Arguments.SameInputs.written_eq {documenting : Documenting} (fix : Bool) :
    written disk environment documenting fix
        (selectedFiles disk environment documenting other.paths) =
      written disk environment documenting fix
        (selectedFiles disk environment documenting arguments.paths) := by
  funext location
  apply written_congr
  simp only [same.mem_selectedFiles]

end SameInputs

def bareSource : Text := "<?php\nfunction f() \x7b\x7d\n".toList

def documentedSource : Text :=
  "<?php\n/**\n * function f\n *\n * @return void\n */\nfunction f() \x7b\x7d\n".toList

/-- A directory with a source that lacks a docblock, a file that is not selected, and a source whose
bytes are no text. -/
def mixedFiles : Disk where
  entries :=
    [([['w']], .directory),
      ([['w'], ['s']], .directory),
      ([['w'], ['s'], "a.php".toList], .file (.text bareSource)),
      ([['w'], ['s'], "b.txt".toList], .file (.text bareSource)),
      ([['w'], ['s'], "c.php".toList], .file (.binary [255]))]

end DocblockSync.Command
