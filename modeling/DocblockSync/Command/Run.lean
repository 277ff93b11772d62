import DocblockSync.Command.Arguments
import DocblockSync.Command.Report
import DocblockSync.Config
import DocblockSync.Settings.Cache

/-! A run of the command: from the files on disk and the arguments to what is printed, the exit code
and the files afterwards. The outcomes of all files are settled before any of them is written. -/

namespace DocblockSync.Command

open Text

structure RunResult where
  exitCode : Nat
  console : Console
  disk : Disk
  deriving Repr, DecidableEq

inductive RunError where
  | unknownFormat (name : Text)
  | config (error : ConfigError)
  | cache (error : CacheError)
  | options (error : GenerateError)
  | lineZero
  | lineNeedsFile

def RunError.message : RunError → Text
  | .unknownFormat name =>
      "Invalid output format '".toList ++ name ++ "'. Valid options: text, json, diff".toList
  | .config error => error.message
  | .cache error => error.message
  | .options error => "Invalid [settings] configuration: ".toList ++ error.message
  | .lineZero => "--line is 1-based; 0 is not a valid line".toList
  | .lineNeedsFile => "--line requires exactly one file path".toList

structure Environment where
  workingDirectory : Location
  style : Style
  deriving Repr, DecidableEq

def locationPath (location : Location) : Text := '/' :: joinWith ['/'] location

def outputFormat (arguments : Arguments) : Except RunError OutputFormat :=
  if arguments.has .json then .ok .json
  else
    let name := (arguments.value? .format).getD "text".toList
    match OutputFormat.ofName? name with
    | some format => .ok format
    | none => .error (.unknownFormat name)

def configPath? (disk : Disk) (environment : Environment) (arguments : Arguments) : Option Text :=
  if arguments.has .noConfig then none
  else
    match arguments.value? .config with
    | some path => some path
    | none => Config.find? disk (locationPath environment.workingDirectory)

def loadConfig (disk : Disk) (environment : Environment) :
    Option Text → Except RunError Config
  | some path => (Config.load disk environment.workingDirectory path).mapError .config
  | none => .ok {}

structure Imported where
  disk : Disk
  cache : SettingsCache
  changed : Nat

def importDescriptions (disk : Disk) (environment : Environment) (cachePath path : Text)
    (cache : SettingsCache) : Except CacheError Imported := do
  let added ← SettingsCache.read disk environment.workingDirectory path
  let merged := cache.merge added
  let disk ← merged.save disk environment.workingDirectory cachePath
  return { disk, cache := merged, changed := cache.changeCount added }

def importLine (style : Style) (cachePath : Text) (imported : Imported) : Text :=
  style.show .green "Imported".toList ++ [' '] ++ ofNat imported.changed ++
    " description(s) into ".toList ++ cachePath ++ " (".toList ++ ofNat imported.cache.size ++
    " total)".toList

def targetLine (disk : Disk) (environment : Environment) (arguments : Arguments) :
    Except RunError (Option Nat) :=
  match arguments.line with
  | none => .ok none
  | some 0 => .error .lineZero
  | some (line + 1) =>
      match arguments.paths with
      | [path] =>
          if disk.isFile environment.workingDirectory path then .ok (some line)
          else .error .lineNeedsFile
      | _ => .error .lineNeedsFile

/-- The files that a path selects: itself, or the sources below a directory that are not excluded. -/
def selectedBy (disk : Disk) (environment : Environment) (config : Config) (path : Text) :
    List Text :=
  if disk.isFile environment.workingDirectory path then [path]
  else if disk.isDirectory environment.workingDirectory path then
    (disk.walk environment.workingDirectory path).filter fun found =>
      Path.extension? found == some "php".toList && !config.excludes found
  else []

structure Documenting where
  config : Config
  cache : SettingsCache
  line : Option Nat

def documentFile (disk : Disk) (environment : Environment) (documenting : Documenting)
    (path : Text) : FileOutcome :=
  match disk.read environment.workingDirectory path with
  | .error cause =>
      .failed ("Failed to read file: ".toList ++ path ++ ": ".toList ++ cause.message)
  | .ok source =>
      match processSource source documenting.config.options documenting.cache.descriptions
          documenting.line with
      | .error error =>
          .failed ("Failed to document ".toList ++ path ++ ": ".toList ++ error.message)
      | .ok none => .upToDate
      | .ok (some changes) => .changed source changes

/-- The outcomes of all selected files, in the order of their paths. -/
def outcomes (disk : Disk) (environment : Environment) (documenting : Documenting)
    (paths : List Text) : List (Text × FileOutcome) :=
  let selected := paths.flatMap (selectedBy disk environment documenting.config)
  (selected.map fun path => (path, documentFile disk environment documenting path)).mergeSort
    fun a b => Path.le a.1 b.1

structure Progress where
  disk : Disk
  console : Console
  results : List FileResult := []

namespace Progress

def failed (progress : Progress) (reporting : Reporting) (path message : Text) : Progress where
  disk := progress.disk
  console := reporting.failed progress.console path message
  results := progress.results ++ [{ path, error := some message }]

/-- Reports the outcome of a file, and writes the file if that is asked for. -/
def report (environment : Environment) (reporting : Reporting) (progress : Progress) :
    Text × FileOutcome → Progress
  | (path, .upToDate) =>
      { progress with
        console := reporting.upToDate progress.console path
        results := progress.results ++ [{ path }] }
  | (path, .failed message) => progress.failed reporting path message
  | (path, .changed source changes) =>
      if reporting.fix then
        match progress.disk.write environment.workingDirectory path changes.newSource with
        | .ok disk =>
            { disk
              console := reporting.written progress.console path changes
              results := progress.results ++ [{ path, edits := changes.edits }] }
        | .error cause =>
            progress.failed reporting path
              ("Failed to write file: ".toList ++ path ++ ": ".toList ++ cause.message)
      else
        { progress with
          console := reporting.check progress.console path source changes
          results := progress.results ++ [{ path, edits := changes.edits }] }

end Progress

def setupLines (reporting : Reporting) (cachePath : Text) (documenting : Documenting) : List Text :=
  [reporting.labelled .bold "Mode" (if reporting.fix then "fix".toList else "check".toList),
    reporting.labelled .bold "Settings functions"
      (joinWith ", ".toList documenting.config.options.settingsFunctions),
    reporting.labelled .bold "Settings cache"
      (cachePath ++ " (".toList ++ ofNat documenting.cache.size ++ " descriptions)".toList),
    []]

def explains (reporting : Reporting) : Bool := reporting.verbose && reporting.format == .text

def giveUp (environment : Environment) (disk : Disk) (console : Console) (error : RunError) :
    RunResult where
  exitCode := 1
  console :=
    console.warn (environment.style.show .red "Error".toList ++ ": ".toList ++ error.message)
  disk := disk

def documentPaths (disk : Disk) (environment : Environment) (reporting : Reporting)
    (documenting : Documenting) (paths : List Text) (console : Console) : RunResult :=
  let settled := outcomes disk environment documenting paths
  let missing := paths.filter fun path => (disk.entry? environment.workingDirectory path).isNone
  let console :=
    missing.foldl (fun console path =>
      reporting.warning console ("Path does not exist: ".toList ++ path)) console
  let progress := settled.foldl (Progress.report environment reporting) { disk, console }
  { exitCode := reporting.exitCode progress.results
    console := reporting.finish progress.console progress.results
    disk := progress.disk }

def runPaths (disk : Disk) (environment : Environment) (reporting : Reporting) (config : Config)
    (cachePath : Text) (cache : SettingsCache) (arguments : Arguments) (console : Console) :
    RunResult :=
  match config.options.validate with
  | .error error => giveUp environment disk console (.options error)
  | .ok _ =>
      match targetLine disk environment arguments with
      | .error error => giveUp environment disk console error
      | .ok line =>
          let documenting : Documenting := { config, cache, line }
          let console :=
            if explains reporting then
              console.printLines (setupLines reporting cachePath documenting)
            else console
          documentPaths disk environment reporting documenting arguments.paths console

def runWith (disk : Disk) (environment : Environment) (reporting : Reporting) (config : Config)
    (arguments : Arguments) (console : Console) : RunResult :=
  let cachePath := (arguments.value? .settingsCache).getD config.cachePath
  let cache := SettingsCache.load disk environment.workingDirectory cachePath
  match arguments.value? .importDescriptions with
  | none => runPaths disk environment reporting config cachePath cache arguments console
  | some path =>
      match importDescriptions disk environment cachePath path cache with
      | .error error => giveUp environment disk console (.cache error)
      | .ok imported =>
          let console := console.printLine (importLine environment.style cachePath imported)
          if arguments.paths.isEmpty then ⟨0, console, imported.disk⟩
          else
            runPaths imported.disk environment reporting config cachePath imported.cache arguments
              console

def execute (disk : Disk) (environment : Environment) (arguments : Arguments) : RunResult :=
  match outputFormat arguments with
  | .error error => giveUp environment disk {} error
  | .ok format =>
      let reporting : Reporting :=
        { format, verbose := arguments.has .verbose, style := environment.style
          fix := arguments.has .fix }
      let path := configPath? disk environment arguments
      match loadConfig disk environment path with
      | .error error => giveUp environment disk {} error
      | .ok config =>
          let console : Console :=
            match path with
            | some path =>
                if explains reporting then
                  ({} : Console).printLine (reporting.labelled .bold "Using config" path)
                else {}
            | none => {}
          runWith disk environment reporting config arguments console

def helpText : Text :=
  joinLines <| List.map String.toList
    ["Generate and update PHPDoc docblocks",
      "",
      "Usage: phpdocr [OPTIONS] [PATHS]...",
      "",
      "Arguments:",
      "  [PATHS]...  Files or directories to process",
      "",
      "Options:",
      "      --check                       Show pending docblock changes without writing them (default mode)",
      "      --fix                         Write docblocks to files",
      "  -v, --verbose                     Show verbose output",
      "      --line <N>                    Only document the innermost declaration enclosing this 1-based line",
      "      --format <FORMAT>             Output format: text, json, diff [default: text]",
      "      --json                        Shorthand for --format json",
      "      --config <PATH>               Path to config file (default: auto-detect .phpdocr.toml)",
      "      --no-config                   Ignore config files",
      "      --settings-cache <PATH>       Settings-description cache file (overrides config)",
      "      --import-descriptions <JSON>  Merge a JSON object of setting descriptions into the cache",
      "  -h, --help                        Print help",
      "  -V, --version                     Print version"]

def run (disk : Disk) (environment : Environment) (given : List Text) : RunResult :=
  match Arguments.read given with
  | .ok arguments => execute disk environment arguments
  | .error .help => ⟨0, ({} : Console).printLine helpText, disk⟩
  | .error .version => ⟨0, ({} : Console).printLine ("phpdocr ".toList ++ Reporting.version), disk⟩
  | .error (.usage error) =>
      { exitCode := 2
        console :=
          (({} : Console).warn ("error: ".toList ++ error.message)).warn
            "\nFor more information, try '--help'.".toList
        disk }

end DocblockSync.Command
