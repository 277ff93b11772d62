import DocblockSync.Command.Run

/-! What a run reads: the paths that have to be on the disk before it starts. The configuration comes
first, because it names the cache. -/

namespace DocblockSync.Command

open Text

def waypoints (location : Location) : List Text → List Location
  | [] => [location]
  | segment :: rest =>
      let next :=
        if segment.isEmpty || segment == ['.'] then location
        else if segment == ['.', '.'] then location.dropLast
        else location ++ [segment]
      location :: waypoints next rest

def pathWaypoints (workingDirectory : Location) (path : Text) : List Location :=
  waypoints (if path.head? == some '/' then [] else workingDirectory) (path.splitOn '/')

def configInputs (environment : Environment) (arguments : Arguments) : List Text :=
  if arguments.has .noConfig then []
  else
    match arguments.value? .config with
    | some path => [path]
    | none =>
        (Path.ancestors (locationPath environment.workingDirectory)).map fun directory =>
          Path.join directory Config.fileName

def cacheInput (disk : Disk) (environment : Environment) (arguments : Arguments) : Text :=
  match arguments.value? .settingsCache with
  | some path => path
  | none =>
      match loadConfig disk environment (configPath? disk environment arguments) with
      | .ok config => config.cachePath
      | .error _ => ({} : Config).cachePath

def furtherInputs (disk : Disk) (environment : Environment) (arguments : Arguments) : List Text :=
  arguments.paths ++ (arguments.value? .importDescriptions).toList ++
    [cacheInput disk environment arguments]

end DocblockSync.Command
