import DocblockSync.Command.Inputs

/-! The command: reads what a run needs from the file system, runs, prints, and writes what the run has
changed. -/

open DocblockSync DocblockSync.Command

/-- Adds what lies at a location to a disk, with all that lies below it if `deep`. -/
partial def loadLocation (deep : Bool) (disk : Disk) (location : Location) : IO Disk := do
  let path := (← IO.currentDir) / String.ofList (locationPath location)
  if ← path.isDir then
    let disk := disk.put location .directory
    if deep then
      (← path.readDir).foldlM (fun disk entry =>
        loadLocation true disk (location ++ [entry.fileName.toList])) disk
    else return disk
  else if ← path.pathExists then
    return disk.put location (.file (Content.ofBytes (← IO.FS.readBinFile path)))
  else return disk

def loadPath (workingDirectory : Location) (disk : Disk) (path : Text) : IO Disk := do
  let locations := pathWaypoints workingDirectory path
  let disk ← locations.foldlM (loadLocation false) disk
  match locations.getLast? with
  | some location => loadLocation true disk location
  | none => return disk

def writeChanges (before after : Disk) : IO Unit := do
  for (location, entry) in after.entries do
    match entry with
    | .file (.text text) =>
        if before.get? location != some entry then
          let here ← IO.currentDir
          IO.FS.createDirAll (here / String.ofList (locationPath location.dropLast))
          IO.FS.writeFile (here / String.ofList (locationPath location)) (String.ofList text)
    | _ => pure ()

def readVariable (name : String) : IO (Option Text) := do
  return (← IO.getEnv name).map String.toList

def main (args : List String) : IO UInt32 := do
  let given := args.map String.toList
  let workingDirectory := ((← IO.currentDir).toString.toList.splitOn '/').filter (!·.isEmpty)
  let style := Style.ofVariables (← readVariable "CLICOLOR_FORCE") (← readVariable "NO_COLOR")
    (← readVariable "CLICOLOR") (← (← IO.getStdout).isTty)
  let environment : Environment := { workingDirectory, style }
  let disk ←
    match Arguments.read given with
    | .error _ => pure Disk.empty
    | .ok arguments =>
        let disk ← loadLocation false Disk.empty workingDirectory
        let disk ← (configInputs environment arguments).foldlM (loadPath workingDirectory) disk
        (furtherInputs disk environment arguments).foldlM (loadPath workingDirectory) disk
  let result := run disk environment given
  writeChanges disk result.disk
  IO.print (String.ofList result.console.output)
  IO.eprint (String.ofList result.console.errors)
  return result.exitCode.toUInt32
