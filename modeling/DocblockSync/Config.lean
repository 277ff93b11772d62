import DocblockSync.Disk
import DocblockSync.Glob
import DocblockSync.Options
import DocblockSync.Toml.Reader

/-! The configuration file: where it is looked for, what it sets, and which paths it excludes. -/

namespace DocblockSync

open Text

structure Config where
  options : Options := {}
  /-- The file that keeps the descriptions of settings. -/
  cachePath : Text := ".phpdocr-settings.json".toList
  /-- Patterns of paths that are left out when directories are searched. -/
  exclude : List Text := []
  deriving Repr, DecidableEq

inductive ConfigError where
  | unreadable (path : Text) (cause : DiskError)
  | malformed (path : Text)
  deriving Repr, DecidableEq

namespace ConfigError

def summary : ConfigError → Text
  | .unreadable path _ => "Failed to read ".toList ++ path
  | .malformed path => "Failed to parse ".toList ++ path

def message (error : ConfigError) : Text :=
  error.summary ++ ": ".toList ++
    match error with
    | .unreadable _ cause => cause.message
    | .malformed _ => "not a valid configuration".toList

end ConfigError

namespace Config

def fileName : Text := ".phpdocr.toml".toList

/-- The section of a name; a section that is left out is empty. Its values are given by name or, in an
array, by position. A date or time is a section without known values. -/
def section? (members : Toml.Members) (name : String) : Option Toml.Value :=
  match members.lookup name.toList with
  | none => some (.array [])
  | some (.table origin values) => some (.table origin values)
  | some (.array items) => some (.array items)
  | some (.tables elements) => some (.array (elements.map (.table .header)))
  | some (.moment _) => some (.array [])
  | some _ => none

/-- The value that a section gives for a name, which has a position too. -/
def valueOf? (given : Toml.Value) (name : String) (position : Nat) : Option Toml.Value :=
  match given with
  | .table _ values => values.lookup name.toList
  | .array items => items[position]?
  | _ => none

def text? : Toml.Value → Option Text
  | .string value => some value
  | _ => none

def texts? : Toml.Value → Option (List Text)
  | .array items => items.mapM text?
  | _ => none

def boolean? : Toml.Value → Option Bool
  | .boolean value => some value
  | _ => none

/-- A value as it is given, or a default; none if a value of the wrong type is given. -/
def valueOr? {α : Type} (default : α) (read? : Toml.Value → Option α) :
    Option Toml.Value → Option α
  | none => some default
  | some value => read? value

/-- The configuration that a document describes; unknown keys are ignored. -/
def ofMembers? (members : Toml.Members) : Option Config := do
  let settings ← section? members "settings"
  let paths ← section? members "paths"
  let docblock ← section? members "docblock"
  let standard : Config := {}
  let settingsFunctions ←
    valueOr? standard.options.settingsFunctions texts? (valueOf? settings "functions" 0)
  let cachePath ← valueOr? standard.cachePath text? (valueOf? settings "cache" 1)
  let exclude ← valueOr? standard.exclude texts? (valueOf? paths "exclude" 0)
  let documentProperties ←
    valueOr? standard.options.documentProperties boolean? (valueOf? docblock "properties" 0)
  return { options := { settingsFunctions, documentProperties }, cachePath, exclude }

def load (disk : Disk) (workingDirectory : Location) (path : Text) : Except ConfigError Config :=
  match disk.read workingDirectory path with
  | .error cause => .error (.unreadable path cause)
  | .ok text =>
      match (Toml.parse? text).bind ofMembers? with
      | some config => .ok config
      | none => .error (.malformed path)

/-- The nearest configuration file in a directory or in those around it. -/
def find? (disk : Disk) (directory : Text) : Option Text :=
  ((Path.ancestors directory).map fun around => Path.join around fileName).find? fun path =>
    (disk.entry? [] path).isSome

/-- Whether a pattern that ends in a slash names a directory on a path. -/
def excludesDirectory (pattern path : Text) : Bool :=
  endsWith ['/'] pattern &&
    let directory := (pattern.reverse.dropWhile (· == '/')).reverse ++ ['/']
    contains ('/' :: directory) path || startsWith directory path

def excludesName (pattern path : Text) : Bool :=
  match Glob.parse? pattern with
  | some tokens =>
      Glob.matchesTokens tokens path ||
        (Path.fileName? path).any (Glob.matchesTokens tokens)
  | none => false

def excludes (config : Config) (path : Text) : Bool :=
  config.exclude.any fun pattern => excludesName pattern path || excludesDirectory pattern path

end Config

end DocblockSync
