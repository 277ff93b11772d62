import DocblockSync.Disk
import DocblockSync.Json
import DocblockSync.Settings.Usage

/-! The cache of settings descriptions: a map from names to descriptions that is kept in a file. The
file is a JSON object, sorted by name. -/

namespace DocblockSync

open Text

structure SettingsCache where
  entries : List (Text × Text)
  sorted : entries.Pairwise fun a b => precedes a.1 b.1 := by simp

inductive CacheError where
  | unreadable (path : Text) (cause : DiskError)
  | malformed (path : Text)
  | notAnObject (path : Text)
  | notAString (path name : Text) (found : Json)
  | directoryFailed (path : Text) (cause : DiskError)
  | unwritable (path : Text) (cause : DiskError)

namespace CacheError

def summary : CacheError → Text
  | .unreadable path _ => "Failed to read ".toList ++ path
  | .malformed path => "Failed to parse ".toList ++ path
  | .notAnObject path => path ++ " must contain a JSON object".toList
  | .notAString path name found =>
      path ++ ": description of '".toList ++ name ++ "' must be a string, found ".toList ++
        found.compact
  | .directoryFailed path _ => "Failed to create ".toList ++ path
  | .unwritable path _ => "Failed to write cache file: ".toList ++ path

def message (error : CacheError) : Text :=
  match error with
  | .unreadable _ cause | .directoryFailed _ cause | .unwritable _ cause =>
      error.summary ++ ": ".toList ++ cause.message
  | .malformed _ => error.summary ++ ": not valid JSON".toList
  | .notAnObject _ | .notAString _ _ _ => error.summary

end CacheError

namespace SettingsCache

/-- Puts a description into a sorted list, in the place of an earlier one of the same name. -/
def insertEntry (name description : Text) : List (Text × Text) → List (Text × Text)
  | [] => [(name, description)]
  | entry :: rest =>
      if precedes name entry.1 then (name, description) :: entry :: rest
      else if name = entry.1 then (name, description) :: rest
      else entry :: insertEntry name description rest

theorem mem_insertEntry {name description : Text} {entries : List (Text × Text)}
    {entry : Text × Text} (member : entry ∈ insertEntry name description entries) :
    entry = (name, description) ∨ entry ∈ entries := by
  induction entries with
  | nil => simpa [insertEntry] using member
  | cons first rest ih =>
      rw [insertEntry] at member
      split at member
      · simpa using member
      · split at member
        · rcases List.mem_cons.mp member with same | later
          · exact .inl same
          · exact .inr (List.mem_cons_of_mem _ later)
        · rcases List.mem_cons.mp member with same | later
          · exact .inr (same ▸ List.mem_cons_self)
          · exact (ih later).imp_right (List.mem_cons_of_mem _)

theorem insertEntry_sorted (name description : Text) {entries : List (Text × Text)}
    (sorted : entries.Pairwise fun a b => precedes a.1 b.1) :
    (insertEntry name description entries).Pairwise fun a b => precedes a.1 b.1 := by
  induction entries with
  | nil => simp [insertEntry]
  | cons first rest ih =>
      have ⟨firstBefore, restSorted⟩ := List.pairwise_cons.mp sorted
      rw [insertEntry]
      split
      next before =>
        refine List.pairwise_cons.mpr ⟨fun entry member => ?_, sorted⟩
        rcases List.mem_cons.mp member with same | later
        · exact same ▸ before
        · exact precedes_trans before (firstBefore entry later)
      next notBefore =>
        split
        next same =>
          exact List.pairwise_cons.mpr
            ⟨fun entry member => same ▸ firstBefore entry member, restSorted⟩
        next different =>
          refine List.pairwise_cons.mpr ⟨fun entry member => ?_, ih restSorted⟩
          rcases mem_insertEntry member with same | later
          · exact same ▸ precedes_of_ne different (by simpa using notBefore)
          · exact firstBefore entry later

def empty : SettingsCache := ⟨[], .nil⟩

def insert (cache : SettingsCache) (name description : Text) : SettingsCache :=
  ⟨insertEntry name description cache.entries, insertEntry_sorted name description cache.sorted⟩

def get? (cache : SettingsCache) (name : Text) : Option Text := cache.entries.lookup name

def size (cache : SettingsCache) : Nat := cache.entries.length

def ofList (entries : List (Text × Text)) : SettingsCache :=
  entries.foldl (fun cache entry => cache.insert entry.1 entry.2) empty

def descriptions (cache : SettingsCache) : Descriptions := ⟨cache.entries⟩

/-- Adds descriptions; they win over earlier ones of the same name. -/
def merge (cache added : SettingsCache) : SettingsCache :=
  added.entries.foldl (fun cache entry => cache.insert entry.1 entry.2) cache

def changeCount (cache added : SettingsCache) : Nat :=
  added.entries.countP fun entry => cache.get? entry.1 != some entry.2

def toText (cache : SettingsCache) : Text :=
  (Json.object (cache.entries.map fun entry => (entry.1, .string entry.2))).pretty 0 ++ ['\n']

/-- The descriptions that members of an object stand for; all of them must be strings. -/
def ofMembers (path : Text) : List (Text × Json) → Except CacheError (List (Text × Text))
  | [] => .ok []
  | (name, .string description) :: rest =>
      (ofMembers path rest).map ((name, description) :: ·)
  | (name, found) :: _ => .error (.notAString path name found)

def ofText (path text : Text) : Except CacheError SettingsCache :=
  match Json.parse? text with
  | some (.object members) => (ofMembers path members).map ofList
  | some _ => .error (.notAnObject path)
  | none => .error (.malformed path)

def read (disk : Disk) (workingDirectory : Location) (path : Text) :
    Except CacheError SettingsCache :=
  match disk.read workingDirectory path with
  | .error cause => .error (.unreadable path cause)
  | .ok text => ofText path text

/-- Loads the cache; a file that is missing or cannot be used is an empty cache. -/
def load (disk : Disk) (workingDirectory : Location) (path : Text) : SettingsCache :=
  match read disk workingDirectory path with
  | .ok cache => cache
  | .error _ => empty

def save (cache : SettingsCache) (disk : Disk) (workingDirectory : Location) (path : Text) :
    Except CacheError Disk := do
  let disk ←
    match (Path.parent? path).filter fun directory => !directory.isEmpty with
    | some directory =>
        (disk.createDirectories workingDirectory directory).mapError (.directoryFailed directory)
    | none => .ok disk
  (disk.write workingDirectory path cache.toText).mapError (.unwritable path)

end SettingsCache

end DocblockSync
