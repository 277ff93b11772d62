import DocblockSync.Proofs.DiskWrites
import DocblockSync.Proofs.JsonText
import DocblockSync.Settings.Cache
import Mathlib.Data.List.Perm.Basic

/-! The cache and its file. A cache is a finite map: it is determined by what it knows about each
name, and merging is the union in which the added descriptions win. Its file has one form for each
map, and loading what was saved gives the same cache back. -/

namespace DocblockSync.SettingsCache

open Text Json

theorem lookup_insertEntry (name description key : Text) (entries : List (Text × Text)) :
    (insertEntry name description entries).lookup key =
      if key = name then some description else entries.lookup key := by
  have front : ∀ rest : List (Text × Text), ((name, description) :: rest).lookup key =
      if key = name then some description else rest.lookup key := by
    intro rest
    by_cases same : key = name
    · simp [same]
    · have apart : (key == name) = false := by simpa using same
      rw [List.lookup_cons, apart, if_neg same]
  induction entries with
  | nil => exact front []
  | cons entry rest ih =>
      obtain ⟨first, known⟩ := entry
      rw [insertEntry]
      split
      · exact front _
      · split
        · next here =>
            obtain rfl : name = first := here
            by_cases same : key = name
            · rw [front, if_pos same, if_pos same]
            · have apart : (key == name) = false := by simpa using same
              rw [front, if_neg same, if_neg same, List.lookup_cons, apart]
        · next here =>
            rw [List.lookup_cons, ih, List.lookup_cons]
            by_cases same : key = name
            · have apart : (key == first) = false := by simpa [same] using here
              simp only [apart, if_pos same]
            · rw [if_neg same, if_neg same]

@[simp]
theorem get?_empty (name : Text) : empty.get? name = none := rfl

@[simp]
theorem get?_insert (cache : SettingsCache) (name description key : Text) :
    (cache.insert name description).get? key =
      if key = name then some description else cache.get? key :=
  lookup_insertEntry name description key cache.entries

theorem names_nodup (cache : SettingsCache) : (cache.entries.map Prod.fst).Nodup := by
  rw [List.Nodup, List.pairwise_map]
  refine cache.sorted.imp ?_
  intro first second before same
  rw [same, precedes_irrefl] at before
  cases before

theorem nodup_entries (cache : SettingsCache) : cache.entries.Nodup :=
  (List.pairwise_map.1 cache.names_nodup).imp fun different same => different (congrArg Prod.fst same)

theorem mem_iff_lookup {entries : List (Text × Text)} (distinct : (entries.map Prod.fst).Nodup)
    (name description : Text) :
    (name, description) ∈ entries ↔ entries.lookup name = some description := by
  induction entries with
  | nil => simp
  | cons entry rest ih =>
      obtain ⟨first, known⟩ := entry
      rw [List.map_cons, List.nodup_cons] at distinct
      by_cases here : name = first
      · subst here
        have absent : (name, description) ∉ rest :=
          fun member => distinct.1 (List.mem_map.2 ⟨_, member, rfl⟩)
        simp [absent, eq_comm]
      · have apart : (name == first) = false := by simpa using here
        rw [List.lookup_cons, apart, List.mem_cons, ← ih distinct.2]
        simp [here]

theorem mem_iff_get? (cache : SettingsCache) (name description : Text) :
    (name, description) ∈ cache.entries ↔ cache.get? name = some description :=
  mem_iff_lookup cache.names_nodup name description

theorem ext_get? {cache other : SettingsCache} (same : ∀ name, cache.get? name = other.get? name) :
    cache = other := by
  have perm : cache.entries.Perm other.entries := by
    rw [List.perm_ext_iff_of_nodup (nodup_entries cache) (nodup_entries other)]
    rintro ⟨name, description⟩
    rw [mem_iff_get?, mem_iff_get?, same]
  have entries : cache.entries = other.entries := by
    refine perm.eq_of_pairwise ?_ cache.sorted other.sorted
    intro first second _ _ before after
    have loop := precedes_trans before after
    rw [precedes_irrefl] at loop
    cases loop
  cases cache
  cases other
  cases entries
  rfl

theorem get?_foldl_insert {added : List (Text × Text)} (distinct : (added.map Prod.fst).Nodup)
    (cache : SettingsCache) (name : Text) :
    (added.foldl (fun cache entry => cache.insert entry.1 entry.2) cache).get? name =
      (added.lookup name).or (cache.get? name) := by
  induction added generalizing cache with
  | nil => rfl
  | cons entry rest ih =>
      obtain ⟨first, description⟩ := entry
      rw [List.map_cons, List.nodup_cons] at distinct
      rw [List.foldl_cons, ih distinct.2, get?_insert, List.lookup_cons]
      by_cases here : name = first
      · subst here
        have absent : rest.lookup name = none := by
          rw [List.lookup_eq_none_iff]
          intro entry member
          simpa using fun same => distinct.1 (List.mem_map.2 ⟨entry, member, same.symm⟩)
        simp [absent]
      · have apart : (name == first) = false := by simpa using here
        simp [here, apart]

theorem get?_merge (cache added : SettingsCache) (name : Text) :
    (cache.merge added).get? name = (added.get? name).or (cache.get? name) :=
  get?_foldl_insert added.names_nodup cache name

theorem get?_ofList {entries : List (Text × Text)} (distinct : (entries.map Prod.fst).Nodup)
    (name : Text) : (ofList entries).get? name = entries.lookup name := by
  rw [ofList, get?_foldl_insert distinct, get?_empty, Option.or_none]

theorem ofList_entries (cache : SettingsCache) : ofList cache.entries = cache :=
  ext_get? fun name => get?_ofList cache.names_nodup name

theorem ofMembers_strings (path : Text) (entries : List (Text × Text)) :
    ofMembers path (entries.map stringMember) = .ok entries := by
  induction entries with
  | nil => rfl
  | cons entry rest ih =>
      rw [List.map_cons, stringMember, ofMembers, ih]
      rfl

theorem eq_strings_of_ofMembers {path : Text} {members : List (Text × Json)}
    {entries : List (Text × Text)} (read : ofMembers path members = .ok entries) :
    members = entries.map stringMember := by
  induction members generalizing entries with
  | nil =>
      obtain rfl := Except.ok.inj read
      rfl
  | cons member rest ih =>
      obtain ⟨name, value⟩ := member
      cases value with
      | string description =>
          rw [ofMembers] at read
          cases known : ofMembers path rest with
          | error failure =>
              rw [known] at read
              cases read
          | ok others =>
              rw [known] at read
              obtain rfl := Except.ok.inj read
              rw [ih known]
              rfl
      | _ => cases read

def entryLines : List (Text × Text) → List Text
  | [] => []
  | [last] => ["  ".toList ++ memberText last]
  | entry :: rest => ("  ".toList ++ memberText entry ++ [',']) :: entryLines rest

/-- The lines of a cache file: a brace, a line for each description two blanks further in, a brace. -/
def fileLines (entries : List (Text × Text)) : List Text :=
  if entries.isEmpty then ["\x7b\x7d".toList]
  else "\x7b".toList :: entryLines entries ++ ["\x7d".toList]

theorem membersEnd_eq (entry : Text × Text) (entries : List (Text × Text)) :
    newline 1 ++ (memberText entry ++ membersEnd ['\n'] entries) =
      '\n' :: (entryLines (entry :: entries) ++ ["\x7d".toList]).flatMap (· ++ ['\n']) := by
  induction entries generalizing entry with
  | nil => simp [newline, membersEnd, entryLines]
  | cons next entries ih =>
      rw [membersEnd, ih next]
      simp [newline, entryLines]

theorem toText_eq (cache : SettingsCache) :
    cache.toText = (fileLines cache.entries).flatMap (· ++ ['\n']) := by
  have members : cache.toText =
      (object (cache.entries.map stringMember)).pretty 0 ++ ['\n'] := rfl
  rw [members]
  cases cache.entries with
  | nil => rfl
  | cons entry rest =>
      rw [pretty_strings_cons, membersEnd_eq, fileLines, if_neg (by simp)]
      simp

theorem parse?_toText (cache : SettingsCache) :
    parse? cache.toText = some (.object (cache.entries.map stringMember)) :=
  parse?_pretty_strings cache.names_nodup

theorem ofText_toText (path : Text) (cache : SettingsCache) :
    ofText path cache.toText = .ok cache := by
  rw [ofText, parse?_toText]
  simp only [ofMembers_strings, Except.map, ofList_entries]

/-- A save makes directories where nothing was, then writes the file; where no directory has been
taken away since, saving again only writes. -/
theorem exists_of_save {cache : SettingsCache} {disk after : Disk} {workingDirectory : Location}
    {path : Text} (saved : cache.save disk workingDirectory path = .ok after) :
    ∃ prepared location, Disk.AddsDirectories disk prepared ∧
      prepared.locate workingDirectory path = .ok location ∧
      prepared.get? location ≠ some .directory ∧
      prepared.put location (.file (.text cache.toText)) = after ∧
      ∀ (other : SettingsCache) (final : Disk), Disk.KeepsDirectories prepared final →
        other.save final workingDirectory path =
          (final.write workingDirectory path other.toText).mapError (.unwritable path) := by
  unfold save at saved ⊢
  cases held : (Path.parent? path).filter fun directory => !directory.isEmpty with
  | none =>
      simp only [held, bind, Except.bind] at saved
      cases written : disk.write workingDirectory path cache.toText with
      | error cause =>
          rw [written] at saved
          cases saved
      | ok result =>
          rw [written] at saved
          obtain rfl := Except.ok.inj saved
          obtain ⟨location, led, file, put⟩ := Disk.write_eq_ok_iff.1 written
          exact ⟨disk, location, .refl disk, led, file, put, fun _ _ _ => rfl⟩
  | some directory =>
      simp only [held, bind, Except.bind] at saved ⊢
      cases made : disk.createDirectories workingDirectory directory with
      | error cause =>
          rw [made] at saved
          cases saved
      | ok prepared =>
          simp only [made, Except.mapError] at saved
          cases written : prepared.write workingDirectory path cache.toText with
          | error cause =>
              rw [written] at saved
              cases saved
          | ok result =>
              rw [written] at saved
              obtain rfl := Except.ok.inj saved
              obtain ⟨location, led, file, put⟩ := Disk.write_eq_ok_iff.1 written
              refine ⟨prepared, location, Disk.createDirectories_adds made, led, file, put, ?_⟩
              intro other final keeps
              rw [Disk.createDirectories_again made keeps]
              rfl

theorem read_of_save {cache : SettingsCache} {disk after : Disk} {workingDirectory : Location}
    {path : Text} (saved : cache.save disk workingDirectory path = .ok after) :
    after.read workingDirectory path = .ok cache.toText := by
  obtain ⟨prepared, location, -, led, file, rfl, -⟩ := exists_of_save saved
  refine Disk.read_eq_ok_iff.2 ⟨location, (Disk.keepsDirectories_put file _).locate led, ?_⟩
  rw [Disk.get?_put prepared (Disk.ne_nil_of_get? prepared file), if_pos rfl]

theorem load_of_save {cache : SettingsCache} {disk after : Disk} {workingDirectory : Location}
    {path : Text} (saved : cache.save disk workingDirectory path = .ok after) :
    load after workingDirectory path = cache := by
  rw [load, SettingsCache.read, read_of_save saved]
  simp only [ofText_toText]

theorem save_again {cache : SettingsCache} {disk after : Disk} {workingDirectory : Location}
    {path : Text} (saved : cache.save disk workingDirectory path = .ok after) :
    cache.save after workingDirectory path = .ok after := by
  obtain ⟨prepared, location, -, led, file, rfl, again⟩ := exists_of_save saved
  have keeps := Disk.keepsDirectories_put file (.file (.text cache.toText))
  have written : (prepared.put location (.file (.text cache.toText))).write workingDirectory path
      cache.toText = .ok (prepared.put location (.file (.text cache.toText))) := by
    refine Disk.write_eq_ok_iff.2 ⟨location, keeps.locate led, ?_, Disk.put_put _ _ _⟩
    rw [Disk.get?_put prepared (Disk.ne_nil_of_get? prepared file), if_pos rfl]
    simp
  rw [again cache _ keeps, written]
  rfl

theorem get?_of_save {cache : SettingsCache} {disk after : Disk} {workingDirectory : Location}
    {path : Text} (saved : cache.save disk workingDirectory path = .ok after) (location : Location) :
    after.get? location = disk.get? location ∨
      (disk.get? location = none ∧ after.get? location = some .directory) ∨
      after.get? location = some (.file (.text cache.toText)) := by
  obtain ⟨prepared, place, adds, -, file, rfl, -⟩ := exists_of_save saved
  rw [Disk.get?_put prepared (Disk.ne_nil_of_get? prepared file)]
  by_cases here : location = place
  · exact .inr (.inr (if_pos here))
  · rw [if_neg here]
    exact (adds location).imp_right .inl

theorem keepsDirectories_of_save {cache : SettingsCache} {disk after : Disk}
    {workingDirectory : Location} {path : Text}
    (saved : cache.save disk workingDirectory path = .ok after) :
    Disk.KeepsDirectories disk after := by
  obtain ⟨prepared, place, adds, -, file, rfl, -⟩ := exists_of_save saved
  exact adds.keepsDirectories.trans (Disk.keepsDirectories_put file _)

theorem read_after_save {cache : SettingsCache} {disk after : Disk} {workingDirectory : Location}
    {path other text : Text} (saved : cache.save disk workingDirectory path = .ok after)
    (read : disk.read workingDirectory other = .ok text) :
    after.read workingDirectory other = .ok text ∨
      after.read workingDirectory other = .ok cache.toText := by
  obtain ⟨location, led, held⟩ := Disk.read_eq_ok_iff.1 read
  have still := (keepsDirectories_of_save saved).locate led
  rcases get?_of_save saved location with same | ⟨absent, -⟩ | file
  · exact .inl (Disk.read_eq_ok_iff.2 ⟨location, still, same.trans held⟩)
  · rw [absent] at held
    cases held
  · exact .inr (Disk.read_eq_ok_iff.2 ⟨location, still, file⟩)

/-- Loading what was saved gives the cache back. The file holds the descriptions in the order of
their names, a line for each, and saving the loaded cache again writes the same bytes, in the same
place or in any other. -/
theorem load_saved_cache (cache : SettingsCache) (disk after : Disk) (workingDirectory : Location)
    (path : Text) (saved : cache.save disk workingDirectory path = .ok after) :
    load after workingDirectory path = cache ∧
      after.read workingDirectory path =
        .ok ((fileLines cache.entries).flatMap (· ++ ['\n'])) ∧
      cache.entries.Pairwise (fun entry next => precedes entry.1 next.1) ∧
      (load after workingDirectory path).save after workingDirectory path = .ok after ∧
      ∀ (place : Text) (final : Disk),
        (load after workingDirectory path).save after workingDirectory place = .ok final →
          final.read workingDirectory place = after.read workingDirectory path := by
  have loaded := load_of_save saved
  have written := read_of_save saved
  refine ⟨loaded, by rw [written, toText_eq], cache.sorted, ?_, ?_⟩
  · rw [loaded]
    exact save_again saved
  · intro place final again
    rw [loaded] at again
    rw [read_of_save again, written]

theorem load_saved_cache_escaped :
    ∃ after, (ofList [(['b'], ['\x01']), (['a', '"'], ['\\', '\n', 'é'])]).save .empty []
        "d/c".toList = .ok after ∧
      load after [] "d/c".toList = ofList [(['b'], ['\x01']), (['a', '"'], ['\\', '\n', 'é'])] ∧
      after.read [] "d/c".toList =
        .ok "\x7b\n  \"a\\\"\": \"\\\\\\né\",\n  \"b\": \"\\u0001\"\n\x7d\n".toList := by
  have saved : (ofList [(['b'], ['\x01']), (['a', '"'], ['\\', '\n', 'é'])]).save .empty []
      "d/c".toList = .ok ⟨[([['d']], .directory), ([['d'], ['c']], .file (.text
        "\x7b\n  \"a\\\"\": \"\\\\\\né\",\n  \"b\": \"\\u0001\"\n\x7d\n".toList))]⟩ := rfl
  exact ⟨_, saved, (load_saved_cache _ _ _ _ _ saved).1, by decide +kernel⟩

end DocblockSync.SettingsCache
