import DocblockSync.Disk
import Mathlib.Data.List.Basic

/-! What writing does to a disk. A write changes the entry at one location and leaves all others as
they are; making directories only fills locations where nothing was. Neither takes a directory away,
so a path that leads somewhere leads to the same location afterwards, and what has been written to a
path is read back from it. -/

namespace DocblockSync.Disk

theorem get?_nil (disk : Disk) : disk.get? [] = some .directory := rfl

theorem get?_of_ne_nil (disk : Disk) {location : Location} (named : location ≠ []) :
    disk.get? location = disk.entries.lookup location := by
  cases location with
  | nil => exact absurd rfl named
  | cons name names => rfl

theorem ne_nil_of_get? (disk : Disk) {location : Location}
    (other : disk.get? location ≠ some .directory) : location ≠ [] := by
  rintro rfl
  exact other rfl

theorem lookup_map_replaced (entries : List (Location × Entry)) (location other : Location)
    (entry : Entry) :
    (entries.map fun found => if found.1 == location then (location, entry) else found).lookup other =
      if other = location then (entries.lookup location).map fun _ => entry
      else entries.lookup other := by
  induction entries with
  | nil => simp
  | cons found rest ih =>
      obtain ⟨place, held⟩ := found
      rw [List.map_cons]
      by_cases here : place = location
      · by_cases same : other = location
        · simp [here, same]
        · have apart : (other == location) = false := by simpa using same
          rw [if_neg same] at ih ⊢
          rw [if_pos (by simpa using here), List.lookup_cons, List.lookup_cons, here, apart]
          exact ih
      · rw [if_neg (by simpa using here), List.lookup_cons, ih]
        by_cases same : other = location
        · have apart : (location == place) = false := by simpa using Ne.symm here
          simp [same, List.lookup_cons, apart]
        · simp [same, List.lookup_cons]

theorem any_eq_isSome_lookup (entries : List (Location × Entry)) (location : Location) :
    (entries.any fun found => found.1 == location) = (entries.lookup location).isSome := by
  induction entries with
  | nil => rfl
  | cons found rest ih =>
      obtain ⟨place, held⟩ := found
      rw [List.any_cons, List.lookup_cons, ih]
      by_cases here : place = location
      · simp [here]
      · have apart : (location == place) = false := by simpa using Ne.symm here
        have apart' : (place == location) = false := by simpa using here
        simp [apart, apart']

theorem get?_put (disk : Disk) {location : Location} (named : location ≠ []) (entry : Entry)
    (other : Location) :
    (disk.put location entry).get? other =
      if other = location then some entry else disk.get? other := by
  by_cases root : other = []
  · subst root
    rw [if_neg (Ne.symm named), get?_nil, get?_nil]
  rw [get?_of_ne_nil _ root, get?_of_ne_nil _ root, put, any_eq_isSome_lookup]
  cases held : disk.entries.lookup location with
  | some old => rw [Option.isSome_some, if_pos rfl, lookup_map_replaced, held, Option.map_some]
  | none =>
      by_cases same : other = location
      · simp [List.lookup_append, same, held]
      · have apart : (other == location) = false := by simpa using same
        simp [List.lookup_append, same, apart, List.lookup_cons]

theorem put_put (disk : Disk) (location : Location) (entry : Entry) :
    (disk.put location entry).put location entry = disk.put location entry := by
  by_cases held : (disk.entries.any fun found => found.1 == location) = true
  · have again : ((disk.entries.map fun found =>
        if found.1 == location then (location, entry) else found).any
          fun found => found.1 == location) = true := by
      obtain ⟨found, member, here⟩ := List.any_eq_true.1 held
      exact List.any_eq_true.2 ⟨(location, entry), List.mem_map.2 ⟨found, member, by simp [here]⟩,
        by simp⟩
    simp only [put, held, again, if_true, List.map_map, Disk.mk.injEq]
    apply List.map_congr_left
    intro found member
    by_cases here : found.1 = location <;> simp [here]
  · have kept : (disk.entries.map fun found =>
        if found.1 == location then (location, entry) else found) = disk.entries := by
      refine (List.map_congr_left fun found member => if_neg ?_).trans (List.map_id _)
      exact fun here => held (List.any_eq_true.2 ⟨found, member, here⟩)
    have made : disk.put location entry = ⟨disk.entries ++ [(location, entry)]⟩ := if_neg held
    rw [made, put, if_pos (by simp), List.map_append, kept]
    simp

/-- Every directory of one disk is a directory of another. -/
def KeepsDirectories (disk after : Disk) : Prop :=
  ∀ location, disk.get? location = some .directory → after.get? location = some .directory

/-- A disk with directories added where nothing was. -/
def AddsDirectories (disk after : Disk) : Prop :=
  ∀ location, after.get? location = disk.get? location ∨
    (disk.get? location = none ∧ after.get? location = some .directory)

theorem AddsDirectories.refl (disk : Disk) : AddsDirectories disk disk := fun _ => .inl rfl

theorem AddsDirectories.trans {disk middle after : Disk} (first : AddsDirectories disk middle)
    (second : AddsDirectories middle after) : AddsDirectories disk after := by
  intro location
  rcases second location with same | ⟨absent, made⟩
  · rw [same]
    exact first location
  · rcases first location with same | ⟨-, there⟩
    · exact .inr ⟨same ▸ absent, made⟩
    · rw [absent] at there
      cases there

theorem AddsDirectories.keepsDirectories {disk after : Disk} (adds : AddsDirectories disk after) :
    KeepsDirectories disk after := by
  intro location held
  rcases adds location with same | ⟨absent, -⟩
  · rw [same, held]
  · rw [absent] at held
    cases held

theorem KeepsDirectories.trans {disk middle after : Disk} (first : KeepsDirectories disk middle)
    (second : KeepsDirectories middle after) : KeepsDirectories disk after :=
  fun location held => second location (first location held)

theorem keepsDirectories_put {disk : Disk} {location : Location}
    (other : disk.get? location ≠ some .directory) (entry : Entry) :
    KeepsDirectories disk (disk.put location entry) := by
  intro place held
  rw [get?_put disk (ne_nil_of_get? disk other), if_neg (by rintro rfl; exact other held), held]

theorem KeepsDirectories.follow {disk after : Disk} (keeps : KeepsDirectories disk after)
    {start location : Location} {segments : List Text}
    (led : disk.follow start segments = .ok location) :
    after.follow start segments = .ok location := by
  induction segments generalizing start with
  | nil => exact led
  | cons segment rest ih =>
      rw [Disk.follow] at led ⊢
      cases held : disk.get? start with
      | none =>
          rw [held] at led
          cases led
      | some entry =>
          cases entry with
          | file content =>
              rw [held] at led
              cases led
          | directory =>
              rw [keeps start held]
              simp only [held] at led ⊢
              split at led
              · next skipped => rw [if_pos skipped]; exact ih led
              · next named =>
                  rw [if_neg named]
                  split at led
                  · next up => rw [if_pos up]; exact ih led
                  · next down => rw [if_neg down]; exact ih led

theorem KeepsDirectories.locate {disk after : Disk} (keeps : KeepsDirectories disk after)
    {workingDirectory location : Location} {path : Text}
    (led : disk.locate workingDirectory path = .ok location) :
    after.locate workingDirectory path = .ok location := by
  unfold Disk.locate at led ⊢
  split
  · next empty =>
      rw [if_pos empty] at led
      cases led
  · next given =>
      rw [if_neg given] at led
      exact keeps.follow led

theorem isFile_iff {disk : Disk} {workingDirectory : Location} {path : Text} :
    disk.isFile workingDirectory path = true ↔
      ∃ location content, disk.locate workingDirectory path = .ok location ∧
        disk.get? location = some (.file content) := by
  unfold isFile entry?
  cases disk.locate workingDirectory path with
  | error cause => simp
  | ok location =>
      cases held : disk.get? location with
      | none => simp [held]
      | some entry => cases entry <;> simp [held]

theorem isDirectory_iff {disk : Disk} {workingDirectory : Location} {path : Text} :
    disk.isDirectory workingDirectory path = true ↔
      ∃ location, disk.locate workingDirectory path = .ok location ∧
        disk.get? location = some .directory := by
  unfold isDirectory entry?
  cases disk.locate workingDirectory path <;> simp

theorem read_eq_ok_iff {disk : Disk} {workingDirectory : Location} {path text : Text} :
    disk.read workingDirectory path = .ok text ↔
      ∃ location, disk.locate workingDirectory path = .ok location ∧
        disk.get? location = some (.file (.text text)) := by
  unfold Disk.read
  cases disk.locate workingDirectory path with
  | error cause => simp [bind, Except.bind]
  | ok location =>
      simp only [bind, Except.bind, Except.ok.injEq, exists_eq_left']
      split <;> simp_all [pure, Except.pure, throw, throwThe, MonadExceptOf.throw]

theorem write_eq_ok_iff {disk after : Disk} {workingDirectory : Location} {path text : Text} :
    disk.write workingDirectory path text = .ok after ↔
      ∃ location, disk.locate workingDirectory path = .ok location ∧
        disk.get? location ≠ some .directory ∧ disk.put location (.file (.text text)) = after := by
  unfold Disk.write
  cases disk.locate workingDirectory path with
  | error cause => simp [bind, Except.bind]
  | ok location =>
      simp only [bind, Except.bind, Except.ok.injEq, exists_eq_left']
      split
      · next held => simp [held, throw, throwThe, MonadExceptOf.throw]
      · next other => simp [pure, Except.pure, show disk.get? location ≠ some .directory from other]

theorem put_addsDirectories {disk : Disk} {location : Location} (absent : disk.get? location = none) :
    AddsDirectories disk (disk.put location .directory) := by
  have named : location ≠ [] := ne_nil_of_get? disk (by simp [absent])
  intro place
  rw [get?_put disk named]
  by_cases here : place = location
  · exact .inr ⟨here ▸ absent, by rw [if_pos here]⟩
  · exact .inl (by rw [if_neg here])

theorem makeDirectories_adds {disk after : Disk} {start : Location} {segments : List Text}
    (made : disk.makeDirectories start segments = .ok after) : AddsDirectories disk after := by
  induction segments generalizing disk start with
  | nil =>
      obtain rfl := Except.ok.inj made
      exact .refl disk
  | cons segment rest ih =>
      rw [makeDirectories] at made
      split at made
      · exact ih made
      · split at made
        · exact ih made
        · simp only at made
          split at made
          · exact ih made
          · cases made
          · next absent => exact (put_addsDirectories absent).trans (ih made)

theorem makeDirectories_again {disk after final : Disk} {start : Location} {segments : List Text}
    (made : disk.makeDirectories start segments = .ok after) (keeps : KeepsDirectories after final) :
    final.makeDirectories start segments = .ok final := by
  induction segments generalizing disk start with
  | nil => rfl
  | cons segment rest ih =>
      rw [makeDirectories] at made ⊢
      split at made
      · next skipped => rw [if_pos skipped]; exact ih made
      · next named =>
          rw [if_neg named]
          split at made
          · next up => rw [if_pos up]; exact ih made
          · next down =>
              rw [if_neg down]
              simp only at made ⊢
              split at made
              · next held =>
                  rw [keeps _ ((makeDirectories_adds made).keepsDirectories _ held)]
                  exact ih made
              · cases made
              · next absent =>
                  have fresh : (disk.put (start ++ [segment]) .directory).get? (start ++ [segment]) =
                      some .directory := by
                    rw [get?_put disk (by simp), if_pos rfl]
                  rw [keeps _ ((makeDirectories_adds made).keepsDirectories _ fresh)]
                  exact ih made

theorem createDirectories_adds {disk after : Disk} {workingDirectory : Location} {path : Text}
    (made : disk.createDirectories workingDirectory path = .ok after) : AddsDirectories disk after :=
  makeDirectories_adds made

theorem createDirectories_again {disk after final : Disk} {workingDirectory : Location} {path : Text}
    (made : disk.createDirectories workingDirectory path = .ok after)
    (keeps : KeepsDirectories after final) :
    final.createDirectories workingDirectory path = .ok final :=
  makeDirectories_again made keeps

def replaced (entry : Entry) : Option Text → Entry
  | some text => .file (.text text)
  | none => entry

def overwrite (disk : Disk) (texts : Location → Option Text) : Disk :=
  ⟨disk.entries.map fun found => (found.1, replaced found.2 (texts found.1))⟩

/-- Texts are given for files only. -/
def OnFiles (disk : Disk) (texts : Location → Option Text) : Prop :=
  ∀ location text, texts location = some text → ∃ content, disk.get? location = some (.file content)

theorem overwrite_none (disk : Disk) : disk.overwrite (fun _ => none) = disk := by
  simp [overwrite, replaced]

theorem lookup_overwrite (disk : Disk) (texts : Location → Option Text) (location : Location) :
    (disk.overwrite texts).entries.lookup location =
      (disk.entries.lookup location).map fun entry => replaced entry (texts location) := by
  unfold overwrite
  generalize disk.entries = entries
  induction entries with
  | nil => rfl
  | cons found rest ih =>
      obtain ⟨place, held⟩ := found
      simp only [List.map_cons, List.lookup_cons, ih]
      by_cases here : location = place
      · simp [here]
      · have apart : (location == place) = false := by simpa using here
        simp only [apart]

theorem get?_overwrite {disk : Disk} {texts : Location → Option Text} (files : disk.OnFiles texts)
    (location : Location) :
    (disk.overwrite texts).get? location =
      match texts location with
      | some text => some (.file (.text text))
      | none => disk.get? location := by
  cases given : texts location with
  | some text =>
      obtain ⟨content, held⟩ := files location text given
      have named : location ≠ [] := ne_nil_of_get? disk (by simp [held])
      rw [get?_of_ne_nil _ named] at held ⊢
      rw [lookup_overwrite, held, given]
      rfl
  | none =>
      by_cases root : location = []
      · rw [root, get?_nil, get?_nil]
      · rw [get?_of_ne_nil _ root, get?_of_ne_nil _ root, lookup_overwrite, given]
        exact Option.map_id'

theorem keepsDirectories_overwrite {disk : Disk} {texts : Location → Option Text}
    (files : disk.OnFiles texts) : KeepsDirectories disk (disk.overwrite texts) := by
  intro location held
  rw [get?_overwrite files]
  cases given : texts location with
  | none => exact held
  | some text =>
      obtain ⟨content, file⟩ := files location text given
      rw [held] at file
      cases file

theorem put_overwrite {disk : Disk} (texts : Location → Option Text) {location : Location}
    {content : Content} (held : disk.get? location = some (.file content)) (text : Text) :
    (disk.overwrite texts).put location (.file (.text text)) =
      disk.overwrite (Function.update texts location (some text)) := by
  have named : location ≠ [] := ne_nil_of_get? disk (by simp [held])
  rw [get?_of_ne_nil _ named] at held
  rw [put, any_eq_isSome_lookup, lookup_overwrite, held, Option.map_some, Option.isSome_some,
    if_pos rfl]
  simp only [overwrite, List.map_map, Disk.mk.injEq]
  apply List.map_congr_left
  intro found member
  by_cases here : found.1 = location
  · simp [here, replaced]
  · simp [here]

end DocblockSync.Disk
