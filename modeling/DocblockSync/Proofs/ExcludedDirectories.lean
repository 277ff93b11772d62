import DocblockSync.Config
import DocblockSync.Proofs.Affixes

/-! Patterns for directories. A pattern that ends in a slash and has no special characters excludes
the paths that lead through the directory it names: as a glob pattern it matches its own text alone,
and the texts that it is searched for start and end at slashes, so that they are whole components of
a path and never parts of their names. -/

namespace DocblockSync.Text

theorem joinWith_append (separator : Text) {first second : List Text} (some : first ≠ [])
    (more : second ≠ []) :
    joinWith separator (first ++ second) =
      joinWith separator first ++ (separator ++ joinWith separator second) := by
  unfold joinWith
  induction first with
  | nil => exact absurd rfl some
  | cons segment first ih =>
      by_cases last : first = []
      · subst last
        rw [List.singleton_append, List.intercalate_cons_of_ne_nil more, List.intercalate_singleton,
          List.append_assoc]
      · have follows : first ++ second ≠ [] := List.append_ne_nil_of_left_ne_nil last second
        rw [List.cons_append, List.intercalate_cons_of_ne_nil follows, ih last,
          List.intercalate_cons_of_ne_nil last]
        simp only [List.append_assoc]

theorem exists_of_splitOn_eq_append {separator : Char} {t : Text} {first second : List Text}
    (some : first ≠ []) (more : second ≠ []) (split : t.splitOn separator = first ++ second) :
    ∃ front rest, t = front ++ separator :: rest ∧ front.splitOn separator = first ∧
      rest.splitOn separator = second := by
  have free : ∀ segment ∈ first ++ second, separator ∉ segment := by
    rw [← split]
    exact fun segment member => not_mem_of_mem_splitOn member
  rw [List.forall_mem_append] at free
  have joined : joinWith [separator] (first ++ second) = t := by
    rw [← split]
    exact List.intercalate_splitOn separator
  refine ⟨joinWith [separator] first, joinWith [separator] second, ?_,
    List.splitOn_intercalate separator free.1 some, List.splitOn_intercalate separator free.2 more⟩
  rw [← joined, joinWith_append _ some more]
  rfl

theorem eq_of_splitOn_eq {separator : Char} {s t : Text}
    (same : s.splitOn separator = t.splitOn separator) : s = t :=
  calc
    s = [separator].intercalate (s.splitOn separator) := (List.intercalate_splitOn separator).symm
    _ = [separator].intercalate (t.splitOn separator) := by rw [same]
    _ = t := List.intercalate_splitOn separator

end DocblockSync.Text

namespace DocblockSync.Glob

open Text

/-- The characters that a pattern does not take as they stand. -/
def isSpecial (c : Char) : Bool := c == '*' || c == '?' || c == '[' || c == ']'

theorem parseFrom_plain {pattern : Text} (plain : pattern.any isSpecial = false)
    (previous : Option Char) {fuel : Nat} (enough : pattern.length ≤ fuel) :
    parseFrom fuel previous pattern = some (pattern.map .char) := by
  induction pattern generalizing previous fuel with
  | nil => cases fuel <;> rfl
  | cons c pattern ih =>
      rw [List.any_cons, Bool.or_eq_false_iff] at plain
      obtain ⟨here, later⟩ := plain
      obtain ⟨fuel, rfl⟩ := Nat.exists_eq_add_of_le' (Nat.le_trans (Nat.succ_pos _) enough)
      rw [isSpecial, Bool.or_eq_false_iff, Bool.or_eq_false_iff, Bool.or_eq_false_iff] at here
      simp only [beq_eq_false_iff_ne] at here
      obtain ⟨⟨⟨star, question⟩, bracket⟩, -⟩ := here
      rw [parseFrom, ih later (some c) (Nat.le_of_succ_le_succ enough)]
      · rfl
      all_goals simp [star, question, bracket]

theorem matchesTokens_chars_iff {pattern t : Text} :
    matchesTokens (pattern.map .char) t = true ↔ t = pattern := by
  induction pattern generalizing t with
  | nil => rw [List.map_nil, matchesTokens, List.isEmpty_iff]
  | cons c pattern ih =>
      cases t with
      | nil => simp [matchesTokens]
      | cons d t => simp [matchesTokens, Token.accepts, ih]

end DocblockSync.Glob

namespace DocblockSync.Path

open Text

theorem eq_of_bodyPart? {segment name : Text} (part : bodyPart? segment = some (.name name)) :
    name = segment := by
  unfold bodyPart? at part
  split at part
  · cases part
  split at part
  · cases part
  · exact (PathPart.name.inj (Option.some.inj part)).symm

theorem mem_splitOn_of_mem_parts {path name : Text} (member : .name name ∈ parts path) :
    name ∈ path.splitOn '/' := by
  unfold parts at member
  split at member
  · cases member
  · next first rest split =>
      rw [split]
      rcases List.mem_append.1 member with front | later
      · have part : firstPart? first (path.head? == some '/') = some (.name name) :=
          Option.mem_toList.1 front
        unfold firstPart? at part
        split at part
        · cases part
        split at part
        · cases part
        · rw [eq_of_bodyPart? part]
          exact List.mem_cons_self
      · obtain ⟨segment, listed, part⟩ := List.mem_filterMap.1 later
        rw [eq_of_bodyPart? part]
        exact List.mem_cons_of_mem _ listed

theorem not_mem_fileName? {path name : Text} (found : fileName? path = some name) : '/' ∉ name := by
  unfold fileName? at found
  split at found
  · next last =>
      cases found
      exact not_mem_of_mem_splitOn (mem_splitOn_of_mem_parts (List.mem_of_getLast? last))
  · cases found

/-- A path leads through a directory: the components of the directory stand one behind the other
among those of the path, and the last component of the path is none of them. -/
def LeadsThrough (directory path : Text) : Prop :=
  directory.splitOn '/' <:+: (path.splitOn '/').dropLast

instance (directory path : Text) : Decidable (LeadsThrough directory path) :=
  inferInstanceAs (Decidable (directory.splitOn '/' <:+: (path.splitOn '/').dropLast))

/-- A directory on a path stands at its start or behind a slash, and before a slash. -/
theorem leadsThrough_iff {directory path : Text} :
    LeadsThrough directory path ↔ (∃ rest, path = directory ++ '/' :: rest) ∨
      ∃ front rest, path = front ++ '/' :: (directory ++ '/' :: rest) := by
  have solid : ∀ t : Text, t.splitOn '/' ≠ [] := List.splitOn_ne_nil '/'
  constructor
  · rintro ⟨before, after, run⟩
    have whole : path.splitOn '/' = before ++ (directory.splitOn '/' ++
        (after ++ [(path.splitOn '/').getLast (solid path)])) := by
      rw [← List.append_assoc, ← List.append_assoc, run,
        List.dropLast_concat_getLast]
    by_cases starts : before = []
    · subst starts
      obtain ⟨front, rest, rfl, same, -⟩ := exists_of_splitOn_eq_append (solid _) (by simp) whole
      exact .inl ⟨rest, by rw [eq_of_splitOn_eq same]⟩
    · obtain ⟨front, behind, rfl, -, split⟩ :=
        exists_of_splitOn_eq_append starts (by simp) whole
      obtain ⟨middle, rest, rfl, same, -⟩ := exists_of_splitOn_eq_append (solid _) (by simp) split
      exact .inr ⟨front, rest, by rw [eq_of_splitOn_eq same]⟩
  · rintro (⟨rest, rfl⟩ | ⟨front, rest, rfl⟩)
    · rw [LeadsThrough, List.splitOn_append_cons_self, List.dropLast_append_of_ne_nil (solid rest)]
      exact (List.prefix_append _ _).isInfix
    · rw [LeadsThrough, List.splitOn_append_cons_self, List.splitOn_append_cons_self,
        List.dropLast_append_of_ne_nil (by simp [solid]),
        List.dropLast_append_of_ne_nil (solid rest)]
      exact ⟨front.splitOn '/', (rest.splitOn '/').dropLast, by simp⟩

end DocblockSync.Path

namespace DocblockSync.Config

open Text

/-- A pattern that names a directory: a text without special characters, and one slash behind it. -/
structure IsDirectoryPattern (directory pattern : Text) : Prop where
  slash : pattern = directory ++ ['/']
  plain : directory.any Glob.isSpecial = false
  single : directory.getLast? ≠ some '/'

variable {directory pattern : Text}

theorem IsDirectoryPattern.excludesName_iff (names : IsDirectoryPattern directory pattern)
    {path : Text} : excludesName pattern path = true ↔ path = pattern := by
  have plain : pattern.any Glob.isSpecial = false := by
    rw [names.slash, List.any_append, names.plain]
    rfl
  have parsed : Glob.parse? pattern = some (pattern.map .char) :=
    Glob.parseFrom_plain plain none (Nat.le_refl _)
  rw [excludesName, parsed]
  simp only [Bool.or_eq_true, Glob.matchesTokens_chars_iff]
  -- the file name at the end of a path has no slash, so the pattern does not match it
  refine or_iff_left fun named => ?_
  obtain ⟨name, found, same⟩ := (Option.any_eq_true _ _).1 named
  rw [Glob.matchesTokens_chars_iff, names.slash] at same
  exact Path.not_mem_fileName? found (by simp [same])

theorem IsDirectoryPattern.reverse_dropWhile (names : IsDirectoryPattern directory pattern) :
    (pattern.reverse.dropWhile (· == '/')).reverse = directory := by
  have last := names.single
  rw [← List.head?_reverse] at last
  rw [names.slash, List.reverse_concat, List.dropWhile_cons_of_pos (by decide), ← List.reverse_inj,
    List.reverse_reverse]
  cases back : directory.reverse with
  | nil => rfl
  | cons c front =>
      rw [back, List.head?_cons] at last
      exact List.dropWhile_cons_of_neg (by simpa using last)

theorem IsDirectoryPattern.excludesDirectory_iff (names : IsDirectoryPattern directory pattern)
    {path : Text} : excludesDirectory pattern path = true ↔ Path.LeadsThrough directory path := by
  have ends : endsWith ['/'] pattern = true := endsWith_iff.2 ⟨directory, names.slash⟩
  rw [excludesDirectory, ends, names.reverse_dropWhile, Bool.true_and, Bool.or_eq_true,
    contains_iff, startsWith_iff, Path.leadsThrough_iff, or_comm]
  simp only [List.cons_append, List.append_assoc, List.nil_append]

theorem IsDirectoryPattern.excludes_iff (names : IsDirectoryPattern directory pattern)
    {path : Text} :
    (excludesName pattern path || excludesDirectory pattern path) = true ↔
      Path.LeadsThrough directory path := by
  rw [Bool.or_eq_true, names.excludesName_iff, names.excludesDirectory_iff, or_iff_right_iff_imp]
  rintro rfl
  exact Path.leadsThrough_iff.2 (.inl ⟨[], names.slash⟩)

/-- Patterns of directories exclude whole components and nothing else: a path is excluded exactly if
it leads through one of the directories. -/
theorem directory_patterns_exclude_components (config : Config) (path : Text)
    (directories : ∀ pattern ∈ config.exclude, ∃ directory, IsDirectoryPattern directory pattern) :
    config.excludes path = true ↔
      ∃ directory, directory ++ ['/'] ∈ config.exclude ∧ Path.LeadsThrough directory path := by
  rw [excludes, List.any_eq_true]
  constructor
  · rintro ⟨pattern, listed, excluded⟩
    obtain ⟨directory, names⟩ := directories pattern listed
    exact ⟨directory, names.slash ▸ listed, names.excludes_iff.1 excluded⟩
  · rintro ⟨directory, listed, leads⟩
    obtain ⟨other, names⟩ := directories _ listed
    obtain rfl : directory = other := List.append_cancel_right names.slash
    exact ⟨_, listed, names.excludes_iff.2 leads⟩

theorem directory_patterns_exclude_components_nested :
    let config : Config := { exclude := ["lib/vendor/".toList] }
    config.excludes "./a//lib/vendor/b.php".toList = true ∧
      config.excludes "mylib/vendor/b.php".toList = false ∧
      config.excludes "a/lib/vendor".toList = false := by
  intro config
  have leads : ∀ path, config.excludes path = true ↔ Path.LeadsThrough "lib/vendor".toList path := by
    intro path
    rw [directory_patterns_exclude_components config path]
    · constructor
      · rintro ⟨directory, listed, leads⟩
        have same : directory ++ ['/'] = "lib/vendor".toList ++ ['/'] := List.mem_singleton.1 listed
        rwa [List.append_cancel_right same] at leads
      · exact fun leads => ⟨"lib/vendor".toList, by decide, leads⟩
    · intro pattern listed
      rw [List.mem_singleton.1 listed]
      exact ⟨"lib/vendor".toList, rfl, by decide, by decide⟩
  rw [← Bool.not_eq_true, ← Bool.not_eq_true, leads, leads, leads]
  decide +kernel

end DocblockSync.Config
