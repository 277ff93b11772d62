import DocblockSync.Docblock.Merge
import Mathlib.Data.List.Basic

/-! Throws tags brought up to date with the types that are thrown. Tags of types no longer thrown go,
and every thrown type that no tag names gets one, so that afterwards each thrown type is named and
nothing is left to do. Types are told apart up to their spelling. -/

namespace DocblockSync.Docblock

open Text

/-- A name that stands in a tag as one word. -/
structure IsWord (t : Text) : Prop where
  solid : t ≠ []
  unspaced : ∀ c ∈ t, isBlank c = false

theorem isWord_iff {t : Text} : (!t.isEmpty && t.all fun c => !isBlank c) = true ↔ IsWord t := by
  rw [Bool.and_eq_true, List.all_eq_true]
  constructor
  · rintro ⟨solid, unspaced⟩
    exact ⟨by simpa using solid, fun c member => by simpa using unspaced c member⟩
  · intro word
    exact ⟨by simpa using word.solid, fun c member => by simpa using word.unspaced c member⟩

instance (t : Text) : Decidable (IsWord t) := decidable_of_iff _ isWord_iff

def names (tag : Tag) (type : Text) : Bool := tag.throwsType?.any fun name => sameType name type

theorem sameType_iff {a b : Text} :
    sameType a b = true ↔
      lowerAscii (a.dropWhile (· == '\\')) = lowerAscii (b.dropWhile (· == '\\')) := by
  rw [sameType, sameIgnoringCase, beq_iff_eq]

theorem sameType_self (t : Text) : sameType t t = true := sameType_iff.2 rfl

theorem sameType_comm (a b : Text) : sameType a b = sameType b a := by
  rw [Bool.eq_iff_iff, sameType_iff, sameType_iff, eq_comm]

theorem sameType_trans {a b c : Text} (first : sameType a b = true) (second : sameType b c = true) :
    sameType a c = true :=
  sameType_iff.2 ((sameType_iff.1 first).trans (sameType_iff.1 second))

theorem names_of_sameType {tag : Tag} {a b : Text} (named : names tag a = true)
    (same : sameType a b = true) : names tag b = true := by
  unfold names at named ⊢
  cases known : tag.throwsType? with
  | none => rw [known] at named; cases named
  | some name =>
      rw [known] at named
      exact sameType_trans named same

theorem sameType_of_names {tag : Tag} {a b : Text} (first : names tag a = true)
    (second : names tag b = true) : sameType a b = true := by
  unfold names at first second
  cases known : tag.throwsType? with
  | none => rw [known] at first; cases first
  | some name =>
      rw [known, Option.any_some] at first second
      exact sameType_trans (by rw [sameType_comm]; exact first) second

theorem tagName?_throwing (t : Text) :
    tagName? (Tag.throwing t).text = some "@throws".toList := rfl

theorem isThrows_throwing (t : Text) : (Tag.throwing t).isThrows = true := by
  rw [Tag.isThrows, tagName?_throwing, beq_self_eq_true]

theorem throwsType?_throwing {t : Text} (word : IsWord t) :
    (Tag.throwing t).throwsType? = some t := by
  have head : "@throws".toList.splitOnP isBlank = ["@throws".toList] := by decide
  have split : (Tag.throwing t).text.splitOnP isBlank = ["@throws".toList, t] := by
    have text : (Tag.throwing t).text = "@throws".toList ++ ' ' :: t := rfl
    rw [text, List.splitOnP_append_cons _ _ (by decide), head,
      List.splitOnP_eq_singleton word.unspaced]
    rfl
  rw [Tag.throwsType?, if_pos (isThrows_throwing t), words, split]
  simp [word.solid]

theorem names_throwing {t : Text} (word : IsWord t) (type : Text) :
    names (Tag.throwing t) type = sameType t type := by
  rw [names, throwsType?_throwing word, Option.any_some]

theorem documentsThrow_eq_any (tags : List Tag) (type : Text) :
    documentsThrow tags type = tags.any fun tag => names tag type := by
  rw [documentsThrow, List.any_filterMap]
  rfl

theorem documentsThrow_iff {tags : List Tag} {type : Text} :
    documentsThrow tags type = true ↔ ∃ tag ∈ tags, names tag type = true := by
  rw [documentsThrow_eq_any, List.any_eq_true]

theorem isThrows_of_names {tag : Tag} {type : Text} (named : names tag type = true) :
    tag.isThrows = true := by
  by_contra silent
  rw [names, Tag.throwsType?, if_neg silent] at named
  cases named

theorem staysThrown_eq (thrown : List Text) (tag : Tag) :
    staysThrown thrown tag = (!tag.isThrows || thrown.any (names tag)) := by
  unfold staysThrown
  congr 1
  cases known : tag.throwsType? with
  | none => simp [names, known]
  | some name =>
      rw [Option.any_some]
      congr 1
      funext type
      rw [names, known, Option.any_some, sameType_comm]

def undocumented (tags : List Tag) : List Text → List Text
  | [] => []
  | type :: thrown =>
      if documentsThrow tags type then undocumented tags thrown
      else type :: undocumented (tags ++ [Tag.throwing type]) thrown

theorem foldl_addThrow_eq (tags : List Tag) (thrown : List Text) :
    thrown.foldl addThrow tags = tags ++ (undocumented tags thrown).map Tag.throwing := by
  induction thrown generalizing tags with
  | nil => simp [undocumented]
  | cons type thrown ih =>
      rw [List.foldl_cons, ih, addThrow, undocumented]
      split
      · rfl
      · rw [List.map_cons, List.append_assoc, List.singleton_append]

theorem undocumented_sublist (tags : List Tag) (thrown : List Text) :
    (undocumented tags thrown).Sublist thrown := by
  induction thrown generalizing tags with
  | nil => exact List.Sublist.refl []
  | cons type thrown ih =>
      rw [undocumented]
      split
      · exact (ih tags).cons type
      · exact (ih _).cons_cons type

theorem exists_of_mem_foldl_addThrow {thrown : List Text} {tags : List Tag} {tag : Tag}
    (member : tag ∈ thrown.foldl addThrow tags) :
    tag ∈ tags ∨ ∃ t ∈ thrown, tag = Tag.throwing t := by
  rw [foldl_addThrow_eq, List.mem_append, List.mem_map] at member
  refine member.imp_right ?_
  rintro ⟨t, new, rfl⟩
  exact ⟨t, (undocumented_sublist tags thrown).subset new, rfl⟩

theorem exists_throwing_of_mem {thrown : List Text} {tag : Tag}
    (member : tag ∈ thrown.foldl addThrow []) : ∃ t ∈ thrown, tag = Tag.throwing t :=
  (exists_of_mem_foldl_addThrow member).resolve_left (by simp)

theorem documentsThrow_of_mem_undocumented {tags : List Tag} {thrown : List Text} {type : Text}
    (new : type ∈ undocumented tags thrown) : documentsThrow tags type = false := by
  induction thrown generalizing tags with
  | nil => cases new
  | cons first thrown ih =>
      rw [undocumented] at new
      split at new
      · exact ih new
      · next absent =>
          rcases List.mem_cons.1 new with rfl | later
          · exact Bool.eq_false_iff.2 absent
          · have apart := ih later
            rw [documentsThrow_eq_any, List.any_append, Bool.or_eq_false_iff] at apart
            rw [documentsThrow_eq_any]
            exact apart.1

theorem pairwise_undocumented {thrown : List Text} (words : ∀ type ∈ thrown, IsWord type)
    (tags : List Tag) : (undocumented tags thrown).Pairwise fun a b => sameType a b = false := by
  induction thrown generalizing tags with
  | nil => exact List.Pairwise.nil
  | cons first thrown ih =>
      rw [List.forall_mem_cons] at words
      rw [undocumented]
      split
      · exact ih words.2 tags
      · refine List.pairwise_cons.2 ⟨fun type later => ?_, ih words.2 _⟩
        have apart := documentsThrow_of_mem_undocumented later
        rw [documentsThrow_eq_any, List.any_append, Bool.or_eq_false_iff] at apart
        simpa [names_throwing words.1] using apart.2

theorem documentsThrow_addThrow {tags : List Tag} {type : Text}
    (documented : documentsThrow tags type = true) (other : Text) :
    documentsThrow (addThrow tags other) type = true := by
  unfold addThrow
  split
  · exact documented
  · rw [documentsThrow_eq_any] at documented ⊢
    rw [List.any_append, documented, Bool.true_or]

theorem documentsThrow_foldl_addThrow {tags : List Tag} {type : Text}
    (documented : documentsThrow tags type = true) (thrown : List Text) :
    documentsThrow (thrown.foldl addThrow tags) type = true := by
  induction thrown generalizing tags with
  | nil => exact documented
  | cons other thrown ih => exact ih (documentsThrow_addThrow documented other)

theorem documentsThrow_of_mem {thrown : List Text} (words : ∀ t ∈ thrown, IsWord t)
    {type : Text} (member : type ∈ thrown) (tags : List Tag) :
    documentsThrow (thrown.foldl addThrow tags) type = true := by
  induction thrown generalizing tags with
  | nil => cases member
  | cons first thrown ih =>
      rw [List.forall_mem_cons] at words
      rcases List.mem_cons.1 member with rfl | member
      · refine documentsThrow_foldl_addThrow ?_ thrown
        unfold addThrow
        split
        · assumption
        · rw [documentsThrow_iff]
          exact ⟨Tag.throwing type, by simp, by rw [names_throwing words.1, sameType_self]⟩
      · exact ih words.2 member _

theorem foldl_addThrow_of_documented {thrown : List Text} {tags : List Tag}
    (documented : ∀ t ∈ thrown, documentsThrow tags t = true) : thrown.foldl addThrow tags = tags := by
  induction thrown with
  | nil => rfl
  | cons first thrown ih =>
      rw [List.forall_mem_cons] at documented
      have step : addThrow tags first = tags := by rw [addThrow, if_pos documented.1]
      rw [List.foldl_cons, step, ih documented.2]

theorem reconcileThrows_eq_self {tags : List Tag} {thrown : List Text}
    (stays : ∀ tag ∈ tags, staysThrown thrown tag = true)
    (documented : ∀ t ∈ thrown, documentsThrow tags t = true) :
    reconcileThrows tags thrown = tags := by
  rw [reconcileThrows, List.filter_eq_self.2 stays, foldl_addThrow_of_documented documented]

section Words

variable {thrown : List Text} (words : ∀ type ∈ thrown, IsWord type)

include words

theorem staysThrown_of_mem_reconcileThrows {old : List Tag} {tag : Tag}
    (member : tag ∈ reconcileThrows old thrown) : staysThrown thrown tag = true := by
  rcases exists_of_mem_foldl_addThrow member with kept | ⟨t, among, rfl⟩
  · exact (List.mem_filter.1 kept).2
  · rw [staysThrown_eq, Bool.or_eq_true]
    refine .inr (List.any_eq_true.2 ⟨t, among, ?_⟩)
    rw [names_throwing (words t among), sameType_self]

theorem reconcileThrows_idem (old : List Tag) :
    reconcileThrows (reconcileThrows old thrown) thrown = reconcileThrows old thrown :=
  reconcileThrows_eq_self (fun _ => staysThrown_of_mem_reconcileThrows words)
    fun _ member => documentsThrow_of_mem words member _

theorem exists_names_reconcileThrows_iff {old : List Tag} {type : Text} :
    (∃ tag ∈ reconcileThrows old thrown, names tag type = true) ↔
      ∃ t ∈ thrown, sameType t type = true := by
  constructor
  · rintro ⟨tag, member, named⟩
    have stays := staysThrown_of_mem_reconcileThrows words member
    rw [staysThrown_eq, isThrows_of_names named] at stays
    obtain ⟨t, among, alike⟩ := List.any_eq_true.1 stays
    exact ⟨t, among, sameType_of_names alike named⟩
  · rintro ⟨t, among, same⟩
    obtain ⟨tag, member, named⟩ := documentsThrow_iff.1
      (documentsThrow_of_mem words among (old.filter (staysThrown thrown)))
    exact ⟨tag, member, names_of_sameType named same⟩

theorem not_names_of_undocumented {tags before after : List Tag} {tag other : Tag} {type : Text}
    (split : (undocumented tags thrown).map Tag.throwing = before ++ tag :: after)
    (member : other ∈ tags ++ (before ++ after)) (named : names tag type = true) :
    names other type = false := by
  obtain ⟨front, rest, new, rfl, below⟩ := List.map_eq_append_iff.1 split
  obtain ⟨t, last, rfl, rfl, rfl⟩ := List.map_eq_cons_iff.1 below
  have inside : ∀ s ∈ front ++ t :: last, s ∈ undocumented tags thrown := fun s => by rw [new]; exact id
  have word : ∀ s ∈ front ++ t :: last, IsWord s := fun s among =>
    words s ((undocumented_sublist tags thrown).subset (inside s among))
  have distinct := pairwise_undocumented words tags
  rw [new, List.pairwise_append, List.pairwise_cons] at distinct
  obtain ⟨-, ⟨later, -⟩, earlier⟩ := distinct
  have apart : names other t = false := by
    rcases List.mem_append.1 member with kept | added
    · have absent := documentsThrow_of_mem_undocumented (inside t (by simp))
      rw [documentsThrow_eq_any, List.any_eq_false] at absent
      exact Bool.eq_false_iff.2 (absent other kept)
    · rw [← List.map_append] at added
      obtain ⟨s, among, rfl⟩ := List.mem_map.1 added
      rcases List.mem_append.1 among with above | under
      · rw [names_throwing (word s (by simp [above]))]
        exact earlier s above t (by simp)
      · rw [names_throwing (word s (by simp [under])), sameType_comm]
        exact later s under
  rw [names_throwing (word t (by simp)), sameType_comm] at named
  by_contra shared
  rw [names_of_sameType (Bool.not_eq_false _ ▸ shared) named] at apart
  cases apart

end Words

/-- The tags that stay are those of the author that are not outdated, as they stood; behind them the
types that none of them names get a tag each. Exactly the thrown types are named, and doing it again
changes nothing. -/
theorem throws_brought_up_to_date (old : List Tag) {thrown : List Text}
    (words : ∀ type ∈ thrown, IsWord type) :
    (∃ (kept : List Tag) (generated : List Text),
      kept = old.filter (fun tag => !tag.isThrows || thrown.any (names tag)) ∧
      generated.Sublist thrown ∧
      reconcileThrows old thrown = kept ++ generated.map Tag.throwing ∧
      ∀ before tag after, generated.map Tag.throwing = before ++ tag :: after →
        ∀ other ∈ kept ++ (before ++ after), ∀ type,
          names tag type = true → names other type = false) ∧
      (∀ type, (∃ tag ∈ reconcileThrows old thrown, names tag type = true) ↔
        ∃ t ∈ thrown, sameType t type = true) ∧
      reconcileThrows (reconcileThrows old thrown) thrown = reconcileThrows old thrown := by
  have kept : staysThrown thrown = fun tag => !tag.isThrows || thrown.any (names tag) :=
    funext (staysThrown_eq thrown)
  refine ⟨⟨_, undocumented (old.filter (staysThrown thrown)) thrown, rfl, ?_, ?_, ?_⟩,
    fun type => exists_names_reconcileThrows_iff words, reconcileThrows_idem words old⟩
  · exact undocumented_sublist _ thrown
  · rw [reconcileThrows, foldl_addThrow_eq, kept]
  · intro before tag after split other member type named
    rw [← kept] at member
    exact not_names_of_undocumented words split member named

theorem throws_brought_up_to_date_mixed :
    (∀ type ∈ ["Foo".toList, "\\Bar".toList, "bar".toList], IsWord type) ∧
      ∃ tags : List Tag,
        tags = [{ text := "@throws \\foo when empty".toList }, { text := "@see x".toList },
          { text := "@throws \\Bar".toList }] ∧
        reconcileThrows
          [{ text := "@throws \\foo when empty".toList }, { text := "@throws".toList },
            { text := "@see x".toList }, { text := "@throws Gone".toList }]
          ["Foo".toList, "\\Bar".toList, "bar".toList] = tags ∧
        reconcileThrows tags ["Foo".toList, "\\Bar".toList, "bar".toList] = tags := by
  have words : ∀ type ∈ ["Foo".toList, "\\Bar".toList, "bar".toList], IsWord type := by
    simp only [List.forall_mem_cons, List.not_mem_nil, false_implies, implies_true, and_true]
    exact ⟨by decide, by decide, by decide⟩
  obtain ⟨-, -, again⟩ := throws_brought_up_to_date
    [{ text := "@throws \\foo when empty".toList }, { text := "@throws".toList },
      { text := "@see x".toList }, { text := "@throws Gone".toList }] words
  exact ⟨words, _, rfl, by decide, again⟩

end DocblockSync.Docblock
