import DocblockSync.Proofs.Affixes
import DocblockSync.Text.Letter
import Mathlib.Data.List.DropRight

/-! What trimming leaves of a text: a part of it that starts or ends with a character that is not
blank, and that trimming leaves alone. Words have no blanks, and where a blank ends a word the search
for a head without blanks does not look further. -/

namespace DocblockSync.Text

theorem trimStart_eq_nil_iff {t : Text} : trimStart t = [] ↔ ∀ c ∈ t, isBlank c = true := by
  rw [trimStart, List.dropWhile_eq_nil_iff]

theorem trimEnd_eq_nil_iff {t : Text} : trimEnd t = [] ↔ ∀ c ∈ t, isBlank c = true := by
  rw [trimEnd, List.reverse_eq_nil_iff, List.dropWhile_eq_nil_iff]
  simp

theorem trimStart_suffix (t : Text) : trimStart t <:+ t := List.dropWhile_suffix isBlank

theorem trimEnd_isPrefix (t : Text) : trimEnd t <+: t := by
  obtain ⟨blanks, split, -⟩ := exists_blanks_trimEnd t
  exact ⟨blanks, split.symm⟩

theorem trim_isInfix (t : Text) : trim t <:+: t :=
  (trimEnd_isPrefix _).isInfix.trans (trimStart_suffix t).isInfix

@[simp]
theorem trimStart_trimStart (t : Text) : trimStart (trimStart t) = trimStart t :=
  List.dropWhile_idempotent isBlank t

@[simp]
theorem trimEnd_trimEnd (t : Text) : trimEnd (trimEnd t) = trimEnd t :=
  List.rdropWhile_idempotent isBlank t

@[simp]
theorem trim_trimStart (t : Text) : trim (trimStart t) = trim t := by
  rw [trim, trimStart_trimStart, trim]

@[simp]
theorem trim_trimEnd (t : Text) : trim (trimEnd t) = trim t := by
  obtain ⟨blanks, split, blank⟩ := exists_blanks_trimEnd t
  by_cases empty : trimStart (trimEnd t) = []
  · have all : ∀ c ∈ t, isBlank c = true := by
      intro c member
      rw [split, List.mem_append] at member
      exact member.elim (trimStart_eq_nil_iff.1 empty c) (blank c)
    rw [trim, trim, empty, trimStart_eq_nil_iff.2 all]
  · have start : trimStart t = trimStart (trimEnd t) ++ blanks := by
      conv => lhs; rw [split]
      exact trimStart_append empty blanks
    rw [trim, trim, start, trimEnd_append_of_blank blank]

theorem trimStart_cons_of_not_blank {c : Char} (solid : isBlank c = false) (t : Text) :
    trimStart (c :: t) = c :: t := by
  rw [trimStart, List.dropWhile_cons_of_neg (by simp [solid])]

theorem trimStart_cons_of_blank {c : Char} (blank : isBlank c = true) (t : Text) :
    trimStart (c :: t) = trimStart t := by
  rw [trimStart, List.dropWhile_cons_of_pos blank, trimStart]

theorem head_trimStart {t rest : Text} {c : Char} (split : trimStart t = c :: rest) :
    isBlank c = false := by
  have stopped := List.head?_dropWhile_not isBlank t
  rw [← trimStart, split, List.head?_cons] at stopped
  simpa using stopped

theorem eq_nil_of_trimEnd_append {front blanks : Text} (blank : ∀ c ∈ blanks, isBlank c = true)
    (trimmed : trimEnd (front ++ blanks) = front ++ blanks) : blanks = [] := by
  rw [trimEnd_append_of_blank blank] at trimmed
  have size := (trimEnd_isPrefix front).length_le
  rw [trimmed, List.length_append] at size
  exact List.length_eq_zero_iff.1 (by omega)

theorem trimEnd_append_of_trimEnd_eq {t : Text} (trimmed : trimEnd t = t) (some : t ≠ [])
    (front : Text) : trimEnd (front ++ t) = front ++ t := by
  rw [trimEnd_append (by rwa [trimmed]), trimmed]

theorem trim_eq_self {t : Text} (start : trimStart t = t) (trimmed : trimEnd t = t) :
    trim t = t := by
  rw [trim, start, trimmed]

theorem trimStart_trim (t : Text) : trimStart (trim t) = trim t := by
  cases split : trim t with
  | nil => rfl
  | cons c rest =>
      obtain ⟨blanks, whole⟩ := exists_trimStart_eq t
      rw [split, List.cons_append] at whole
      exact trimStart_cons_of_not_blank (head_trimStart whole) rest

theorem trimEnd_trim (t : Text) : trimEnd (trim t) = trim t := by
  rw [trim, trimEnd_trimEnd]

theorem trimEnd_of_unspaced {t : Text} (unspaced : ∀ c ∈ t, isBlank c = false) : trimEnd t = t := by
  rcases List.eq_nil_or_concat' t with rfl | ⟨init, last, rfl⟩
  · rfl
  · exact trimEnd_concat_of_not_blank (unspaced last (by simp)) init

theorem trim_of_unspaced {t : Text} (unspaced : ∀ c ∈ t, isBlank c = false) : trim t = t := by
  refine trim_eq_self ?_ (trimEnd_of_unspaced unspaced)
  cases t with
  | nil => rfl
  | cons c t => exact trimStart_cons_of_not_blank (unspaced c (by simp)) t

theorem trimEnd_eq_of_suffix {s t : Text} (part : s <:+ t) (trimmed : trimEnd t = t) :
    trimEnd s = s := by
  obtain ⟨front, rfl⟩ := part
  by_cases empty : trimEnd s = []
  · rw [eq_nil_of_trimEnd_append (trimEnd_eq_nil_iff.1 empty) trimmed, trimEnd_nil]
  · rw [trimEnd_append empty] at trimmed
    exact List.append_cancel_left trimmed

theorem after?_eq_some_iff {head t rest : Text} : after? head t = some rest ↔ t = head ++ rest := by
  rw [after?, List.isPrefixOf?_eq_some_iff_append_eq, eq_comm]

theorem trim_eq_nil_iff {t : Text} : trim t = [] ↔ ∀ c ∈ t, isBlank c = true := by
  rw [trim, trimEnd_eq_nil_iff, ← trimStart_eq_nil_iff, trimStart_trimStart, trimStart_eq_nil_iff]

theorem trim_ne_nil {t : Text} (trimmed : trimEnd t = t) (some : t ≠ []) : trim t ≠ [] := by
  intro empty
  rw [trimEnd_eq_nil_iff.2 (trim_eq_nil_iff.1 empty)] at trimmed
  exact some trimmed.symm

theorem dropHead_suffix (head t : Text) : dropHead head t <:+ t := by
  unfold dropHead
  cases found : after? head t with
  | none => exact List.suffix_refl t
  | some rest => exact ⟨head, (after?_eq_some_iff.1 found).symm⟩

theorem nonempty?_eq_some_iff {t u : Text} : nonempty? t = some u ↔ t = u ∧ u ≠ [] := by
  unfold nonempty?
  cases t with
  | nil =>
      constructor
      · intro found
        cases found
      · rintro ⟨rfl, some⟩
        exact absurd rfl some
  | cons c t =>
      constructor
      · intro found
        obtain rfl := Option.some.inj found
        exact ⟨rfl, by simp⟩
      · rintro ⟨rfl, -⟩
        rfl

def blankRanges : List (Nat × Nat) :=
  [(0x85, 0x85), (0xA0, 0xA0), (0x1680, 0x1680), (0x2000, 0x200A), (0x2028, 0x2029),
    (0x202F, 0x202F), (0x205F, 0x205F), (0x3000, 0x3000)]

def areApart (ranges others : List (Nat × Nat)) : Bool :=
  ranges.all fun range => others.all fun other =>
    Nat.blt range.2 other.1 || Nat.blt other.2 range.1

theorem not_inRanges_of_areApart {ranges others : List (Nat × Nat)} {code : Nat}
    (apart : areApart ranges others = true) (inside : inRanges others code = true) :
    inRanges ranges code = false := by
  by_contra found
  obtain ⟨range, member, within⟩ := List.any_eq_true.1 (Bool.not_eq_false _ ▸ found)
  obtain ⟨other, member', within'⟩ := List.any_eq_true.1 inside
  have disjoint := List.all_eq_true.1 (List.all_eq_true.1 apart range member) other member'
  simp only [Bool.and_eq_true, Bool.or_eq_true, decide_eq_true_eq, Nat.blt_eq] at *
  omega

theorem inRanges_of_isBlank {c : Char} (large : ¬c.toNat < 0x80) (blank : isBlank c = true) :
    inRanges blankRanges c.toNat = true := by
  have ret : (c ≤ '\r') ↔ c.toNat ≤ 13 := Iff.rfl
  have space : (c = ' ') ↔ c.toNat = 32 := Char.toNat_inj.symm
  simp only [isBlank, Bool.or_eq_true, Bool.and_eq_true, beq_iff_eq, decide_eq_true_eq, ret,
    space] at blank
  simp only [inRanges, blankRanges, List.any_cons, List.any_nil, Bool.or_false, Bool.or_eq_true,
    Bool.and_eq_true, decide_eq_true_eq]
  omega

theorem not_isBlank_of_inRanges {ranges : List (Nat × Nat)}
    (apart : areApart ranges blankRanges = true) {c : Char} (large : ¬c.toNat < 0x80)
    (inside : inRanges ranges c.toNat = true) : isBlank c = false := by
  by_contra blank
  rw [not_inRanges_of_areApart apart
    (inRanges_of_isBlank large (Bool.not_eq_false _ ▸ blank))] at inside
  cases inside

theorem not_isBlank_of_isWordChar {c : Char} (word : isWordChar c = true) : isBlank c = false := by
  by_cases small : c.toNat < 0x80
  · have ascii : ∀ code < 0x80, isWordChar (Char.ofNat code) = true →
        isBlank (Char.ofNat code) = false := by decide
    have here := ascii c.toNat small
    rw [Char.ofNat_toNat] at here
    exact here word
  · have apart : areApart (alphabeticRanges ++ decimalRanges ++ markRanges ++ connectorRanges)
        blankRanges = true := by decide +kernel
    refine not_isBlank_of_inRanges apart small ?_
    simpa only [inRanges, List.any_append, isWordChar, if_neg small] using word

theorem not_isBlank_of_isAlphanumeric {c : Char} (letter : isAlphanumeric c = true) :
    isBlank c = false := by
  by_cases small : c.toNat < 0x80
  · refine not_isBlank_of_isWordChar ?_
    rw [isAlphanumeric, if_pos small] at letter
    rw [isWordChar, if_pos small, letter, Bool.true_or]
  · have apart : areApart (alphabeticRanges ++ decimalRanges ++ otherNumberRanges)
        blankRanges = true := by decide +kernel
    refine not_isBlank_of_inRanges apart small ?_
    simpa only [inRanges, List.any_append, isAlphanumeric, if_neg small] using letter

/-- A text in front of which a word ends. -/
def IsBreak (t : Text) : Prop := ∀ c ∈ t.head?, isBlank c = true

theorem isBreak_nil : IsBreak [] := by simp [IsBreak]

@[simp]
theorem isBreak_cons {c : Char} {t : Text} : IsBreak (c :: t) ↔ isBlank c = true := by
  simp [IsBreak]

theorem takeWhile_isWordChar_append {word rest : Text} (all : ∀ c ∈ word, isWordChar c = true)
    (stops : IsBreak rest) : (word ++ rest).takeWhile isWordChar = word := by
  rw [List.takeWhile_append_of_pos all]
  cases rest with
  | nil => simp
  | cons c rest =>
      have stop : ¬isWordChar c = true := fun char => by
        simp [not_isBlank_of_isWordChar char] at stops
      simp [stop]

theorem dropWhile_isWordChar_append {word rest : Text} (all : ∀ c ∈ word, isWordChar c = true)
    (stops : IsBreak rest) : (word ++ rest).dropWhile isWordChar = rest := by
  have whole := List.takeWhile_append_dropWhile (p := isWordChar) (l := word ++ rest)
  rw [takeWhile_isWordChar_append all stops] at whole
  exact List.append_cancel_left whole

theorem exists_of_append_eq_append_blank {word tail front rest : Text} {b : Char}
    (solid : ∀ c ∈ word, isBlank c = false) (blank : isBlank b = true)
    (same : word ++ tail = front ++ b :: rest) :
    ∃ between, front = word ++ between ∧ tail = between ++ b :: rest := by
  rcases List.append_eq_append_iff.1 same with ⟨between, left, right⟩ | ⟨between, left, right⟩
  · exact ⟨between, left, right⟩
  · cases between with
    | nil => exact ⟨[], by simpa using left.symm, by simpa using right.symm⟩
    | cons c between =>
        rw [List.cons_append, List.cons.injEq] at right
        have solid' := solid c (by rw [left]; simp)
        rw [← right.1, blank] at solid'
        cases solid'

theorem after?_append_blank {head : Text} (solid : head.any isBlank = false) {b : Char}
    (blank : isBlank b = true) (t rest : Text) :
    after? head (t ++ b :: rest) = (after? head t).map (· ++ b :: rest) := by
  cases found : after? head t with
  | some behind =>
      rw [after?_eq_some_iff.1 found, List.append_assoc, after?_append]
      rfl
  | none =>
      rw [Option.map_none, Option.eq_none_iff_forall_ne_some]
      intro behind found'
      obtain ⟨between, split, -⟩ := exists_of_append_eq_append_blank (by simpa using solid) blank
        (after?_eq_some_iff.1 found').symm
      rw [after?_eq_some_iff.2 split] at found
      cases found

theorem dropHead_append_blank {head : Text} (solid : head.any isBlank = false) {b : Char}
    (blank : isBlank b = true) (t rest : Text) :
    dropHead head (t ++ b :: rest) = dropHead head t ++ b :: rest := by
  rw [dropHead, dropHead, after?_append_blank solid blank]
  cases after? head t <;> rfl

end DocblockSync.Text
