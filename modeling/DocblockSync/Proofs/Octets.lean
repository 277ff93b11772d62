import DocblockSync.Proofs.Boundary
import Mathlib.Data.List.Basic

/-! The bytes of a text. A character of ASCII is its own byte, and all bytes of another character lie
beyond ASCII, so a byte of ASCII is a character of the text wherever it is met. At a boundary the
bytes ahead are the bytes of the text ahead; within a character the rest of its bytes comes first. -/

namespace DocblockSync.Text

def isAscii (c : Char) : Bool := c.toNat < 0x80

def charOctets (c : Char) : Text := (String.utf8EncodeChar c).map Char.ofUInt8

/-- The bytes of a text, each as the character of that code, so that classes of characters are
classes of bytes as well. -/
def octets (t : Text) : Text := t.flatMap charOctets

@[simp]
theorem octets_nil : octets [] = [] := rfl

@[simp]
theorem octets_cons (c : Char) (t : Text) : octets (c :: t) = charOctets c ++ octets t := rfl

@[simp]
theorem octets_append (s t : Text) : octets (s ++ t) = octets s ++ octets t := List.flatMap_append

@[simp]
theorem length_charOctets (c : Char) : (charOctets c).length = c.utf8Size := by simp [charOctets]

theorem charOctets_ne_nil (c : Char) : charOctets c ≠ [] := by
  rw [← List.length_pos_iff, length_charOctets]
  exact c.utf8Size_pos

@[simp]
theorem length_octets (t : Text) : (octets t).length = byteLength t := by
  induction t with
  | nil => rfl
  | cons c t ih => simp [ih]

theorem isAscii_iff {c : Char} : isAscii c = true ↔ c.utf8Size = 1 := by
  rw [isAscii, decide_eq_true_eq, Char.utf8Size_eq_one_iff, UInt32.le_iff_toNat_le]
  exact Nat.lt_succ_iff

theorem toNat_ofUInt8 (byte : UInt8) : (Char.ofUInt8 byte).toNat = byte.toNat :=
  UInt8.toNat_toUInt32 byte

theorem charOctets_of_isAscii {c : Char} (ascii : isAscii c = true) : charOctets c = [c] := by
  rw [charOctets, String.utf8EncodeChar_eq_singleton (isAscii_iff.1 ascii)]
  rw [isAscii, decide_eq_true_eq] at ascii
  refine List.singleton_inj.2 (Char.toNat_inj.1 ?_)
  have small : c.val.toNat < 256 := Nat.lt_trans ascii (by decide)
  rw [toNat_ofUInt8, UInt32.toNat_toUInt8]
  exact Nat.mod_eq_of_lt small

theorem isAscii_ofUInt8_or {x high : UInt8} (beyond : 0x80 ≤ high.toNat) :
    isAscii (Char.ofUInt8 (x ||| high)) = false := by
  have above : high.toNat ≤ x.toNat ||| high.toNat := Nat.right_le_or
  rw [isAscii, toNat_ofUInt8, UInt8.toNat_or, decide_eq_false_iff_not]
  omega

theorem isAscii_of_mem_charOctets {c byte : Char} (wide : isAscii c = false)
    (member : byte ∈ charOctets c) : isAscii byte = false := by
  obtain ⟨raw, listed, rfl⟩ := List.mem_map.1 member
  rcases Char.utf8Size_eq c with one | two | three | four
  · rw [isAscii_iff.2 one] at wide
    cases wide
  · rw [String.utf8EncodeChar_eq_cons_cons two] at listed
    simp only [List.mem_cons, List.not_mem_nil, or_false] at listed
    rcases listed with rfl | rfl <;> exact isAscii_ofUInt8_or (by decide)
  · rw [String.utf8EncodeChar_eq_cons_cons_cons three] at listed
    simp only [List.mem_cons, List.not_mem_nil, or_false] at listed
    rcases listed with rfl | rfl | rfl <;> exact isAscii_ofUInt8_or (by decide)
  · rw [String.utf8EncodeChar_eq_cons_cons_cons_cons four] at listed
    simp only [List.mem_cons, List.not_mem_nil, or_false] at listed
    rcases listed with rfl | rfl | rfl | rfl <;> exact isAscii_ofUInt8_or (by decide)

/-- Bytes of characters beyond ASCII. -/
def AreWide (bytes : Text) : Prop := ∀ byte ∈ bytes, isAscii byte = false

theorem areWide_charOctets {c : Char} (wide : isAscii c = false) : AreWide (charOctets c) :=
  fun _ member => isAscii_of_mem_charOctets wide member

theorem ne_of_isAscii {c x : Char} (wide : isAscii c = false) (ascii : isAscii x = true) : c ≠ x := by
  rintro rfl
  rw [ascii] at wide
  cases wide

theorem mem_charOctets_iff {c x : Char} (ascii : isAscii x = true) : x ∈ charOctets c ↔ c = x := by
  cases alone : isAscii c with
  | true => rw [charOctets_of_isAscii alone, List.mem_singleton, eq_comm]
  | false =>
      refine iff_of_false (fun member => ?_) (ne_of_isAscii alone ascii)
      exact ne_of_isAscii (isAscii_of_mem_charOctets alone member) ascii rfl

theorem mem_octets_iff {x : Char} (ascii : isAscii x = true) (t : Text) : x ∈ octets t ↔ x ∈ t := by
  simp [octets, mem_charOctets_iff ascii]

theorem head?_octets_eq_some_iff {x : Char} (ascii : isAscii x = true) (t : Text) :
    (octets t).head? = some x ↔ t.head? = some x := by
  cases t with
  | nil => rfl
  | cons c t =>
      rw [octets_cons, List.head?_append_of_ne_nil _ (charOctets_ne_nil c), List.head?_cons,
        Option.some.injEq]
      constructor
      · intro first
        exact (mem_charOctets_iff ascii).1 (List.mem_of_mem_head? first)
      · rintro rfl
        rw [charOctets_of_isAscii ascii, List.head?_cons]

theorem getLast?_octets_eq_some_iff {x : Char} (ascii : isAscii x = true) (t : Text) :
    (octets t).getLast? = some x ↔ t.getLast? = some x := by
  rcases List.eq_nil_or_concat t with rfl | ⟨front, c, rfl⟩
  · rfl
  · rw [List.concat_eq_append, octets_append, octets_cons, octets_nil, List.append_nil,
      List.getLast?_append_of_ne_nil _ (charOctets_ne_nil c), List.getLast?_append,
      List.getLast?_singleton, Option.some_or, Option.some.injEq]
    constructor
    · intro last
      exact (mem_charOctets_iff ascii).1 (List.mem_of_getLast? last)
    · rintro rfl
      rw [charOctets_of_isAscii ascii, List.getLast?_singleton]

theorem exists_tail_octets (t : Text) :
    ∃ pending, (octets t).tail = pending ++ octets t.tail ∧ AreWide pending := by
  cases t with
  | nil => exact ⟨[], rfl, by simp [AreWide]⟩
  | cons c t =>
      refine ⟨(charOctets c).tail, ?_, ?_⟩
      · rw [octets_cons, List.tail_append_of_ne_nil (charOctets_ne_nil c), List.tail_cons]
      · cases first : isAscii c with
        | true => rw [charOctets_of_isAscii first]; simp [AreWide]
        | false => exact fun byte member => areWide_charOctets first byte (List.mem_of_mem_tail member)

/-- A class of bytes that a character belongs to with all its bytes or with none. -/
def IsUniform (p : Char → Bool) : Prop := ∀ c, ∀ byte ∈ charOctets c, p byte = p c

theorem isUniform_of_wide {p : Char → Bool} {value : Bool}
    (same : ∀ c, isAscii c = false → p c = value) : IsUniform p := by
  intro c byte member
  cases ascii : isAscii c with
  | true => rw [charOctets_of_isAscii ascii, List.mem_singleton] at member; rw [member]
  | false => rw [same byte (isAscii_of_mem_charOctets ascii member), same c ascii]

theorem takeWhile_octets {p : Char → Bool} (uniform : IsUniform p) (t : Text) :
    (octets t).takeWhile p = octets (t.takeWhile p) := by
  induction t with
  | nil => rfl
  | cons c t ih =>
      cases belongs : p c with
      | true =>
          rw [octets_cons, List.takeWhile_cons_of_pos belongs, octets_cons,
            List.takeWhile_append_of_pos fun byte member => (uniform c byte member).trans belongs, ih]
      | false =>
          rw [List.takeWhile_cons_of_neg (by simp [belongs]), octets_cons]
          cases bytes : charOctets c with
          | nil => exact absurd bytes (charOctets_ne_nil c)
          | cons byte more =>
              have outside : p byte = false :=
                (uniform c byte (bytes ▸ List.mem_cons_self)).trans belongs
              rw [List.cons_append, List.takeWhile_cons_of_neg (by simp [outside])]
              rfl

/-- What is ahead in a text at a byte offset on a boundary. -/
def IsAhead (t : Text) (offset : Nat) (ahead : Text) : Prop :=
  ∃ read, t = read ++ ahead ∧ byteLength read = offset

theorem isAhead_start (t : Text) : IsAhead t 0 t := ⟨[], rfl, rfl⟩

namespace IsAhead

variable {t ahead : Text} {offset : Nat}

theorem isBoundary (stands : IsAhead t offset ahead) : isBoundary offset t = true := by
  obtain ⟨read, rfl, rfl⟩ := stands
  exact isBoundary_append read ahead

theorem add_byteLength (stands : IsAhead t offset ahead) :
    offset + byteLength ahead = byteLength t := by
  obtain ⟨read, rfl, rfl⟩ := stands
  exact (byteLength_append read ahead).symm

theorem drop_octets (stands : IsAhead t offset ahead) :
    (octets t).drop offset = octets ahead := by
  obtain ⟨read, rfl, rfl⟩ := stands
  rw [octets_append, ← length_octets, List.drop_left]

theorem behind {middle rest : Text} (stands : IsAhead t offset (middle ++ rest)) :
    IsAhead t (offset + byteLength middle) rest := by
  obtain ⟨read, rfl, rfl⟩ := stands
  exact ⟨read ++ middle, (List.append_assoc read middle rest).symm, byteLength_append read middle⟩

theorem next {c : Char} {rest : Text} (ascii : isAscii c = true)
    (stands : IsAhead t offset (c :: rest)) : IsAhead t (offset + 1) rest := by
  have size : byteLength [c] = 1 := isAscii_iff.1 ascii
  rw [← List.singleton_append] at stands
  rw [← size]
  exact stands.behind

theorem slice {middle rest : Text} (stands : IsAhead t offset (middle ++ rest)) :
    sliceBytes offset (offset + byteLength middle) t = middle := by
  obtain ⟨read, rfl, rfl⟩ := stands
  exact sliceBytes_append read middle rest

theorem getElem? (stands : IsAhead t offset ahead) :
    (octets t)[offset]? = (octets ahead).head? := by
  rw [← List.head?_drop, stands.drop_octets]

theorem byte {c : Char} {rest : Text} (ascii : isAscii c = true)
    (stands : IsAhead t offset (c :: rest)) : (octets t)[offset]? = some c :=
  stands.getElem?.trans ((head?_octets_eq_some_iff ascii _).2 rfl)

end IsAhead

end DocblockSync.Text
