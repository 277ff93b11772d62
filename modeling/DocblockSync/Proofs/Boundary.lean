import DocblockSync.Text.Bytes

/-! Boundaries of a text. A byte position between two characters cuts the text in two parts, the
first of which has as many bytes as the position says; at such positions taking, dropping and
slicing bytes are the ordinary cuts of a list. -/

namespace DocblockSync.Text

theorem takeBytes_zero (t : Text) : takeBytes 0 t = [] := by
  cases t with
  | nil => rfl
  | cons c t =>
      have positive := c.utf8Size_pos
      rw [takeBytes, if_neg (by omega)]

theorem dropBytes_zero (t : Text) : dropBytes 0 t = t := by
  cases t with
  | nil => rfl
  | cons c t =>
      have positive := c.utf8Size_pos
      rw [dropBytes, if_neg (by omega)]

@[simp]
theorem takeBytes_append (front rest : Text) :
    takeBytes (byteLength front) (front ++ rest) = front := by
  induction front with
  | nil => exact takeBytes_zero rest
  | cons c front ih =>
      have fits : c.utf8Size ≤ byteLength (c :: front) := by simp
      have left : byteLength (c :: front) - c.utf8Size = byteLength front := by simp
      rw [List.cons_append, takeBytes, if_pos fits, left, ih]

@[simp]
theorem dropBytes_append (front rest : Text) :
    dropBytes (byteLength front) (front ++ rest) = rest := by
  induction front with
  | nil => exact dropBytes_zero rest
  | cons c front ih =>
      have fits : c.utf8Size ≤ byteLength (c :: front) := by simp
      have left : byteLength (c :: front) - c.utf8Size = byteLength front := by simp
      rw [List.cons_append, dropBytes, if_pos fits, left, ih]

@[simp]
theorem sliceBytes_append (front middle rest : Text) :
    sliceBytes (byteLength front) (byteLength front + byteLength middle)
      (front ++ (middle ++ rest)) = middle := by
  rw [sliceBytes, dropBytes_append, Nat.add_sub_cancel_left, takeBytes_append]

theorem isBoundary_append (front rest : Text) :
    isBoundary (byteLength front) (front ++ rest) = true := by
  induction front with
  | nil => cases rest <;> rfl
  | cons c front ih =>
      have positive := c.utf8Size_pos
      obtain ⟨n, size⟩ : ∃ n, byteLength (c :: front) = n + 1 :=
        ⟨byteLength (c :: front) - 1, by rw [byteLength_cons]; omega⟩
      have left : n + 1 - c.utf8Size = byteLength front := by rw [← size, byteLength_cons]; omega
      have fits : c.utf8Size ≤ n + 1 := by rw [← size, byteLength_cons]; omega
      rw [size, List.cons_append, isBoundary, left, ih]
      simpa using fits

theorem isBoundary_iff {n : Nat} {t : Text} :
    isBoundary n t = true ↔ ∃ front rest, t = front ++ rest ∧ byteLength front = n := by
  constructor
  · intro boundary
    induction t generalizing n with
    | nil =>
        cases n with
        | zero => exact ⟨[], [], rfl, rfl⟩
        | succ n => simp [isBoundary] at boundary
    | cons c t ih =>
        cases n with
        | zero => exact ⟨[], c :: t, rfl, rfl⟩
        | succ n =>
            simp only [isBoundary, Bool.and_eq_true, decide_eq_true_eq] at boundary
            obtain ⟨front, rest, rfl, size⟩ := ih boundary.2
            refine ⟨c :: front, rest, rfl, ?_⟩
            rw [byteLength_cons, size]
            omega
  · rintro ⟨front, rest, rfl, rfl⟩
    exact isBoundary_append front rest

theorem isBoundary_zero (t : Text) : isBoundary 0 t = true := isBoundary_append [] t

theorem isBoundary_byteLength (t : Text) : isBoundary (byteLength t) t = true := by
  simpa using isBoundary_append t []

theorem isBoundary_add {n : Nat} {rest : Text} (front : Text)
    (boundary : isBoundary n rest = true) :
    isBoundary (byteLength front + n) (front ++ rest) = true := by
  obtain ⟨middle, rest, rfl, rfl⟩ := isBoundary_iff.1 boundary
  rw [← byteLength_append, ← List.append_assoc]
  exact isBoundary_append (front ++ middle) rest

theorem isBoundary_append_left {n : Nat} {front : Text} (rest : Text)
    (boundary : isBoundary n front = true) : isBoundary n (front ++ rest) = true := by
  obtain ⟨start, middle, rfl, rfl⟩ := isBoundary_iff.1 boundary
  rw [List.append_assoc]
  exact isBoundary_append start (middle ++ rest)

theorem exists_append_of_byteLength_le {a b c d : Text} (same : a ++ b = c ++ d)
    (le : byteLength a ≤ byteLength c) : ∃ middle, c = a ++ middle ∧ b = middle ++ d := by
  rcases List.append_eq_append_iff.1 same with ⟨middle, left, right⟩ | ⟨middle, left, right⟩
  · exact ⟨middle, left, right⟩
  · have size : byteLength middle = 0 := by
      rw [left, byteLength_append] at le
      omega
    have empty : middle = [] := by
      cases middle with
      | nil => rfl
      | cons x middle =>
          have positive := x.utf8Size_pos
          rw [byteLength_cons] at size
          omega
    subst empty
    exact ⟨[], by simpa using left.symm, by simpa using right.symm⟩

theorem isBoundary_of_append {n : Nat} {front part rest : Text} (inside : n ≤ byteLength part)
    (boundary : isBoundary (byteLength front + n) (front ++ (part ++ rest)) = true) :
    isBoundary n part = true := by
  obtain ⟨before, after, cut, size⟩ := isBoundary_iff.1 boundary
  obtain ⟨start, rfl, behind⟩ := exists_append_of_byteLength_le cut (by omega)
  rw [byteLength_append, Nat.add_left_cancel_iff] at size
  obtain ⟨middle, rfl, -⟩ := exists_append_of_byteLength_le behind.symm (by omega)
  exact isBoundary_iff.2 ⟨start, middle, rfl, size⟩

theorem exists_cut {first second : Nat} {t : Text} (le : first ≤ second)
    (start : isBoundary first t = true) (stop : isBoundary second t = true) :
    ∃ front middle rest, t = front ++ (middle ++ rest) ∧ byteLength front = first ∧
      byteLength front + byteLength middle = second := by
  obtain ⟨a, b, rfl, rfl⟩ := isBoundary_iff.1 start
  obtain ⟨c, d, same, rfl⟩ := isBoundary_iff.1 stop
  obtain ⟨middle, rfl, rfl⟩ := exists_append_of_byteLength_le same le
  exact ⟨a, middle, d, rfl, rfl, (byteLength_append a middle).symm⟩

theorem takeBytes_append_sliceBytes {first second : Nat} {t : Text} (le : first ≤ second)
    (start : isBoundary first t = true) (stop : isBoundary second t = true) :
    takeBytes first t ++ sliceBytes first second t = takeBytes second t := by
  obtain ⟨front, middle, rest, rfl, rfl, rfl⟩ := exists_cut le start stop
  rw [takeBytes_append, sliceBytes_append, ← byteLength_append, ← List.append_assoc,
    takeBytes_append]

theorem sliceBytes_append_dropBytes {first second : Nat} {t : Text} (le : first ≤ second)
    (start : isBoundary first t = true) (stop : isBoundary second t = true) :
    sliceBytes first second t ++ dropBytes second t = dropBytes first t := by
  obtain ⟨front, middle, rest, rfl, rfl, rfl⟩ := exists_cut le start stop
  rw [dropBytes_append, sliceBytes_append, ← byteLength_append, ← List.append_assoc,
    dropBytes_append]

theorem sliceBytes_append_sliceBytes {first second third : Nat} {t : Text} (le : first ≤ second)
    (le' : second ≤ third) (start : isBoundary first t = true)
    (between : isBoundary second t = true)
    (stop : isBoundary third t = true) :
    sliceBytes first second t ++ sliceBytes second third t = sliceBytes first third t := by
  have whole := takeBytes_append_sliceBytes (Nat.le_trans le le') start stop
  rw [← takeBytes_append_sliceBytes le' between stop,
    ← takeBytes_append_sliceBytes le start between,
    List.append_assoc] at whole
  exact (List.append_cancel_left whole).symm

theorem spliceBytes_takeBytes_append {first second : Nat} {t : Text} (substitute rest : Text)
    (le : first ≤ second) (start : isBoundary first t = true) (stop : isBoundary second t = true) :
    spliceBytes first second substitute (takeBytes second t ++ rest) =
      takeBytes first t ++ (substitute ++ rest) := by
  obtain ⟨front, middle, behind, rfl, rfl, rfl⟩ := exists_cut le start stop
  have kept : takeBytes (byteLength front + byteLength middle) (front ++ (middle ++ behind)) =
      front ++ middle := by
    rw [← byteLength_append, ← List.append_assoc, takeBytes_append]
  rw [kept, spliceBytes, takeBytes_append, List.append_assoc front middle rest, takeBytes_append,
    ← byteLength_append, ← List.append_assoc front middle rest, dropBytes_append, List.append_assoc]

end DocblockSync.Text
