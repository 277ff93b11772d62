import DocblockSync.Proofs.ContentLines
import Mathlib.Data.List.Infix

/-! Parameter tags that are read back as they are written. A type ends at the first place from which a
variable can be read, and whether one can be read inside of a type does not depend on what follows
the blank behind it. So a type that was read once is read again, whatever description comes with it. -/

namespace DocblockSync.Docblock

open Text

def behindDollar? (t : Text) : Option Text :=
  after? ['$'] (skipSign "...".toList (skipSign ['&'] (trimStart t)))

theorem behindDollar?_append_blank {t : Text} (solid : trimStart t ≠ []) {b : Char}
    (blank : isBlank b = true) (rest : Text) :
    behindDollar? (t ++ b :: rest) = (behindDollar? t).map (· ++ b :: rest) := by
  rw [behindDollar?, behindDollar?, trimStart_append solid, skipSign, skipSign,
    dropHead_append_blank (by decide) blank, dropHead_append_blank (by decide) blank,
    after?_append_blank (by decide) blank]
  rfl

theorem behindDollar?_isInfix {t named : Text} (found : behindDollar? t = some named) :
    named <:+: t := by
  have dollar : named <:+ skipSign "...".toList (skipSign ['&'] (trimStart t)) :=
    ⟨['$'], (after?_eq_some_iff.1 found).symm⟩
  have dots := dollar.trans (dropHead_suffix "...".toList _)
  have ampersand := dots.trans (dropHead_suffix ['&'] _)
  exact (ampersand.trans (trimStart_suffix t)).isInfix

def readNamed? (named : Text) : Option (Text × Option Text) :=
  if (named.takeWhile isWordChar).isEmpty then none
  else
    match named.dropWhile isWordChar with
    | [] => some (named.takeWhile isWordChar, none)
    | c :: rest =>
        if isBlank c && (trimStart (c :: rest)).all (· != '\n') then
          some (named.takeWhile isWordChar, nonempty? (trim (trimStart (c :: rest))))
        else none

theorem readVariable?_cons {c : Char} (blank : isBlank c = true) (t : Text) :
    readVariable? (c :: t) = (behindDollar? (c :: t)).bind readNamed? := by
  rw [readVariable?, if_neg (by simp [blank]), ← behindDollar?]
  cases behindDollar? (c :: t) with
  | none => rfl
  | some named =>
      rw [Option.bind_some, readNamed?]
      cases rest : named.dropWhile isWordChar <;> simp [rest]

theorem readVariable?_cons_of_not_blank {c : Char} (solid : isBlank c = false) (t : Text) :
    readVariable? (c :: t) = none := by
  rw [readVariable?, if_pos (by simp [solid])]

theorem exists_of_readNamed? {named name : Text} {description : Option Text}
    (read : readNamed? named = some (name, description)) :
    ∃ tail, named = name ++ tail ∧ name ≠ [] ∧ (∀ c ∈ name, isWordChar c = true) ∧
      IsBreak tail ∧ description = nonempty? (trim tail) := by
  have split : named.takeWhile isWordChar ++ named.dropWhile isWordChar = named :=
    List.takeWhile_append_dropWhile
  have word : ∀ c ∈ named.takeWhile isWordChar, isWordChar c = true :=
    fun c member => List.mem_takeWhile_imp member
  unfold readNamed? at read
  split at read
  · cases read
  · next some =>
      rw [List.isEmpty_iff] at some
      cases rest : named.dropWhile isWordChar with
      | nil =>
          rw [rest] at read split
          simp only [Option.some.injEq, Prod.mk.injEq] at read
          obtain ⟨rfl, rfl⟩ := read
          exact ⟨[], split.symm, some, word, isBreak_nil, rfl⟩
      | cons c rest' =>
          rw [rest] at read split
          simp only at read
          split at read
          · next ended =>
              simp only [Option.some.injEq, Prod.mk.injEq, trim_trimStart] at read
              obtain ⟨rfl, rfl⟩ := read
              rw [Bool.and_eq_true] at ended
              exact ⟨c :: rest', split.symm, some, word, by simp [ended.1], rfl⟩
          · cases read

theorem readNamed?_append {name tail : Text} (some : name ≠ [])
    (word : ∀ c ∈ name, isWordChar c = true) (stops : IsBreak tail) (single : '\n' ∉ tail) :
    readNamed? (name ++ tail) = .some (name, nonempty? (trim tail)) := by
  rw [readNamed?, takeWhile_isWordChar_append word stops, dropWhile_isWordChar_append word stops,
    if_neg (by simpa using some)]
  cases tail with
  | nil => rfl
  | cons c tail =>
      have ended : (trimStart (c :: tail)).all (· != '\n') = true := by
        rw [List.all_eq_true]
        intro d member
        have inside := (trimStart_suffix (c :: tail)).subset member
        rw [bne_iff_ne]
        rintro rfl
        exact single inside
      rw [isBreak_cons] at stops
      simp only [stops, ended, Bool.and_self, if_true, trim_trimStart]

theorem readVariable?_eq_some_iff {t name : Text} {description : Option Text}
    (single : '\n' ∉ t) :
    readVariable? t = some (name, description) ↔
      t ≠ [] ∧ IsBreak t ∧ ∃ tail, behindDollar? t = some (name ++ tail) ∧ name ≠ [] ∧
        (∀ c ∈ name, isWordChar c = true) ∧ IsBreak tail ∧ description = nonempty? (trim tail) := by
  cases t with
  | nil => simp [readVariable?]
  | cons c t =>
      cases blank : isBlank c with
      | false => simp [readVariable?_cons_of_not_blank blank, blank]
      | true =>
          rw [readVariable?_cons blank, Option.bind_eq_some_iff]
          constructor
          · rintro ⟨named, found, read⟩
            obtain ⟨tail, rfl, facts⟩ := exists_of_readNamed? read
            exact ⟨by simp, by simpa using blank, tail, found, facts⟩
          · rintro ⟨-, -, tail, found, some, word, stops, rfl⟩
            have feed : '\n' ∉ tail := fun member =>
              single ((behindDollar?_isInfix found).subset (List.mem_append_right name member))
            exact ⟨name ++ tail, found, readNamed?_append some word stops feed⟩

theorem readVariable?_append_blank_eq_none_iff {t rest : Text} {b : Char} (some : t ≠ [])
    (trimmed : trimEnd t = t) (blank : isBlank b = true) (single : '\n' ∉ t ++ b :: rest) :
    readVariable? (t ++ b :: rest) = none ↔ readVariable? t = none := by
  have solid : trimStart t ≠ [] := fun empty =>
    trim_ne_nil trimmed some (by rw [trim, empty, trimEnd_nil])
  have single' : '\n' ∉ t := fun feed => single (List.mem_append_left _ feed)
  have first : IsBreak (t ++ b :: rest) ↔ IsBreak t := by
    obtain ⟨c, t, rfl⟩ := List.exists_cons_of_ne_nil some
    simp
  rw [Option.eq_none_iff_forall_ne_some, Option.eq_none_iff_forall_ne_some, ← not_iff_not]
  simp only [ne_eq, not_forall, not_not, Prod.exists, readVariable?_eq_some_iff single,
    readVariable?_eq_some_iff single', first, behindDollar?_append_blank solid blank]
  -- A name has no blank, so it lies in front of the blank and what ends it does too, or is the blank.
  constructor
  · rintro ⟨name, _, -, starts, tail, mapped, named, word, stops, -⟩
    obtain ⟨front, found, same⟩ := Option.map_eq_some_iff.1 mapped
    obtain ⟨between, rfl, rfl⟩ := exists_of_append_eq_append_blank
      (fun c member => not_isBlank_of_isWordChar (word c member)) blank same.symm
    refine ⟨name, _, some, starts, between, found, named, word, ?_, rfl⟩
    cases between with
    | nil => exact isBreak_nil
    | cons c between => simpa using stops
  · rintro ⟨name, _, -, starts, tail, found, named, word, stops, -⟩
    refine ⟨name, _, by simp, starts, tail ++ b :: rest, ?_, named, word, ?_, rfl⟩
    · simp [found]
    · cases tail with
      | nil => simpa using blank
      | cons c tail => simpa using stops

theorem readTyped?_cons (passed : Text) (c : Char) (t : Text) :
    readTyped? passed (c :: t) =
      match readVariable? (c :: t) with
      | some (name, description) =>
          some { name, typeHint := some (trim passed.reverse), description }
      | none => if c == '\n' then none else readTyped? (c :: passed) t := by
  rfl

/-- A type ends at the first place from which a variable can be read. -/
theorem readTyped?_eq_some_iff {passed t : Text} {param : ParamDoc} (single : '\n' ∉ t) :
    readTyped? passed t = some param ↔
      ∃ front rest name description, t = front ++ rest ∧
        readVariable? rest = some (name, description) ∧
        (∀ u v, front = u ++ v → v ≠ [] → readVariable? (v ++ rest) = none) ∧
        param = { name, typeHint := some (trim (passed.reverse ++ front)), description } := by
  -- The front of a later place is the front of this one behind the character that is passed.
  induction t generalizing passed with
  | nil =>
      refine ⟨fun read => (Option.some_ne_none _ read.symm).elim, ?_⟩
      rintro ⟨front, rest, name, description, split, read, -, -⟩
      rw [(List.append_eq_nil_iff.1 split.symm).2, readVariable?_eq_some_iff (by simp)] at read
      exact absurd rfl read.1
  | cons c t ih =>
      have feed : (c == '\n') = false := by
        simpa using fun same : c = '\n' => single (by simp [same])
      have below : '\n' ∉ t := fun member => single (List.mem_cons_of_mem c member)
      rw [readTyped?_cons]
      cases here : readVariable? (c :: t) with
      | some found =>
          obtain ⟨name, description⟩ := found
          constructor
          · intro read
            refine ⟨[], c :: t, name, description, rfl, here, ?_, ?_⟩
            · intro u v split solid
              exact absurd (List.append_eq_nil_iff.1 split.symm).2 solid
            · simpa using (Option.some.inj read).symm
          · rintro ⟨front, rest, name', description', split, read, unread, rfl⟩
            cases front with
            | nil =>
                rw [List.nil_append] at split
                rw [← split, here] at read
                simp only [Option.some.injEq, Prod.mk.injEq] at read
                simp [read]
            | cons d front =>
                have early := unread [] (d :: front) rfl (by simp)
                rw [← split, here] at early
                cases early
      | none =>
          simp only [feed, Bool.false_eq_true, if_false]
          rw [ih below]
          constructor
          · rintro ⟨front, rest, name, description, rfl, read, unread, rfl⟩
            refine ⟨c :: front, rest, name, description, rfl, read, ?_, by simp⟩
            intro u v split solid
            cases u with
            | nil => rwa [← List.nil_append v, ← split]
            | cons d u =>
                rw [List.cons_append, List.cons.injEq] at split
                exact unread u v split.2 solid
          · rintro ⟨front, rest, name, description, split, read, unread, rfl⟩
            cases front with
            | nil =>
                rw [List.nil_append] at split
                rw [← split, here] at read
                cases read
            | cons d front =>
                rw [List.cons_append, List.cons.injEq] at split
                obtain ⟨rfl, rfl⟩ := split
                refine ⟨front, rest, name, description, rfl, read, ?_, by simp⟩
                intro u v split solid
                exact unread (c :: u) v (by rw [split]; rfl) solid

/-- A type that ends where it is followed by a variable. -/
structure IsParamType (t : Text) : Prop extends IsContent t where
  starts : ∃ c rest, t = c :: rest ∧ startsType c = true
  unread : ∀ u v, t.tail = u ++ v → v ≠ [] → readVariable? v = none

theorem isParamType_mixed : IsParamType "mixed".toList where
  trimmed := by decide
  unclosed := by decide
  single := by decide
  starts := ⟨'m', "ixed".toList, rfl, by decide⟩
  unread := by
    intro u v split solid
    have ends : ∀ v ∈ "ixed".toList.tails, v ≠ [] → readVariable? v = none := by decide
    exact ends v ((List.mem_tails _ _).2 ⟨u, split.symm⟩) solid

/-- A parameter whose tag can be read back. -/
structure IsReadableParam (param : ParamDoc) : Prop where
  named : param.name ≠ []
  word : ∀ c ∈ param.name, isWordChar c = true
  type : ∀ type ∈ param.typeHint, IsParamType type
  description : ∀ description ∈ param.description,
    IsContent description ∧ description ≠ [] ∧ trimStart description = description

theorem startsType_not_blank {c : Char} (starts : startsType c = true) : isBlank c = false := by
  simp only [startsType, Bool.not_eq_true', Bool.or_eq_false_iff] at starts
  exact starts.1.1.1

theorem isParamType_of_unread {c b : Char} {front rest : Text} (starts : startsType c = true)
    (blank : isBlank b = true) (content : IsContent (trim (c :: front)))
    (single : '\n' ∉ front ++ b :: rest)
    (unread : ∀ u v, front = u ++ v → v ≠ [] → readVariable? (v ++ b :: rest) = none) :
    IsParamType (trim (c :: front)) := by
  have solid := startsType_not_blank starts
  have type : trim (c :: front) = c :: trimEnd front := by
    rw [trim, trimStart_cons_of_not_blank solid]
    exact trimEnd_append_cons_of_not_blank solid [] front
  obtain ⟨blanks, split, all⟩ := exists_blanks_trimEnd front
  refine ⟨content, ⟨c, trimEnd front, type, starts⟩, fun u v tail some => ?_⟩
  rw [type, List.tail_cons] at tail
  have trimmed : trimEnd v = v := trimEnd_eq_of_suffix ⟨u, tail.symm⟩ (trimEnd_trimEnd front)
  rw [split, tail] at single unread
  -- The blanks cut off the type, if any, stand in front of the variable like the one behind them.
  have early := unread u (v ++ blanks) (by simp) (by simp [some])
  cases blanks with
  | nil =>
      rw [List.append_nil] at early
      have part : v ++ b :: rest <:+ u ++ v ++ [] ++ b :: rest := ⟨u, by simp⟩
      exact (readVariable?_append_blank_eq_none_iff some trimmed blank
        fun feed => single (part.subset feed)).1 early
  | cons d blanks =>
      rw [List.append_assoc, List.cons_append] at early
      have part : v ++ d :: (blanks ++ b :: rest) <:+ u ++ v ++ d :: blanks ++ b :: rest :=
        ⟨u, by simp⟩
      exact (readVariable?_append_blank_eq_none_iff some trimmed (all d (by simp))
        fun feed => single (part.subset feed)).1 early

theorem isReadableParam_of_readVariable? {t rest name : Text} {description type : Option Text}
    (part : rest <:+: t) (content : IsContent t)
    (read : readVariable? rest = some (name, description))
    (readable : ∀ type' ∈ type, IsParamType type') :
    IsReadableParam { name, typeHint := type, description } := by
  have single : '\n' ∉ rest := fun feed => content.single (part.subset feed)
  obtain ⟨-, -, tail, found, named, word, -, rfl⟩ := (readVariable?_eq_some_iff single).1 read
  refine ⟨named, word, readable, fun description some => ?_⟩
  have inner : tail <:+: t :=
    (List.suffix_append name tail).isInfix.trans ((behindDollar?_isInfix found).trans part)
  exact isContent_of_nonempty?_trim inner content some

theorem isReadableParam_of_readParam? {t : Text} {param : ParamDoc} (content : IsContent t)
    (read : readParam? t = some param) : IsReadableParam param ∧ param.continuation = [] := by
  unfold readParam? at read
  split at read
  · cases read
  · next rest found =>
      have part : rest <:+: t := by
        rw [after?_eq_some_iff.1 found]
        exact (List.suffix_append "@param".toList rest).isInfix
      split at read
      · next _ _ c typed _ behind =>
          have inner : c :: typed <:+: t :=
            behind ▸ (trimStart_suffix rest).isInfix.trans part
          split at read
          · next starts =>
              have single : '\n' ∉ typed := fun feed =>
                content.single (inner.subset (List.mem_cons_of_mem c feed))
              obtain ⟨front, rest', name, description, rfl, variable', unread, rfl⟩ :=
                (readTyped?_eq_some_iff single).1 read
              have first : rest' <:+: t :=
                (List.suffix_append (c :: front) rest').isInfix.trans inner
              obtain ⟨some, blank, -⟩ := (readVariable?_eq_some_iff fun feed =>
                content.single (first.subset feed)).1 variable'
              obtain ⟨b, rest', rfl⟩ := List.exists_cons_of_ne_nil some
              have typeContent : IsContent (trim (c :: front)) := isContent_of_isInfix
                ((trim_isInfix _).trans ((List.prefix_append (c :: front) _).isInfix.trans inner))
                content (trimEnd_trim _)
              refine ⟨isReadableParam_of_readVariable? first content variable' ?_, rfl⟩
              intro type member
              obtain rfl := Option.some.inj member
              exact isParamType_of_unread starts (by simpa using blank) typeContent single unread
          · obtain ⟨⟨name, description⟩, variable', rfl⟩ := Option.map_eq_some_iff.1 read
            exact ⟨isReadableParam_of_readVariable? part content variable' (by simp), rfl⟩
      · cases read

theorem paramText_eq (param : ParamDoc) :
    paramText param = "@param ".toList ++ (param.typeHint.getD "mixed".toList ++
      (" $".toList ++ (param.name ++ describedTail param.description))) := by
  unfold paramText
  rw [List.append_assoc, List.append_assoc, List.append_assoc]
  rfl

theorem IsReadableParam.isParamType {param : ParamDoc} (readable : IsReadableParam param) :
    IsParamType (param.typeHint.getD "mixed".toList) := by
  cases type : param.typeHint with
  | none => exact isParamType_mixed
  | some type' => exact readable.type type' (by rw [type]; rfl)

theorem contains_closer_paramText {param : ParamDoc}
    (type : ∀ type ∈ param.typeHint, contains closer type = false)
    (name : contains closer param.name = false)
    (description : ∀ d ∈ param.description, contains closer d = false) :
    contains closer (paramText param) = false := by
  have shown : contains closer (param.typeHint.getD "mixed".toList) = false := by
    cases known : param.typeHint with
    | none => decide
    | some t => exact type t known
  have named : contains closer (" $".toList ++
      (param.name ++ describedTail param.description)) = false := by
    simpa [contains_closer_cons] using contains_closer_append_describedTail name description
  have typed := contains_closer_append_of_not_slash shown named (by simp)
  rw [paramText_eq]
  simpa [contains_closer_cons] using typed

theorem IsReadableParam.isContent_paramText {param : ParamDoc} (readable : IsReadableParam param) :
    IsContent (paramText param) := by
  obtain ⟨⟨trimmed, -, single⟩, -⟩ := describedTail_spec readable.description
  have type := readable.isParamType
  have nameUnclosed : contains closer param.name = false := by
    rw [not_contains_closer_iff]
    intro front rest split
    have star := readable.word '*' (by rw [split]; simp [closer])
    revert star
    decide
  have nameSingle : '\n' ∉ param.name := fun feed => by
    have word := readable.word '\n' feed
    revert word
    decide
  have nameTrimmed : trimEnd (param.name ++ describedTail param.description) =
      param.name ++ describedTail param.description := by
    by_cases none : describedTail param.description = []
    · obtain ⟨front, c, split⟩ := (List.eq_nil_or_concat' param.name).resolve_left readable.named
      rw [none, List.append_nil, split]
      exact trimEnd_concat_of_not_blank
        (not_isBlank_of_isWordChar (readable.word c (by rw [split]; simp))) front
    · exact trimEnd_append_of_trimEnd_eq trimmed none _
  refine ⟨?_, ?_, ?_⟩
  · rw [paramText_eq, ← List.append_assoc, ← List.append_assoc]
    exact trimEnd_append_of_trimEnd_eq nameTrimmed (by simp [readable.named]) _
  · exact contains_closer_paramText (fun type known => (readable.type type known).unclosed)
      nameUnclosed fun d known => (readable.description d known).1.unclosed
  · have := type.single
    rw [paramText_eq]
    simp_all

theorem readParam?_paramText {param : ParamDoc} (readable : IsReadableParam param) :
    readParam? (paramText param) = some
      { param with typeHint := some (param.typeHint.getD "mixed".toList), continuation := [] } := by
  have content := readable.isContent_paramText
  obtain ⟨-, stops, -, description⟩ := describedTail_spec readable.description
  have type := readable.isParamType
  obtain ⟨c, rest, split, starts⟩ := type.starts
  have solid := startsType_not_blank starts
  rw [paramText_eq, split] at content ⊢
  have found : after? "@param".toList ("@param ".toList ++ (c :: rest ++ (" $".toList ++
      (param.name ++ describedTail param.description)))) = some (' ' :: (c :: rest ++
        (' ' :: '$' :: (param.name ++ describedTail param.description)))) := rfl
  have blanks : (' ' :: (c :: rest ++ (' ' :: '$' :: (param.name ++
      describedTail param.description)))).takeWhile isBlank = [' '] := by
    rw [List.takeWhile_cons_of_pos (by decide), List.cons_append,
      List.takeWhile_cons_of_neg (by simp [solid])]
  have typed : trimStart (' ' :: (c :: rest ++ (' ' :: '$' :: (param.name ++
      describedTail param.description)))) = c :: (rest ++ (' ' :: '$' :: (param.name ++
        describedTail param.description))) := by
    rw [trimStart_cons_of_blank (by decide), List.cons_append, trimStart_cons_of_not_blank solid]
  have single : '\n' ∉ rest ++ (' ' :: '$' :: (param.name ++
      describedTail param.description)) := by
    have part : rest ++ (' ' :: '$' :: (param.name ++ describedTail param.description)) <:+
        "@param ".toList ++ (c :: rest ++ (" $".toList ++
          (param.name ++ describedTail param.description))) := ⟨"@param ".toList ++ [c], by simp⟩
    exact fun feed => content.single (part.subset feed)
  rw [readParam?, found]
  simp only [blanks, typed, starts, if_true]
  refine (readTyped?_eq_some_iff single).2 ⟨rest, _, param.name, param.description, rfl, ?_, ?_, ?_⟩
  · rw [readVariable?_eq_some_iff fun feed => single (List.mem_append_right rest feed)]
    exact ⟨by simp, by simp [isBlank], describedTail param.description, rfl, readable.named,
      readable.word, stops, description.symm⟩
  · intro u v front some
    have trimmed : trimEnd v = v := trimEnd_eq_of_suffix
      ⟨c :: u, by rw [split, front]; rfl⟩ type.trimmed
    have part : v ++ ' ' :: '$' :: (param.name ++ describedTail param.description) <:+
        rest ++ (' ' :: '$' :: (param.name ++ describedTail param.description)) :=
      ⟨u, by rw [front, List.append_assoc]⟩
    exact (readVariable?_append_blank_eq_none_iff some trimmed (by decide)
      fun feed => single (part.subset feed)).2 (type.unread u v (by rw [split, front]; rfl) some)
  · have whole : trim (c :: rest) = c :: rest := by
      rw [← split]
      refine trim_eq_self ?_ type.trimmed
      rw [split, trimStart_cons_of_not_blank solid]
    simp [whole]

theorem tagName?_paramText (param : ParamDoc) :
    tagName? (paramText param) = some "@param".toList := rfl

end DocblockSync.Docblock
