import DocblockSync.Proofs.ContentLines

/-! Return tags that are read back as they are written. On a content line a plain union is also the
type token in front of the description, so a return tag is read by its type token alone, and a token
ends at the same blank whatever description stands behind it. -/

namespace DocblockSync.Docblock

open Text

def isUnionChar (c : Char) : Bool := isNameChar c || c == '?' || c == '|' || c == '[' || c == ']'

def isNesting (c : Char) : Bool :=
  c == '<' || c == '\x7b' || c == '(' || c == '>' || c == '\x7d' || c == ')'

theorem not_isNesting_of_apart {kind : Char → Bool}
    (apart : "<\x7b(>\x7d)".toList.all (fun c => !kind c) = true) {c : Char}
    (member : kind c = true) : isNesting c = false := by
  by_contra nesting
  simp only [isNesting, Bool.not_eq_false, Bool.or_eq_true, beq_iff_eq] at nesting
  have outside := List.all_eq_true.1 apart c (by simpa [or_assoc] using nesting)
  rw [member] at outside
  cases outside

theorem not_isBlank_of_isUnionChar {c : Char} (union : isUnionChar c = true) :
    isBlank c = false := by
  simp only [isUnionChar, isNameChar, Bool.or_eq_true, beq_iff_eq] at union
  rcases union with ((((word | rfl) | rfl) | rfl) | rfl) | rfl
  · exact not_isBlank_of_isWordChar word
  all_goals decide

theorem isWordChar_of_isAlpha {c : Char} (alpha : c.isAlpha = true) : isWordChar c = true := by
  have small : c.toNat < 0x80 := by
    have code : c.toNat = c.val.toNat := rfl
    rcases (Bool.or_eq_true _ _).mp alpha with upper | lower
    · have below := UInt32.le_iff_toNat_le.1 (of_decide_eq_true upper).2
      have capital : 'Z'.val.toNat = 90 := rfl
      omega
    · have below := UInt32.le_iff_toNat_le.1 (of_decide_eq_true (Bool.and_eq_true_iff.1 lower).2)
      have small : 'z'.val.toNat = 122 := rfl
      omega
  simp [isWordChar, small, Char.isAlphanum, alpha]

theorem typeToken_cons_of_plain {c : Char} (plain : isNesting c = false) (depth : Int) (t : Text) :
    typeToken depth (c :: t) =
      if isBlank c && decide (depth ≤ 0) then [] else c :: typeToken depth t := by
  simp only [isNesting, Bool.or_eq_false_iff] at plain
  obtain ⟨⟨⟨⟨⟨less, brace⟩, paren⟩, more⟩, brace'⟩, paren'⟩ := plain
  simp [typeToken, less, brace, paren, more, brace', paren']

theorem typeToken_of_isBreak {rest : Text} (stops : IsBreak rest) {depth : Int}
    (shallow : depth ≤ 0) : typeToken depth rest = [] := by
  cases rest with
  | nil => rfl
  | cons c rest =>
      rw [isBreak_cons] at stops
      rw [typeToken_cons_of_plain (not_isNesting_of_apart (by decide) stops), if_pos]
      simp [stops, shallow]

theorem typeToken_union {union rest : Text} (all : ∀ c ∈ union, isUnionChar c = true)
    (stops : IsBreak rest) : typeToken 0 (union ++ rest) = union := by
  induction union with
  | nil => exact typeToken_of_isBreak stops (by decide)
  | cons c union ih =>
      have first := all c (by simp)
      rw [List.cons_append, typeToken_cons_of_plain (not_isNesting_of_apart (by decide) first),
        not_isBlank_of_isUnionChar first, Bool.false_and, if_neg (by simp),
        ih fun c member => all c (List.mem_cons_of_mem _ member)]

theorem exists_typeToken_cons {c : Char} (solid : isBlank c = false) (depth : Int) (t : Text) :
    ∃ rest, typeToken depth (c :: t) = c :: rest := by
  rw [typeToken]
  split
  · exact ⟨_, rfl⟩
  · split
    · exact ⟨_, rfl⟩
    · rw [solid, Bool.false_and, if_neg (by simp)]
      exact ⟨_, rfl⟩

theorem typeToken_isPrefix (depth : Int) (t : Text) : typeToken depth t <+: t := by
  fun_induction typeToken depth t with
  | case1 => exact List.prefix_refl []
  | case4 => exact List.nil_prefix
  | case2 _ _ _ _ ih | case3 _ _ _ _ _ ih | case5 _ _ _ _ _ _ ih =>
      exact List.cons_prefix_cons.2 ⟨rfl, ih⟩

theorem typeToken_append {depth : Int} {t rest : Text}
    (stops : rest = [] ∨ IsBreak rest ∧ typeToken depth t ≠ t) :
    typeToken depth (typeToken depth t ++ rest) = typeToken depth t := by
  -- Only where the token ends does it matter what stands behind it.
  fun_induction typeToken depth t with
  | case1 =>
      obtain rfl := stops.resolve_right fun ended => ended.2 rfl
      rfl
  | case2 depth c t opens ih =>
      rw [List.cons_append, typeToken, if_pos opens, ih (by simpa using stops)]
  | case3 depth c t opens closes ih =>
      rw [List.cons_append, typeToken, if_neg opens, if_pos closes, ih (by simpa using stops)]
  | case4 depth c t opens closes ended =>
      rw [Bool.and_eq_true, decide_eq_true_eq] at ended
      have break' : IsBreak rest := by
        rcases stops with rfl | ⟨stops, -⟩
        · exact isBreak_nil
        · exact stops
      exact typeToken_of_isBreak break' ended.2
  | case5 depth c t opens closes inside ih =>
      rw [List.cons_append, typeToken, if_neg opens, if_neg closes, if_neg inside,
        ih (by simpa using stops)]

theorem readSign_spec (sign : Char) (t : Text) :
    t = (readSign sign t).1 ++ (readSign sign t).2 ∧ ∀ c ∈ (readSign sign t).1, c = sign := by
  cases t with
  | nil => simp [readSign]
  | cons c t => by_cases same : c = sign <;> simp [readSign, same]

theorem readBrackets_spec (t : Text) :
    t = (readBrackets t).1 ++ (readBrackets t).2 ∧
      ∀ c ∈ (readBrackets t).1, isUnionChar c = true := by
  fun_induction readBrackets t with
  | case1 t brackets rest read ih =>
      rw [read] at ih
      refine ⟨by simpa using ih.1, ?_⟩
      simp only [List.mem_cons, forall_eq_or_imp]
      exact ⟨by decide, by decide, ih.2⟩
  | case2 t => simp

theorem readMember?_spec {t member rest : Text} (read : readMember? t = some (member, rest)) :
    t = member ++ rest ∧ ∀ c ∈ member, isUnionChar c = true := by
  obtain ⟨question, isQuestion⟩ := readSign_spec '?' t
  obtain ⟨root, isRoot⟩ := readSign_spec '\\' (readSign '?' t).2
  simp only [readMember?] at read
  split at read
  · next c named split =>
      obtain ⟨brackets, areBrackets⟩ := readBrackets_spec (named.dropWhile isNameChar)
      split at read
      · next letter =>
          simp only [Option.some.injEq, Prod.mk.injEq] at read
          obtain ⟨rfl, rfl⟩ := read
          constructor
          · conv => lhs; rw [question, root, split, ← List.takeWhile_append_dropWhile
              (p := isNameChar) (l := named), brackets]
            simp
          · intro d member
            simp only [List.mem_append, List.mem_cons] at member
            rcases member with ((member | member) | rfl | member) | member
            · rw [isQuestion d member]
              decide
            · rw [isRoot d member]
              decide
            · rw [Bool.or_eq_true, beq_iff_eq] at letter
              rcases letter with alpha | rfl
              · simp [isUnionChar, isNameChar, isWordChar_of_isAlpha alpha]
              · decide
            · simp [isUnionChar, List.mem_takeWhile_imp member]
            · exact areBrackets d member
      · cases read
  · cases read

theorem readMembers_spec (fuel : Nat) (t : Text) :
    t = (readMembers fuel t).1 ++ (readMembers fuel t).2 ∧
      ∀ c ∈ (readMembers fuel t).1, isUnionChar c = true := by
  fun_induction readMembers fuel t with
  | case1 fuel t member rest read members rest' further ih =>
      obtain ⟨split, union⟩ := readMember?_spec read
      rw [further] at ih
      refine ⟨?_, ?_⟩
      · conv => lhs; rw [split, ih.1]
        simp
      · simp only [List.mem_append, List.mem_cons]
        rintro c ((rfl | member) | member)
        · decide
        · exact union c member
        · exact ih.2 c member
  | case2 | case3 => simp

theorem readPlainReturn?_spec {t type : Text} {description : Option Text}
    (read : readPlainReturn? t = some (type, description)) :
    ∃ rest, t = type ++ rest ∧ (∀ c ∈ type, isUnionChar c = true) ∧ IsBreak rest ∧
      description = if rest.isEmpty then none else some (trim rest) := by
  unfold readPlainReturn? at read
  split at read
  · cases read
  · next first rest member =>
      obtain ⟨split, union⟩ := readMember?_spec member
      obtain ⟨split', union'⟩ := readMembers_spec t.length rest
      have all : ∀ c ∈ first ++ (readMembers t.length rest).1, isUnionChar c = true :=
        fun c member => (List.mem_append.1 member).elim (union c) (union' c)
      have whole : t = first ++ (readMembers t.length rest).1 ++ (readMembers t.length rest).2 := by
        rw [List.append_assoc, ← split', ← split]
      refine ⟨(readMembers t.length rest).2, ?_⟩
      simp only at read
      split at read
      · next ended =>
          simp only [Option.some.injEq, Prod.mk.injEq] at read
          obtain ⟨rfl, rfl⟩ := read
          exact ⟨whole, all, by rw [ended]; exact isBreak_nil, by rw [ended]; rfl⟩
      · next c rest' ended =>
          split at read
          · next described =>
              simp only [Option.some.injEq, Prod.mk.injEq] at read
              obtain ⟨rfl, rfl⟩ := read
              simp only [Bool.and_eq_true] at described
              refine ⟨whole, all, by simp [ended, described.1.1], ?_⟩
              rw [trim_trimStart, ended]
              rfl
          · cases read

theorem readReturn?_of_isContent {t rest : Text} (content : IsContent t)
    (found : after? "@return".toList t = some rest) :
    readReturn? t =
      if (rest.takeWhile isBlank).isEmpty || (trimStart rest).isEmpty then none
      else some (typeToken 0 (trimStart rest),
        nonempty? (trim ((trimStart rest).drop (typeToken 0 (trimStart rest)).length))) := by
  unfold readReturn?
  rw [found]
  simp only
  split
  · rfl
  · cases plain : readPlainReturn? (trimStart rest) with
    | none => rfl
    | some read =>
        obtain ⟨type, description⟩ := read
        obtain ⟨behind, split, union, stops, rfl⟩ := readPlainReturn?_spec plain
        have token : typeToken 0 (trimStart rest) = type := by
          rw [split, typeToken_union union stops]
        have trimmed : trimEnd behind = behind := by
          refine trimEnd_eq_of_suffix ?_ content.trimmed
          have suffix : type ++ behind <:+ t := by
            rw [← split, after?_eq_some_iff.1 found]
            exact (trimStart_suffix rest).trans (List.suffix_append _ rest)
          exact (List.suffix_append type behind).trans suffix
        have described : nonempty? (trim behind) =
            if behind.isEmpty then none else some (trim behind) := by
          cases behind with
          | nil => rfl
          | cons c behind => exact nonempty?_eq_some_iff.2 ⟨rfl, trim_ne_nil trimmed (by simp)⟩
        rw [token, split, List.drop_left, described]
        rfl

/-- A type and a description that are read back from a return tag. -/
structure IsReadableReturn (type : Text) (description : Option Text) : Prop where
  starts : ∃ c rest, type = c :: rest ∧ isBlank c = false
  unclosed : contains closer type = false
  single : '\n' ∉ type
  trimmed : description = none → trimEnd type = type
  token : typeToken 0 (type ++ describedTail description) = type
  description : ∀ d ∈ description, IsContent d ∧ d ≠ [] ∧ trimStart d = d

theorem isReadableReturn_void {description : Option Text}
    (content : ∀ d ∈ description, IsContent d ∧ d ≠ [] ∧ trimStart d = d) :
    IsReadableReturn "void".toList description where
  starts := ⟨'v', "oid".toList, rfl, by decide⟩
  unclosed := by decide
  single := by decide
  trimmed := fun _ => by decide
  token := typeToken_union (List.all_eq_true.1 (by decide)) (describedTail_spec content).2.1
  description := content

theorem readReturn?_spec {t type : Text} {description : Option Text} (content : IsContent t)
    (read : readReturn? t = some (type, description)) :
    ∃ behind, type ++ behind <:+ t ∧ typeToken 0 (type ++ behind) = type ∧
      (∃ c rest, type = c :: rest ∧ isBlank c = false) ∧ description = nonempty? (trim behind) := by
  cases found : after? "@return".toList t with
  | none =>
      rw [readReturn?, found] at read
      cases read
  | some rest =>
      rw [readReturn?_of_isContent content found] at read
      split at read
      · cases read
      · next some =>
          simp only [Option.some.injEq, Prod.mk.injEq] at read
          obtain ⟨rfl, rfl⟩ := read
          rw [Bool.or_eq_true, not_or, List.isEmpty_iff, List.isEmpty_iff] at some
          obtain ⟨c, rest', first⟩ := List.exists_cons_of_ne_nil some.2
          have solid := head_trimStart first
          obtain ⟨rest'', token⟩ := exists_typeToken_cons solid 0 rest'
          obtain ⟨behind, split⟩ := typeToken_isPrefix 0 (trimStart rest)
          refine ⟨behind, ?_, by rw [split], ⟨c, rest'', by rw [first, token], solid⟩, ?_⟩
          · rw [split, after?_eq_some_iff.1 found]
            exact (trimStart_suffix rest).trans (List.suffix_append _ rest)
          · have cut := congrArg (List.drop (typeToken 0 (trimStart rest)).length) split
            rw [List.drop_left] at cut
            rw [← cut]

theorem isReadableReturn_of_readReturn? {t type : Text} {description : Option Text}
    (content : IsContent t) (read : readReturn? t = some (type, description)) :
    IsReadableReturn type description := by
  obtain ⟨behind, body, token, starts, described⟩ := readReturn?_spec content read
  have part : type <:+: t := (List.prefix_append type behind).isInfix.trans body.isInfix
  have tail : behind <:+ t := (List.suffix_append type behind).trans body
  have readable : ∀ d ∈ description, IsContent d ∧ d ≠ [] ∧ trimStart d = d := by
    intro d member
    rw [described] at member
    exact isContent_of_nonempty?_trim tail.isInfix content member
  have ended : behind = [] ↔ description = none := by
    rw [described]
    constructor
    · rintro rfl
      rfl
    · intro none
      by_contra some
      have solid := trim_ne_nil (trimEnd_eq_of_suffix tail content.trimmed) some
      rw [nonempty?_eq_some_iff.2 ⟨rfl, solid⟩] at none
      cases none
  refine ⟨starts, contains_closer_of_isInfix part content.unclosed,
    fun feed => content.single (part.subset feed), fun none => ?_, ?_, readable⟩
  · rw [ended.2 none, List.append_nil] at body
    exact trimEnd_eq_of_suffix body content.trimmed
  · have again : typeToken 0 (typeToken 0 (type ++ behind) ++ describedTail description) =
        typeToken 0 (type ++ behind) := by
      refine typeToken_append ?_
      cases description with
      | none => exact .inl rfl
      | some d =>
          refine .inr ⟨(describedTail_spec readable).2.1, fun whole => ?_⟩
          rw [token, List.self_eq_append_right] at whole
          cases ended.1 whole
    rwa [token] at again

theorem isReadableReturn_of_text {t : Text} (content : IsContent t) :
    IsReadableReturn (((readReturn? t).map Prod.fst).getD "void".toList)
      (((readReturn? t).map Prod.snd).getD (nonempty? (trim (dropHead "@return".toList t)))) := by
  cases read : readReturn? t with
  | some result => exact isReadableReturn_of_readReturn? content read
  | none =>
      refine isReadableReturn_void fun d member => ?_
      exact isContent_of_nonempty?_trim (dropHead_suffix _ t).isInfix content member

theorem returnText_eq {docblock : Docblock}
    (readable : IsReadableReturn (docblock.returnType.getD "void".toList)
      docblock.returnDescription) :
    returnText docblock = "@return ".toList ++ (docblock.returnType.getD "void".toList ++
      describedTail docblock.returnDescription) := by
  have type : (docblock.returnType.filter fun type => !(trim type).isEmpty).getD "void".toList =
      docblock.returnType.getD "void".toList := by
    cases known : docblock.returnType with
    | none => rfl
    | some type =>
        rw [known, Option.getD_some] at readable
        obtain ⟨c, rest, rfl, solid⟩ := readable.starts
        have kept : trim (c :: rest) ≠ [] := fun empty => by
          rw [trim_eq_nil_iff.1 empty c (by simp)] at solid
          cases solid
        simp [Option.filter, kept]
  unfold returnText
  rw [type, List.append_assoc]
  rfl

theorem contains_closer_returnText {docblock : Docblock}
    (type : ∀ type ∈ docblock.returnType, contains closer type = false)
    (description : ∀ d ∈ docblock.returnDescription, contains closer d = false) :
    contains closer (returnText docblock) = false := by
  have text : returnText docblock = "@return ".toList ++
      ((docblock.returnType.filter fun type => !(trim type).isEmpty).getD "void".toList ++
        describedTail docblock.returnDescription) := by
    rw [← List.append_assoc]
    rfl
  have shown : contains closer
      ((docblock.returnType.filter fun type => !(trim type).isEmpty).getD "void".toList) = false := by
    cases kept : docblock.returnType.filter fun type => !(trim type).isEmpty with
    | none => decide
    | some t => exact type t (Option.filter_eq_some_iff.1 kept).1
  rw [text]
  simpa [contains_closer_cons] using contains_closer_append_describedTail shown description

theorem isContent_returnText {docblock : Docblock}
    (readable : IsReadableReturn (docblock.returnType.getD "void".toList)
      docblock.returnDescription) : IsContent (returnText docblock) := by
  obtain ⟨⟨trimmed, -, single⟩, -⟩ := describedTail_spec readable.description
  obtain ⟨c, rest, split, -⟩ := readable.starts
  refine ⟨?_, ?_, ?_⟩
  · rw [returnText_eq readable]
    refine trimEnd_append_of_trimEnd_eq ?_ (by rw [split]; exact List.cons_ne_nil _ _) _
    cases known : docblock.returnDescription with
    | none => simpa [describedTail] using readable.trimmed known
    | some d =>
        rw [known] at trimmed
        exact trimEnd_append_of_trimEnd_eq trimmed (by simp [describedTail]) _
  · refine contains_closer_returnText (fun type known => ?_)
      fun d known => (readable.description d known).1.unclosed
    have unclosed := readable.unclosed
    rwa [known, Option.getD_some] at unclosed
  · have := readable.single
    rw [returnText_eq readable]
    simp_all

theorem readReturn?_returnText {docblock : Docblock}
    (readable : IsReadableReturn (docblock.returnType.getD "void".toList)
      docblock.returnDescription) :
    readReturn? (returnText docblock) =
      some (docblock.returnType.getD "void".toList, docblock.returnDescription) := by
  obtain ⟨-, -, -, description⟩ := describedTail_spec readable.description
  have content := isContent_returnText readable
  rw [returnText_eq readable] at content ⊢
  obtain ⟨c, rest, split, solid⟩ := readable.starts
  have found : after? "@return".toList ("@return ".toList ++
      (docblock.returnType.getD "void".toList ++ describedTail docblock.returnDescription)) =
      some (' ' :: (docblock.returnType.getD "void".toList ++
        describedTail docblock.returnDescription)) := rfl
  have body : trimStart (' ' :: (docblock.returnType.getD "void".toList ++
      describedTail docblock.returnDescription)) = docblock.returnType.getD "void".toList ++
        describedTail docblock.returnDescription := by
    rw [trimStart_cons_of_blank (by decide), split, List.cons_append,
      trimStart_cons_of_not_blank solid]
  rw [readReturn?_of_isContent content found, body, readable.token, List.drop_left, description,
    List.takeWhile_cons_of_pos (by decide), split]
  simp

theorem tagName?_returnText (docblock : Docblock) :
    tagName? (returnText docblock) = some "@return".toList := by
  unfold returnText
  rfl

end DocblockSync.Docblock
