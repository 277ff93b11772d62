import DocblockSync.Proofs.ScopePositions
import DocblockSync.Proofs.Trimming

/-! The type read off the returns of a scope. The kinds returned are those of the return statements at
the positions of the scope, each once. Their names come out of the joined union again, so that a
union is `mixed` exactly if one of the kinds is called so. -/

namespace DocblockSync

open Text

/-- A class name as it stands in a union: without bars, question marks and blanks. -/
def IsClassName (name : Text) : Prop :=
  ∀ c ∈ name, c ≠ '|' ∧ c ≠ '?' ∧ isBlank c = false

theorem isClassName_iff {name : Text} :
    (name.all fun c => c != '|' && c != '?' && !isBlank c) = true ↔ IsClassName name := by
  rw [List.all_eq_true]
  refine forall₂_congr fun c _ => ?_
  simp [and_assoc]

instance (name : Text) : Decidable (IsClassName name) := decidable_of_iff _ isClassName_iff

theorem isClassName_typeName {kind : ReturnKind}
    (plain : ∀ name, kind = .named name → IsClassName name) : IsClassName kind.typeName := by
  cases kind with
  | named name => exact plain name rfl
  | _ => decide

theorem isMixedMember_of_isClassName {name : Text} (plain : IsClassName name) :
    isMixedMember name = sameIgnoringCase name "mixed".toList := by
  have open_ : name.dropWhile (· == '?') = name := by
    cases name with
    | nil => rfl
    | cons c name => exact List.dropWhile_cons_of_neg (by simpa using (plain c (by simp)).2.1)
  rw [isMixedMember, trim_of_unspaced fun c member => (plain c member).2.2, open_]

theorem isBlank_of_mem_union {names : List Text} (plain : ∀ name ∈ names, IsClassName name) :
    ∀ c ∈ joinWith ['|'] names, isBlank c = false := by
  induction names with
  | nil => simp [joinWith]
  | cons name names ih =>
      rw [List.forall_mem_cons] at plain
      cases names with
      | nil =>
          rw [joinWith, List.intercalate_singleton]
          exact fun c member => (plain.1 c member).2.2
      | cons next names =>
          intro c member
          rw [joinWith, List.intercalate_cons_cons, List.mem_append, List.mem_append] at member
          rcases member with (here | bar) | behind
          · exact (plain.1 c here).2.2
          · rw [List.mem_singleton.1 bar]
            decide
          · exact ih plain.2 c behind

theorem collapseMixed_union {names : List Text} (some : names ≠ [])
    (plain : ∀ name ∈ names, IsClassName name) :
    collapseMixed (joinWith ['|'] names) =
      if names.any (sameIgnoringCase · "mixed".toList) then "mixed".toList
      else joinWith ['|'] names := by
  have members : (joinWith ['|'] names).splitOn '|' = names :=
    List.splitOn_intercalate '|' (fun name member bar => (plain name member '|' bar).1 rfl) some
  have mixed : names.any isMixedMember = names.any (sameIgnoringCase · "mixed".toList) := by
    rw [Bool.eq_iff_iff, List.any_eq_true, List.any_eq_true]
    refine exists_congr fun name => and_congr_right fun member => ?_
    rw [isMixedMember_of_isClassName (plain name member)]
  rw [collapseMixed, members, mixed, trim_of_unspaced (isBlank_of_mem_union plain)]

theorem joinKinds_eq {kinds : List ReturnKind}
    (plain : ∀ name, .named name ∈ kinds → IsClassName name) :
    joinKinds kinds =
      if kinds = [] then "void".toList
      else if kinds.any (sameIgnoringCase ·.typeName "mixed".toList) then "mixed".toList
      else joinWith ['|'] (kinds.map ReturnKind.typeName) := by
  cases kinds with
  | nil => rfl
  | cons kind kinds =>
      have some : (kind :: kinds).map ReturnKind.typeName ≠ [] := by simp
      have names : ∀ name ∈ (kind :: kinds).map ReturnKind.typeName, IsClassName name := by
        intro name member
        obtain ⟨kind', inside, rfl⟩ := List.mem_map.1 member
        exact isClassName_typeName fun name same => plain name (same ▸ inside)
      have joined : joinKinds (kind :: kinds) =
          collapseMixed (joinWith ['|'] ((kind :: kinds).map ReturnKind.typeName)) := rfl
      rw [joined, collapseMixed_union some names, if_neg (List.cons_ne_nil kind kinds),
        List.any_map]
      rfl

end DocblockSync

namespace DocblockSync.Scope

open Php Text

def kindReturned (value : Option Expression) : ReturnKind := (value.map kindOf).getD .void

theorem returnedKind?_eq_some_iff {statement : Statement} {kind : ReturnKind} :
    returnedKind? statement = some kind ↔
      ∃ span value, statement = .returning span value ∧ kindReturned value = kind := by
  constructor
  · intro returns
    unfold returnedKind? at returns
    split at returns
    · next span value => exact ⟨span, some value, rfl, Option.some.inj returns⟩
    · next span => exact ⟨span, none, rfl, Option.some.inj returns⟩
    · cases returns
  · rintro ⟨span, value, rfl, rfl⟩
    cases value <;> rfl

theorem exists_returned (statements : List Statement) :
    ∃ returned, IsListing returnedKind? statements returned ∧
      KeepsFirst (returned.map Prod.snd) (returnKinds statements) := by
  have simple : ∀ {statement kind}, returnedKind? statement = some kind →
      held? statement = none := by
    intro statement kind returns
    obtain ⟨span, value, rfl, -⟩ := returnedKind?_eq_some_iff.1 returns
    rfl
  obtain ⟨returned, listing⟩ := exists_listing_of_scope returnedKind? simple statements
  refine ⟨returned, listing, ?_⟩
  rw [listing.values]
  exact keepsFirst_eraseDups _

/-- The kinds that a scope returns are those of the return statements reached through control
structures only, in source order and without repetition, and its return type is their union. -/
theorem return_type_of_scope (statements : List Statement)
    (plain : ∀ path span value name, StandsAt statements path (.returning span (some value)) →
      kindOf value = .named name → IsClassName name) :
    ∃ returned : List (List Nat × ReturnKind),
      returned.Pairwise (fun a b => a.1 < b.1) ∧
      (∀ path kind, (path, kind) ∈ returned ↔
        ∃ span value, StandsAt statements path (.returning span value) ∧
          kindReturned value = kind) ∧
      KeepsFirst (returned.map Prod.snd) (returnKinds statements) ∧
      returnType statements =
        if returnKinds statements = [] then "void".toList
        else if (returnKinds statements).any (sameIgnoringCase ·.typeName "mixed".toList) then
          "mixed".toList
        else joinWith ['|'] ((returnKinds statements).map ReturnKind.typeName) := by
  obtain ⟨returned, listing, first⟩ := exists_returned statements
  have mem_iff : ∀ path kind, (path, kind) ∈ returned ↔
      ∃ span value, StandsAt statements path (.returning span value) ∧
        kindReturned value = kind := by
    intro path kind
    rw [listing.mem_iff]
    constructor
    · rintro ⟨found, stands, returns⟩
      obtain ⟨span, value, rfl, same⟩ := returnedKind?_eq_some_iff.1 returns
      exact ⟨span, value, stands, same⟩
    · rintro ⟨span, value, stands, same⟩
      exact ⟨_, stands, returnedKind?_eq_some_iff.2 ⟨span, value, rfl, same⟩⟩
  refine ⟨returned, listing.ordered, mem_iff, first, joinKinds_eq fun name member => ?_⟩
  obtain ⟨⟨path, kind⟩, inside, rfl⟩ := List.mem_map.1 ((first.mem_iff _).1 member)
  obtain ⟨span, value, stands, same⟩ := (mem_iff _ _).1 inside
  cases value with
  | none => cases same
  | some value => exact plain path span value name stands same

def scatteredReturns (span : Span) : List Statement :=
  [.branches span .colon [] [[.returning span (some .int)],
      [.loop span .forEach .statement [] [.returning span (some (.parenthesized .null))]], []],
    .function span ⟨"inner".toList, [], none⟩ [.returning span (some (.array []))],
    .tryCatch span [.returning span (some (.instantiation "A\\B".toList []))]
      [[.switch span .statement [] [[.returning span (some .int)], [.other span []]]]]
      [.doWhile span [] [.block span [.returning span (some .string)]]]]

theorem reachedAll_scatteredReturns (span : Span) :
    reachedAll (scatteredReturns span) =
      [.returning span (some .int), .returning span (some (.parenthesized .null)),
        .function span ⟨"inner".toList, [], none⟩ [.returning span (some (.array []))],
        .returning span (some (.instantiation "A\\B".toList [])), .returning span (some .int),
        .other span [], .returning span (some .string)] := rfl

theorem return_type_of_scope_scattered :
    (∀ path span value name,
      StandsAt (scatteredReturns ⟨0, 0⟩) path (.returning span (some value)) →
      kindOf value = .named name → IsClassName name) ∧
      returnKinds (scatteredReturns ⟨0, 0⟩) = [.int, .null, .named "A\\B".toList, .string] ∧
      returnType (scatteredReturns ⟨0, 0⟩) = "int|null|A\\B|string".toList := by
  have plain : ∀ path span value name,
      StandsAt (scatteredReturns ⟨0, 0⟩) path (.returning span (some value)) →
      kindOf value = .named name → IsClassName name := by
    intro path span value name stands same
    have member := mem_reachedAll_of_standsAt stands rfl
    rw [reachedAll_scatteredReturns] at member
    simp only [List.mem_cons, Statement.returning.injEq, Option.some.injEq, reduceCtorEq,
      List.not_mem_nil, or_false, false_or] at member
    rcases member with ⟨-, rfl⟩ | ⟨-, rfl⟩ | ⟨-, rfl⟩ | ⟨-, rfl⟩ | ⟨-, rfl⟩ <;> cases same
    decide
  have kinds : returnKinds (scatteredReturns ⟨0, 0⟩) =
      [.int, .null, .named "A\\B".toList, .string] := by
    rw [returnKinds, reachedAll_scatteredReturns]
    decide
  obtain ⟨-, -, -, -, type⟩ := return_type_of_scope (scatteredReturns ⟨0, 0⟩) plain
  rw [kinds] at type
  exact ⟨plain, kinds, type⟩

end DocblockSync.Scope
