import DocblockSync.Proofs.ReturnInference

/-! What a scope throws, and what it does not see. The shell of a statement is what stands outside the
bodies of the functions and classes in it, those without a name that stand in its expressions
included; all that is read off a scope is read off its shells. -/

namespace DocblockSync.Php

mutual

/-- An expression with nothing left in the functions and classes in it. -/
def Expression.shell : Expression → Expression
  | .string => .string
  | .int => .int
  | .float => .float
  | .bool => .bool
  | .null => .null
  | .array within => .array (expressionShells within)
  | .parenthesized inner => .parenthesized inner.shell
  | .instantiation className within => .instantiation className (expressionShells within)
  | .throwing exception => .throwing exception.shell
  | .closure _ => .closure []
  | .arrow _ => .arrow (.other [])
  | .anonymousClass _ => .anonymousClass []
  | .other within => .other (expressionShells within)

def expressionShells : List Expression → List Expression
  | [] => []
  | expression :: rest => expression.shell :: expressionShells rest

end

mutual

/-- A statement with nothing left in the functions and classes in it, and without places in the
source. -/
def Statement.shell : Statement → Statement
  | .block _ body => .block ⟨0, 0⟩ (shells body)
  | .branches _ delimiters heads parts =>
      .branches ⟨0, 0⟩ delimiters (expressionShells heads) (partShells parts)
  | .loop _ kind delimiters heads body =>
      .loop ⟨0, 0⟩ kind delimiters (expressionShells heads) (shells body)
  | .doWhile _ heads body => .doWhile ⟨0, 0⟩ (expressionShells heads) (shells body)
  | .switch _ delimiters heads cases =>
      .switch ⟨0, 0⟩ delimiters (expressionShells heads) (partShells cases)
  | .tryCatch _ body handlers cleanup =>
      .tryCatch ⟨0, 0⟩ (shells body) (partShells handlers) (shells cleanup)
  | .namespaced _ body => .namespaced ⟨0, 0⟩ (shells body)
  | .function _ signature _ => .function ⟨0, 0⟩ signature []
  | .classLike _ kind name _ => .classLike ⟨0, 0⟩ kind name []
  | .returning _ value => .returning ⟨0, 0⟩ (value.map Expression.shell)
  | .expression _ value => .expression ⟨0, 0⟩ value.shell
  | .other _ heads => .other ⟨0, 0⟩ (expressionShells heads)

def shells : List Statement → List Statement
  | [] => []
  | statement :: rest => statement.shell :: shells rest

def partShells : List (List Statement) → List (List Statement)
  | [] => []
  | part :: rest => shells part :: partShells rest

end

theorem shells_append (front rest : List Statement) :
    shells (front ++ rest) = shells front ++ shells rest := by
  induction front with
  | nil => rw [List.nil_append, shells, List.nil_append]
  | cons statement front ih => rw [List.cons_append, shells, shells, ih, List.cons_append]

theorem flatten_partShells (parts : List (List Statement)) :
    (partShells parts).flatten = shells parts.flatten := by
  induction parts with
  | nil => rw [partShells, List.flatten_nil, shells]
  | cons part parts ih =>
      rw [partShells, List.flatten_cons, List.flatten_cons, ih, shells_append]

theorem held?_shell (statement : Statement) :
    Scope.held? statement.shell = (Scope.held? statement).map shells := by
  cases statement with
  | branches span delimiters heads parts =>
      rw [Statement.shell, Scope.held?, Scope.held?, flatten_partShells, Option.map_some]
  | switch span delimiters heads cases =>
      rw [Statement.shell, Scope.held?, Scope.held?, flatten_partShells, Option.map_some]
  | tryCatch span body handlers cleanup =>
      rw [Statement.shell, Scope.held?, Scope.held?, flatten_partShells, Option.map_some,
        shells_append, shells_append]
  | _ => rw [Statement.shell]; rfl

end DocblockSync.Php

namespace DocblockSync.Scope

open Php

/-- An expression that makes an instance of a class given by name, in parentheses or not. -/
inductive Instantiates : Expression → Text → Prop
  | named (className : Text) (within : List Expression) :
      Instantiates (.instantiation className within) className
  | parenthesized {inner : Expression} {className : Text} :
      Instantiates inner className → Instantiates (.parenthesized inner) className

/-- The name under which a thrown value counts: the class that it is an instance of, or else the
general one. -/
def ThrownAs (exception : Expression) (name : Text) : Prop :=
  Instantiates exception name ∨
    ((∀ className, ¬Instantiates exception className) ∧ name = "Exception".toList)

theorem instantiates_parenthesized_iff {inner : Expression} {className : Text} :
    Instantiates (.parenthesized inner) className ↔ Instantiates inner className :=
  ⟨fun | .parenthesized instantiates => instantiates, .parenthesized⟩

theorem thrownName_eq_iff {exception : Expression} {name : Text} :
    thrownName exception = name ↔ ThrownAs exception name := by
  fun_induction thrownName exception with
  | case1 className within =>
      constructor
      · rintro rfl
        exact .inl (.named className within)
      · rintro (instantiates | ⟨general, -⟩)
        · cases instantiates
          rfl
        · exact absurd (.named className within) (general className)
  | case2 inner ih =>
      rw [ih]
      simp only [ThrownAs, instantiates_parenthesized_iff]
  | case3 exception notInstantiation notParenthesized =>
      have general : ∀ className, ¬Instantiates exception className := by
        rintro className (⟨_, within⟩ | @⟨inner⟩)
        · exact notInstantiation className within rfl
        · exact notParenthesized inner rfl
      constructor
      · rintro rfl
        exact .inr ⟨general, rfl⟩
      · rintro (instantiates | ⟨-, rfl⟩)
        · exact absurd instantiates (general name)
        · rfl

theorem thrownType?_eq_some_iff {statement : Statement} {name : Text} :
    thrownType? statement = some name ↔
      ∃ span exception, statement = .expression span (.throwing exception) ∧
        ThrownAs exception name := by
  constructor
  · intro throws
    unfold thrownType? at throws
    split at throws
    · next span exception =>
        exact ⟨span, exception, rfl, thrownName_eq_iff.1 (Option.some.inj throws)⟩
    · cases throws
  · rintro ⟨span, exception, rfl, same⟩
    exact congrArg some (thrownName_eq_iff.2 same)

theorem exists_thrown (statements : List Statement) :
    ∃ thrown, IsListing thrownType? statements thrown ∧
      KeepsFirst (thrown.map Prod.snd) (thrownTypes statements) := by
  have simple : ∀ {statement name}, thrownType? statement = some name →
      held? statement = none := by
    intro statement name throws
    obtain ⟨span, exception, rfl, -⟩ := thrownType?_eq_some_iff.1 throws
    rfl
  obtain ⟨thrown, listing⟩ := exists_listing_of_scope thrownType? simple statements
  refine ⟨thrown, listing, ?_⟩
  rw [listing.values]
  exact keepsFirst_eraseDups _

theorem reachedAll_shells (statements : List Statement) :
    reachedAll (shells statements) = shells (reachedAll statements) := by
  induction statements using scope_induction with
  | nil => rw [shells, reachedAll, shells]
  | @enter statement body rest holds inner outer =>
      rw [shells, reachedAll, reachedAll, shells_append, outer, reached_eq, reached_eq, held?_shell,
        holds]
      exact congrArg (· ++ _) inner
  | @pass statement rest holds outer =>
      rw [shells, reachedAll, reachedAll, shells_append, outer, reached_eq, reached_eq, held?_shell,
        holds]
      rfl

section Blind

variable {β : Type} {pick : Statement → Option β}

theorem filterMap_shells (blind : ∀ statement : Statement, pick statement.shell = pick statement)
    (statements : List Statement) :
    (shells statements).filterMap pick = statements.filterMap pick := by
  induction statements with
  | nil => rw [shells]
  | cons statement rest ih => rw [shells, List.filterMap_cons, List.filterMap_cons, blind, ih]

/-- What is picked by its shell is the same in scopes with the same shells. -/
theorem filterMap_reachedAll_of_shells_eq
    (blind : ∀ statement : Statement, pick statement.shell = pick statement)
    {left right : List Statement} (same : shells left = shells right) :
    (reachedAll left).filterMap pick = (reachedAll right).filterMap pick := by
  rw [← filterMap_shells blind, ← filterMap_shells blind (reachedAll right), ← reachedAll_shells,
    ← reachedAll_shells, same]

end Blind

theorem kindOf_shell : (value : Expression) → kindOf value.shell = kindOf value
  | .parenthesized inner => by rw [Expression.shell, kindOf, kindOf, kindOf_shell inner]
  | .string | .int | .float | .bool | .null => by rw [Expression.shell]
  | .array _ | .instantiation _ _ | .throwing _ | .closure _ | .arrow _ | .anonymousClass _
  | .other _ => by rw [Expression.shell, kindOf, kindOf]

theorem thrownName_shell : (exception : Expression) →
    thrownName exception.shell = thrownName exception
  | .parenthesized inner => by rw [Expression.shell, thrownName, thrownName, thrownName_shell inner]
  | .string | .int | .float | .bool | .null => by rw [Expression.shell]
  | .array _ | .instantiation _ _ | .throwing _ | .closure _ | .arrow _ | .anonymousClass _
  | .other _ => by rw [Expression.shell]; rfl

theorem thrownType?_shell (statement : Statement) :
    thrownType? statement.shell = thrownType? statement := by
  cases statement with
  | expression span value =>
      rw [Statement.shell]
      cases value with
      | throwing exception =>
          rw [Expression.shell, thrownType?, thrownType?, thrownName_shell]
      | _ => rw [Expression.shell]; rfl
  | _ => rw [Statement.shell]; rfl

theorem returnedKind?_shell (statement : Statement) :
    returnedKind? statement.shell = returnedKind? statement := by
  cases statement with
  | returning span value =>
      rw [Statement.shell]
      cases value with
      | none => rfl
      | some value => rw [Option.map_some, returnedKind?, returnedKind?, kindOf_shell]
  | _ => rw [Statement.shell]; rfl

/-- The types that a scope throws are those of the throw statements reached through control structures
only, in source order and without repetition. What stands in the bodies of functions and classes, with
a name or without, changes neither these types nor the type returned. -/
theorem only_own_scope_collected :
    (∀ statements : List Statement, ∃ thrown : List (List Nat × Text),
      thrown.Pairwise (fun a b => a.1 < b.1) ∧
      (∀ path name, (path, name) ∈ thrown ↔
        ∃ span exception, StandsAt statements path (.expression span (.throwing exception)) ∧
          ThrownAs exception name) ∧
      KeepsFirst (thrown.map Prod.snd) (thrownTypes statements)) ∧
    (∀ left right : List Statement, shells left = shells right →
      thrownTypes left = thrownTypes right ∧ returnType left = returnType right) := by
  refine ⟨fun statements => ?_, fun left right same => ⟨?_, ?_⟩⟩
  · obtain ⟨thrown, listing, first⟩ := exists_thrown statements
    refine ⟨thrown, listing.ordered, fun path name => ?_, first⟩
    rw [listing.mem_iff]
    constructor
    · rintro ⟨found, stands, throws⟩
      obtain ⟨span, exception, rfl, as⟩ := thrownType?_eq_some_iff.1 throws
      exact ⟨span, exception, stands, as⟩
    · rintro ⟨span, exception, stands, as⟩
      exact ⟨_, stands, thrownType?_eq_some_iff.2 ⟨span, exception, rfl, as⟩⟩
  · rw [thrownTypes, filterMap_reachedAll_of_shells_eq thrownType?_shell same, ← thrownTypes]
  · rw [returnType, returnKinds, filterMap_reachedAll_of_shells_eq returnedKind?_shell same,
      ← returnKinds, ← returnType]

/-- Throws and returns in several control structures, around functions and classes with and without a
name that hold some statements. -/
def scatteredThrows (span : Span) (body : List Statement) : List Statement :=
  [.tryCatch span
      [.expression span (.throwing (.parenthesized (.instantiation "A".toList [.closure body]))),
        .function span ⟨"inner".toList, [], none⟩ body,
        .expression span (.other [.arrow (.throwing (.other [.closure body]))])]
      [[.branches span .colon [.closure body]
          [[.expression span (.throwing (.other []))],
            [.returning span (some (.array [.closure body]))]]]]
      [.classLike span .enumType "E".toList [.method span ⟨"m".toList, [], none⟩ body],
        .expression span (.throwing (.instantiation "A".toList
          [.anonymousClass [.method span ⟨"m".toList, [], none⟩ body]]))]]

theorem only_own_scope_collected_nested :
    let left := scatteredThrows ⟨0, 0⟩ []
    let right := scatteredThrows ⟨1, 7⟩
      [.expression ⟨3, 9⟩ (.throwing (.instantiation "B".toList [])),
        .returning ⟨2, 3⟩ (some .int)]
    shells left = shells right ∧ thrownTypes right = ["A".toList, "Exception".toList] ∧
      returnType right = "array".toList := by
  intro left right
  obtain ⟨-, isolated⟩ := only_own_scope_collected
  have same : shells left = shells right := rfl
  obtain ⟨thrown, returned⟩ := isolated left right same
  refine ⟨same, thrown ▸ ?_, returned ▸ ?_⟩
  · decide
  · decide

end DocblockSync.Scope
