import DocblockSync.Proofs.Positions
import DocblockSync.Scope

/-! Positions in a scope. An index of a position goes from a control structure into the statements it
holds. What a scope reaches are the statements at its positions, in source order. -/

namespace DocblockSync.Scope

open Php Positions

/-- The statements in a control structure, in source order. Nothing else is entered. -/
def held? : Statement → Option (List Statement)
  | .block _ body => some body
  | .branches _ _ _ parts => some parts.flatten
  | .loop _ _ _ _ body => some body
  | .doWhile _ _ body => some body
  | .switch _ _ _ cases => some cases.flatten
  | .tryCatch _ body handlers cleanup => some (body ++ handlers.flatten ++ cleanup)
  | .namespaced _ body => some body
  | .function .. | .classLike .. | .returning .. | .expression .. | .other .. => none

/-- The statement at a position, which every index but the last enters further. -/
inductive StandsAt : List Statement → List Nat → Statement → Prop
  | here {statements : List Statement} {i : Nat} {statement : Statement} :
      statements[i]? = some statement → StandsAt statements [i] statement
  | inside {statements body : List Statement} {i : Nat} {holder statement : Statement}
      {path : List Nat} :
      statements[i]? = some holder → held? holder = some body → StandsAt body path statement →
        StandsAt statements (i :: path) statement

theorem reachedAll_append (front rest : List Statement) :
    reachedAll (front ++ rest) = reachedAll front ++ reachedAll rest := by
  induction front with
  | nil => rw [List.nil_append, reachedAll, List.nil_append]
  | cons statement front ih =>
      rw [List.cons_append, reachedAll, reachedAll, ih, List.append_assoc]

theorem reachedParts_eq (parts : List (List Statement)) :
    reachedParts parts = reachedAll parts.flatten := by
  induction parts with
  | nil => rw [reachedParts, List.flatten_nil, reachedAll]
  | cons part parts ih => rw [reachedParts, ih, List.flatten_cons, reachedAll_append]

theorem reached_eq (statement : Statement) :
    reached statement = ((held? statement).map reachedAll).getD [statement] := by
  cases statement with
  | tryCatch span body handlers cleanup =>
      rw [reached, held?, reachedParts_eq, Option.map_some, Option.getD_some, reachedAll_append,
        reachedAll_append]
  | branches span delimiters heads parts => rw [reached, reachedParts_eq]; rfl
  | switch span delimiters heads cases => rw [reached, reachedParts_eq]; rfl
  | _ => rw [reached]; rfl

theorem reachedAll_eq_flatMap (statements : List Statement) :
    reachedAll statements = statements.flatMap reached := by
  induction statements with
  | nil => rw [reachedAll, List.flatMap_nil]
  | cons statement rest ih => rw [reachedAll, ih, List.flatMap_cons]

theorem mem_reachedAll_of_standsAt {statements : List Statement} {path : List Nat}
    {found : Statement} (stands : StandsAt statements path found) (simple : held? found = none) :
    found ∈ reachedAll statements := by
  induction stands with
  | here at_i =>
      rw [reachedAll_eq_flatMap]
      refine List.mem_flatMap.2 ⟨_, List.mem_of_getElem? at_i, ?_⟩
      rw [reached_eq, simple]
      exact List.mem_singleton_self _
  | inside at_i holds _ ih =>
      rw [reachedAll_eq_flatMap]
      refine List.mem_flatMap.2 ⟨_, List.mem_of_getElem? at_i, ?_⟩
      rw [reached_eq, holds]
      exact ih simple

theorem sizeOf_append (front rest : List Statement) :
    sizeOf (front ++ rest) + 1 = sizeOf front + sizeOf rest := by
  induction front with
  | nil => simp [Nat.add_comm]
  | cons statement front ih =>
      simp only [List.cons_append, List.cons.sizeOf_spec]
      omega

theorem sizeOf_flatten_le (parts : List (List Statement)) : sizeOf parts.flatten ≤ sizeOf parts := by
  induction parts with
  | nil => simp
  | cons part parts ih =>
      have size := sizeOf_append part parts.flatten
      simp only [List.flatten_cons, List.cons.sizeOf_spec]
      omega

theorem sizeOf_held? {statement : Statement} {body : List Statement}
    (holds : held? statement = some body) : sizeOf body < sizeOf statement := by
  cases statement with
  | tryCatch span body' handlers cleanup =>
      obtain rfl := Option.some.inj holds
      have upper := sizeOf_append body' handlers.flatten
      have whole := sizeOf_append (body' ++ handlers.flatten) cleanup
      have parts := sizeOf_flatten_le handlers
      simp only [Statement.tryCatch.sizeOf_spec]
      omega
  | branches span delimiters heads parts =>
      obtain rfl := Option.some.inj holds
      have size := sizeOf_flatten_le parts
      simp only [Statement.branches.sizeOf_spec]
      omega
  | switch span delimiters heads cases =>
      obtain rfl := Option.some.inj holds
      have size := sizeOf_flatten_le cases
      simp only [Statement.switch.sizeOf_spec]
      omega
  | block | loop | doWhile | namespaced =>
      obtain rfl := Option.some.inj holds
      simp only [Statement.block.sizeOf_spec, Statement.loop.sizeOf_spec,
        Statement.doWhile.sizeOf_spec, Statement.namespaced.sizeOf_spec]
      omega
  | _ => cases holds

theorem scope_induction {motive : List Statement → Prop} (nil : motive [])
    (enter : ∀ {statement body rest}, held? statement = some body → motive body → motive rest →
      motive (statement :: rest))
    (pass : ∀ {statement rest}, held? statement = none → motive rest → motive (statement :: rest))
    (statements : List Statement) : motive statements := by
  induction size : sizeOf statements using Nat.strongRecOn generalizing statements with
  | _ n ih =>
      cases statements with
      | nil => exact nil
      | cons statement rest =>
          rw [List.cons.sizeOf_spec] at size
          have below : motive rest := ih (sizeOf rest) (by omega) rest rfl
          cases holds : held? statement with
          | none => exact pass holds below
          | some body =>
              have smaller := sizeOf_held? holds
              exact enter holds (ih (sizeOf body) (by omega) body rfl) below

/-- What is picked of the statements at all positions, in source order. -/
structure IsListing {β : Type} (pick : Statement → Option β) (statements : List Statement)
    (places : List (List Nat × β)) : Prop where
  values : places.map Prod.snd = (reachedAll statements).filterMap pick
  ordered : places.Pairwise fun a b => a.1 < b.1
  mem_iff : ∀ path value, (path, value) ∈ places ↔
    ∃ found, StandsAt statements path found ∧ pick found = some value

theorem found_iff_standsAt {β : Type} {pick : Statement → Option β} {statements : List Statement}
    {path : List Nat} {value : β} :
    Found (fun statement => (held? statement).getD []) pick (fun _ value => value) statements path
        value ↔
      ∃ found, StandsAt statements path found ∧ pick found = some value := by
  constructor
  · intro found
    induction found with
    | here at_i picked => exact ⟨_, .here at_i, picked⟩
    | @inside _ _ holder _ _ at_i found ih =>
        obtain ⟨statement, stands, picked⟩ := ih
        cases holds : held? holder with
        | none =>
            rw [holds] at found
            exact absurd found not_found_nil
        | some body =>
            rw [holds] at stands
            exact ⟨statement, .inside at_i holds stands, picked⟩
  · rintro ⟨statement, stands, picked⟩
    induction stands with
    | here at_i => exact .here at_i picked
    | @inside _ _ _ holder _ further at_i holds _ ih =>
        have entered : Found (fun statement => (held? statement).getD []) pick (fun _ value => value)
            ((held? holder).getD []) further value := by
          rw [holds]
          exact ih picked
        exact .inside at_i entered

theorem exists_listing_of_scope {β : Type} (pick : Statement → Option β)
    (simple : ∀ {statement value}, pick statement = some value → held? statement = none)
    (statements : List Statement) :
    ∃ places, IsListing pick statements places := by
  suffices ∃ places : List (List Nat × β),
      Positions.IsListing (fun statement => (held? statement).getD []) pick (fun _ value => value)
        statements places ∧
      places.map Prod.snd = (reachedAll statements).filterMap pick by
    obtain ⟨places, listing, values⟩ := this
    exact ⟨places, values, listing.ordered, fun path value =>
      (listing.mem_iff path value).trans found_iff_standsAt⟩
  induction statements using scope_induction with
  | nil => exact ⟨[], isListing_nil, rfl⟩
  | @enter statement body rest holds inner outer =>
      obtain ⟨held, within, valuesWithin⟩ := inner
      obtain ⟨behind, after, valuesAfter⟩ := outer
      have passed : pick statement = none := by
        by_contra some
        obtain ⟨value, picked⟩ := Option.ne_none_iff_exists'.1 some
        rw [simple picked] at holds
        cases holds
      refine ⟨gather pick (fun _ value => value) statement held behind,
        .gather (by rwa [holds]) after, ?_⟩
      rw [map_snd_gather, passed, valuesWithin, valuesAfter, reachedAll, List.filterMap_append,
        reached_eq, holds]
      simp
  | @pass statement rest holds outer =>
      obtain ⟨behind, after, valuesAfter⟩ := outer
      refine ⟨gather pick (fun _ value => value) statement [] behind,
        .gather (by rw [holds]; exact isListing_nil) after, ?_⟩
      rw [map_snd_gather, valuesAfter, reachedAll, List.filterMap_append, reached_eq, holds]
      cases picked : pick statement <;> simp [picked]

/-- The entries of a list once each, in the order in which they first occur. -/
structure KeepsFirst {α : Type} [BEq α] (all kept : List α) : Prop where
  mem_iff : ∀ x, x ∈ kept ↔ x ∈ all
  ordered : kept.Pairwise fun x y => all.idxOf x < all.idxOf y

theorem idxOf_lt_of_filter {α : Type} [BEq α] [LawfulBEq α] {p : α → Bool} {all : List α} {x y : α}
    (first : p x = true) (second : p y = true)
    (less : (all.filter p).idxOf x < (all.filter p).idxOf y) : all.idxOf x < all.idxOf y := by
  induction all with
  | nil => simp at less
  | cons z all ih =>
      by_cases kept : p z = true
      · rw [List.filter_cons_of_pos kept] at less
        by_cases here : z = y
        · simp [here] at less
        · rw [List.idxOf_cons_ne _ here] at less ⊢
          by_cases start : z = x
          · simp [start]
          · rw [List.idxOf_cons_ne _ start] at less ⊢
            exact Nat.succ_lt_succ (ih (Nat.lt_of_succ_lt_succ less))
      · have notX : z ≠ x := fun same => kept (same ▸ first)
        have notY : z ≠ y := fun same => kept (same ▸ second)
        rw [List.filter_cons_of_neg kept] at less
        rw [List.idxOf_cons_ne _ notX, List.idxOf_cons_ne _ notY]
        exact Nat.succ_lt_succ (ih less)

theorem keepsFirst_eraseDups {α : Type} [BEq α] [LawfulBEq α] (all : List α) :
    KeepsFirst all all.eraseDups := by
  induction size : all.length using Nat.strongRecOn generalizing all with
  | _ n ih =>
      refine ⟨fun x => List.mem_eraseDups, ?_⟩
      cases all with
      | nil => simp
      | cons z all =>
          rw [List.eraseDups_cons]
          have shorter := List.length_filter_le (fun x => !x == z) all
          rw [List.length_cons] at size
          have kept := ih _ (by omega) (all.filter fun x => !x == z) rfl
          have other : ∀ x ∈ (all.filter fun x => !x == z).eraseDups, x ≠ z := by
            intro x member
            simpa using (List.mem_filter.1 ((kept.mem_iff x).1 member)).2
          refine List.pairwise_cons.2 ⟨fun x member => ?_, ?_⟩
          · rw [List.idxOf_cons_self, List.idxOf_cons_ne _ (other x member).symm]
            exact Nat.succ_pos _
          · refine kept.ordered.imp_of_mem fun {x y} first second less => ?_
            have notX := other x first
            have notY := other y second
            rw [List.idxOf_cons_ne _ notX.symm, List.idxOf_cons_ne _ notY.symm]
            exact Nat.succ_lt_succ (idxOf_lt_of_filter (by simpa using notX) (by simpa using notY) less)

end DocblockSync.Scope
