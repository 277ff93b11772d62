import Mathlib.Data.List.Basic
import Mathlib.Order.Basic

/-! Positions in nested data. A position is a list of indices, each one going from a node into what it
holds, so that source order is the lexicographic order of positions and a node comes before all that
it holds. -/

namespace DocblockSync.Positions

section

variable {N β : Type} (inner : N → List N) (own : N → Option β) (lift : N → β → β)

/-- The value at a position: what the node there has of its own, lifted by every node around it. -/
inductive Found : List N → List Nat → β → Prop
  | here {nodes : List N} {i : Nat} {node : N} {value : β} :
      nodes[i]? = some node → own node = some value → Found nodes [i] value
  | inside {nodes : List N} {i : Nat} {node : N} {path : List Nat} {value : β} :
      nodes[i]? = some node → Found (inner node) path value → Found nodes (i :: path) (lift node value)

/-- All values with their positions, in source order. -/
structure IsListing (nodes : List N) (places : List (List Nat × β)) : Prop where
  ordered : places.Pairwise fun a b => a.1 < b.1
  mem_iff : ∀ path value, (path, value) ∈ places ↔ Found inner own lift nodes path value

def below (node : N) (place : List Nat × β) : List Nat × β := (0 :: place.1, lift node place.2)

def later (place : List Nat × β) : List Nat × β := (place.1.modifyHead (· + 1), place.2)

/-- What a node has of its own, then what it holds, then what is behind it. -/
def gather (node : N) (held behind : List (List Nat × β)) : List (List Nat × β) :=
  (own node).toList.map (fun value => ([0], value)) ++ held.map (below lift node) ++
    behind.map later

variable {inner own lift}

theorem not_found_nil {path : List Nat} {value : β} : ¬Found inner own lift [] path value := by
  rintro (at_i | at_i) <;> simp at at_i

theorem found_cons_iff {node : N} {rest : List N} {path : List Nat} {value : β} :
    Found inner own lift (node :: rest) path value ↔
      (path = [0] ∧ own node = some value) ∨
      (∃ further value', path = 0 :: further ∧ value = lift node value' ∧
        Found inner own lift (inner node) further value') ∨
      ∃ i further, path = (i + 1) :: further ∧ Found inner own lift rest (i :: further) value := by
  constructor
  · intro found
    cases found with
    | @here _ i _ _ at_i has =>
        cases i with
        | zero =>
            obtain rfl := Option.some.inj at_i
            exact .inl ⟨rfl, has⟩
        | succ i => exact .inr (.inr ⟨i, [], rfl, .here at_i has⟩)
    | @inside _ i _ further value' at_i found =>
        cases i with
        | zero =>
            obtain rfl := Option.some.inj at_i
            exact .inr (.inl ⟨further, value', rfl, rfl, found⟩)
        | succ i => exact .inr (.inr ⟨i, further, rfl, .inside at_i found⟩)
  · rintro (⟨rfl, has⟩ | ⟨further, value', rfl, rfl, found⟩ | ⟨i, further, rfl, found⟩)
    · exact .here rfl has
    · exact .inside rfl found
    · cases found with
      | here at_i has => exact .here at_i has
      | inside at_i found => exact .inside at_i found

theorem later_lt_later {a b : List Nat × β} (less : a.1 < b.1) : (later a).1 < (later b).1 := by
  obtain ⟨p, x⟩ := a
  obtain ⟨q, y⟩ := b
  cases q with
  | nil => simp at less
  | cons j q =>
      cases p with
      | nil => simp [later]
      | cons i p =>
          simp only [List.cons_lt_cons_iff] at less
          simpa only [later, List.modifyHead_cons, List.cons_lt_cons_iff, Nat.add_lt_add_iff_right,
            Nat.add_right_cancel_iff] using less

theorem IsListing.mem_map_later_iff {rest : List N} {behind : List (List Nat × β)}
    (listing : IsListing inner own lift rest behind) {path : List Nat} {value : β} :
    (path, value) ∈ behind.map later ↔ ∃ i further, path = (i + 1) :: further ∧
      Found inner own lift rest (i :: further) value := by
  constructor
  · intro member
    obtain ⟨⟨path', value'⟩, inside, same⟩ := List.mem_map.1 member
    obtain ⟨rfl, rfl⟩ := Prod.mk.inj same
    have found := (listing.mem_iff path' value').1 inside
    cases path' with
    | nil => cases found
    | cons i further => exact ⟨i, further, rfl, found⟩
  · rintro ⟨i, further, rfl, found⟩
    exact List.mem_map.2 ⟨(i :: further, value), (listing.mem_iff _ _).2 found, rfl⟩

theorem IsListing.mem_map_below_iff {node : N} {held : List (List Nat × β)}
    (listing : IsListing inner own lift (inner node) held) {path : List Nat} {value : β} :
    (path, value) ∈ held.map (below lift node) ↔ ∃ further value', path = 0 :: further ∧
      value = lift node value' ∧ Found inner own lift (inner node) further value' := by
  constructor
  · intro member
    obtain ⟨⟨further, value'⟩, inside, same⟩ := List.mem_map.1 member
    obtain ⟨rfl, rfl⟩ := Prod.mk.inj same
    exact ⟨further, value', rfl, rfl, (listing.mem_iff further value').1 inside⟩
  · rintro ⟨further, value', rfl, rfl, found⟩
    exact List.mem_map.2 ⟨(further, value'), (listing.mem_iff _ _).2 found, rfl⟩

theorem mem_own_iff {node : N} {path : List Nat} {value : β} :
    (path, value) ∈ (own node).toList.map (fun value => ([0], value)) ↔
      path = [0] ∧ own node = some value := by
  cases own node <;> simp [eq_comm]

theorem map_snd_gather (node : N) (held behind : List (List Nat × β)) :
    (gather own lift node held behind).map Prod.snd =
      (own node).toList ++ (held.map Prod.snd).map (lift node) ++ behind.map Prod.snd := by
  simp [gather, below, later, Function.comp_def]

theorem isListing_nil : IsListing inner own lift [] [] where
  ordered := List.Pairwise.nil
  mem_iff _ _ := by simp [not_found_nil]

theorem IsListing.gather {node : N} {rest : List N} {held behind : List (List Nat × β)}
    (within : IsListing inner own lift (inner node) held)
    (after : IsListing inner own lift rest behind) :
    IsListing inner own lift (node :: rest) (gather own lift node held behind) where
  ordered := by
    refine List.pairwise_append.2 ⟨List.pairwise_append.2 ⟨?_, ?_, ?_⟩, ?_, ?_⟩
    · cases own node <;> simp
    · refine List.pairwise_map.2 (within.ordered.imp fun less => ?_)
      exact List.cons_lt_cons_iff.2 (.inr ⟨rfl, less⟩)
    · rintro ⟨path, value⟩ first ⟨path', value'⟩ second
      obtain ⟨rfl, -⟩ := mem_own_iff.1 first
      obtain ⟨further, _, rfl, -, found⟩ := within.mem_map_below_iff.1 second
      cases further with
      | nil => cases found
      | cons i further => exact List.cons_lt_cons_iff.2 (.inr ⟨rfl, by simp⟩)
    · exact List.pairwise_map.2 (after.ordered.imp later_lt_later)
    · rintro ⟨path, value⟩ first ⟨path', value'⟩ second
      have starts : ∃ further, path = 0 :: further := by
        rcases List.mem_append.1 first with here | held
        · exact ⟨[], (mem_own_iff.1 here).1⟩
        · obtain ⟨further, _, rfl, -⟩ := within.mem_map_below_iff.1 held
          exact ⟨further, rfl⟩
      obtain ⟨further, rfl⟩ := starts
      obtain ⟨i, further', rfl, -⟩ := after.mem_map_later_iff.1 second
      exact List.cons_lt_cons_iff.2 (.inl (Nat.succ_pos i))
  mem_iff path value := by
    rw [found_cons_iff, Positions.gather, List.mem_append, List.mem_append, mem_own_iff,
      within.mem_map_below_iff, after.mem_map_later_iff, or_assoc]

end

end DocblockSync.Positions
