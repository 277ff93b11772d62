import DocblockSync.Proofs.Constructs
import Mathlib.Order.Nat

/-! The outline as a forest. Where the constructs of a program lie within each other and side by side
in the source, so do the line ranges of their declarations. Every declaration that is outlined stands
in the forest once, below the declarations around it. -/

namespace DocblockSync

namespace Outline

/-- An outline at any depth of a forest. -/
inductive Occurs : List Outline → Outline → Prop
  | root {forest : List Outline} {outline : Outline} : outline ∈ forest → Occurs forest outline
  | deeper {forest : List Outline} {outer outline : Outline} :
      outer ∈ forest → Occurs outer.children outline → Occurs forest outline

/-- Each declaration of a list ends no later than the line where the next one starts. -/
def InOrder (forest : List Outline) : Prop :=
  forest.Pairwise fun previous next => previous.declaration.endLine ≤ next.declaration.startLine

/-- A declaration takes up lines of the source, and those inside it take up some of them, one after
the other. -/
structure IsNested (lineCount : Nat) (outline : Outline) : Prop where
  upright : outline.declaration.startLine ≤ outline.declaration.endLine
  bounded : outline.declaration.endLine < lineCount
  within : ∀ child ∈ outline.children,
    outline.declaration.startLine ≤ child.declaration.startLine ∧
      child.declaration.endLine ≤ outline.declaration.endLine
  ordered : InOrder outline.children

mutual

/-- Every declaration at the end of the declarations around it, depth first. -/
def chains : Outline → List (List Declaration)
  | .node declaration children => [declaration] :: (forestChains children).map (declaration :: ·)

def forestChains : List Outline → List (List Declaration)
  | [] => []
  | outline :: rest => outline.chains ++ forestChains rest

end

theorem occurs_flatMap_iff {α : Type} {all : List α} {f : α → List Outline} {outline : Outline} :
    Occurs (all.flatMap f) outline ↔ ∃ x ∈ all, Occurs (f x) outline := by
  constructor
  · rintro (member | ⟨member, inside⟩)
    · obtain ⟨x, inAll, inside⟩ := List.mem_flatMap.1 member
      exact ⟨x, inAll, .root inside⟩
    · obtain ⟨x, inAll, outer⟩ := List.mem_flatMap.1 member
      exact ⟨x, inAll, .deeper outer inside⟩
  · rintro ⟨x, inAll, member | ⟨member, inside⟩⟩
    · exact .root (List.mem_flatMap.2 ⟨x, inAll, member⟩)
    · exact .deeper (List.mem_flatMap.2 ⟨x, inAll, member⟩) inside

theorem occurs_singleton_iff {outer outline : Outline} :
    Occurs [outer] outline ↔ outline = outer ∨ Occurs outer.children outline := by
  constructor
  · rintro (member | ⟨member, inside⟩)
    · exact .inl (List.mem_singleton.1 member)
    · exact .inr (List.mem_singleton.1 member ▸ inside)
  · rintro (rfl | inside)
    · exact .root (List.mem_singleton_self _)
    · exact .deeper (List.mem_singleton_self _) inside

theorem forestChains_append (front rest : List Outline) :
    forestChains (front ++ rest) = forestChains front ++ forestChains rest := by
  induction front with
  | nil => rw [List.nil_append, forestChains, List.nil_append]
  | cons outline front ih =>
      rw [List.cons_append, forestChains, forestChains, ih, List.append_assoc]

end Outline

namespace Document.LineIndex

theorem lineOf_mono (index : LineIndex) {first second : Nat} (le : first ≤ second) :
    index.lineOf first ≤ index.lineOf second := by
  refine Nat.sub_le_sub_right (List.countP_mono_left fun line _ starts => ?_) 1
  exact decide_eq_true (Nat.le_trans (of_decide_eq_true starts) le)

theorem lineCount_pos (source : Text) : 0 < (ofSource source).lineCount := by
  rw [lineCount, ofSource]
  cases segments : source.splitOn '\n' with
  | nil => exact absurd segments (List.splitOn_ne_nil _ _)
  | cons segment rest => cases rest <;> simp [linesFrom]

theorem lineOf_lt (source : Text) (offset : Nat) :
    (ofSource source).lineOf offset < (ofSource source).lineCount := by
  have some := lineCount_pos source
  have fewer : (ofSource source).lines.countP (fun line => line.start ≤ offset) ≤
      (ofSource source).lineCount := List.countP_le_length
  rw [lineOf]
  omega

end Document.LineIndex

namespace Extraction

open Php Document Outline Construct

/-- A construct takes up at least one byte; the constructs in it lie within its bytes, side by side in
source order, and are placed in the same way. -/
inductive IsPlaced : Construct → Prop
  | intro {construct : Construct} :
      construct.span.start < construct.span.stop →
      (∀ part ∈ construct.parts,
        construct.span.start ≤ part.span.start ∧ part.span.stop ≤ construct.span.stop) →
      construct.parts.Pairwise (fun previous next => previous.span.stop ≤ next.span.start) →
      (∀ part ∈ construct.parts, IsPlaced part) → IsPlaced construct

theorem IsPlaced.nonempty {construct : Construct} (placed : IsPlaced construct) :
    construct.span.start < construct.span.stop := by
  obtain ⟨nonempty, -⟩ := placed
  exact nonempty

theorem lineRange_of_declaration? {index : LineIndex} {construct : Construct}
    {declaration : Declaration} (makes : construct.declaration? index = some declaration) :
    declaration.startLine = (lineRange index construct.span).1 ∧
      declaration.endLine = (lineRange index construct.span).2 := by
  cases construct with
  | statement written =>
      cases written with
      | function span signature body =>
          obtain rfl := Option.some.inj makes
          exact ⟨rfl, rfl⟩
      | classLike span kind name members =>
          obtain ⟨declared, -, rfl⟩ := Option.map_eq_some_iff.1 makes
          exact ⟨rfl, rfl⟩
      | _ => cases makes
  | member written =>
      cases written with
      | other span => cases makes
      | _ =>
          obtain rfl := Option.some.inj makes
          exact ⟨rfl, rfl⟩

section Lines

variable {index : LineIndex}

theorem IsPlaced.lines {construct : Construct} (placed : IsPlaced construct)
    {declaration : Declaration} (makes : construct.declaration? index = some declaration) :
    declaration.startLine = index.lineOf construct.span.start ∧
      declaration.endLine = index.lineOf (construct.span.stop - 1) := by
  obtain ⟨start, stop⟩ := lineRange_of_declaration? makes
  have last : max construct.span.stop (construct.span.start + 1) = construct.span.stop :=
    Nat.max_eq_left placed.nonempty
  rw [lineRange, last] at stop
  exact ⟨start, stop⟩

theorem IsPlaced.added_within {construct : Construct} (placed : IsPlaced construct) :
    ∀ outline ∈ construct.added index,
      index.lineOf construct.span.start ≤ outline.declaration.startLine ∧
        outline.declaration.endLine ≤ index.lineOf (construct.span.stop - 1) := by
  induction placed with
  | @intro construct nonempty within ordered placed ih =>
      intro outline member
      rw [added_eq] at member
      split at member
      · next declaration makes =>
          obtain rfl := List.mem_singleton.1 member
          obtain ⟨start, stop⟩ := (IsPlaced.intro nonempty within ordered placed).lines makes
          exact ⟨start.ge, stop.le⟩
      · obtain ⟨part, inside, member⟩ := List.mem_flatMap.1 member
        have isPart := (outlined_sublist construct).subset inside
        obtain ⟨start, stop⟩ := ih part isPart outline member
        obtain ⟨starts, stops⟩ := within part isPart
        exact ⟨(index.lineOf_mono starts).trans start,
          stop.trans (index.lineOf_mono (Nat.sub_le_sub_right stops 1))⟩

theorem inOrder_flatMap_added {constructs : List Construct}
    (placed : ∀ construct ∈ constructs, IsPlaced construct)
    (ordered : constructs.Pairwise fun previous next => previous.span.stop ≤ next.span.start)
    (inOrder : ∀ construct ∈ constructs, InOrder (construct.added index)) :
    InOrder (constructs.flatMap (added index)) := by
  refine List.pairwise_flatMap.2 ⟨inOrder, ordered.imp_of_mem ?_⟩
  intro previous next first second apart outline member outline' member'
  have upper := ((placed previous first).added_within outline member).2
  have lower := ((placed next second).added_within outline' member').1
  exact upper.trans ((index.lineOf_mono (by omega)).trans lower)

theorem IsPlaced.inOrder {construct : Construct} (placed : IsPlaced construct) :
    InOrder (construct.added index) := by
  induction placed with
  | @intro construct nonempty within ordered placed ih =>
      rw [added_eq]
      split
      · exact List.pairwise_singleton _ _
      · have parts := outlined_sublist construct
        exact inOrder_flatMap_added (fun part inside => placed part (parts.subset inside))
          (ordered.sublist parts) fun part inside => ih part (parts.subset inside)

theorem IsPlaced.nested {construct : Construct} (placed : IsPlaced construct)
    (bounded : ∀ offset, index.lineOf offset < index.lineCount) :
    ∀ outline, Occurs (construct.added index) outline → outline.IsNested index.lineCount := by
  induction placed with
  | @intro construct nonempty within ordered placed ih =>
      intro outline occurs
      have parts := outlined_sublist construct
      have further : Occurs (construct.outlined.flatMap (added index)) outline →
          outline.IsNested index.lineCount := by
        intro occurs
        obtain ⟨part, inside, occurs⟩ := occurs_flatMap_iff.1 occurs
        exact ih part (parts.subset inside) outline occurs
      rw [added_eq] at occurs
      split at occurs
      · next declaration makes =>
          obtain rfl | occurs := occurs_singleton_iff.1 occurs
          · obtain ⟨start, stop⟩ := (IsPlaced.intro nonempty within ordered placed).lines makes
            refine ⟨?_, stop ▸ bounded _, fun child member => ?_, ?_⟩
            · exact (start.trans_le (index.lineOf_mono (by omega))).trans stop.ge
            · obtain ⟨part, inside, member⟩ := List.mem_flatMap.1 member
              have isPart := parts.subset inside
              obtain ⟨first, last⟩ := (placed part isPart).added_within child member
              obtain ⟨starts, stops⟩ := within part isPart
              exact ⟨start.trans_le ((index.lineOf_mono starts).trans first),
                (last.trans (index.lineOf_mono (Nat.sub_le_sub_right stops 1))).trans stop.ge⟩
            · exact inOrder_flatMap_added (fun part inside => placed part (parts.subset inside))
                (ordered.sublist parts) fun part inside => (placed part (parts.subset inside)).inOrder
          · exact further occurs
      · exact further occurs

end Lines

/-- The declaration at a position, at the end of the declarations around it. A position goes through
what is outlined of each construct on its way. -/
def Declares (index : LineIndex) : List Construct → List Nat → List Declaration → Prop :=
  Positions.Found outlined (fun construct => (construct.declaration? index).map ([·]))
    fun construct chain => (construct.declaration? index).toList ++ chain

/-- The declarations at all positions, in source order, are the chains of the outline. -/
theorem exists_declared (index : LineIndex) (constructs : List Construct) :
    ∃ places : List (List Nat × List Declaration),
      places.Pairwise (fun a b => a.1 < b.1) ∧
      (∀ path chain, (path, chain) ∈ places ↔ Declares index constructs path chain) ∧
      places.map Prod.snd = forestChains (constructs.flatMap (added index)) := by
  suffices ∃ places, Positions.IsListing outlined
      (fun construct => (construct.declaration? index).map ([·]))
      (fun construct chain => (construct.declaration? index).toList ++ chain) constructs places ∧
      places.map Prod.snd = forestChains (constructs.flatMap (added index)) by
    obtain ⟨places, listing, values⟩ := this
    exact ⟨places, listing.ordered, listing.mem_iff, values⟩
  induction constructs using outline_induction with
  | nil => exact ⟨[], Positions.isListing_nil, rfl⟩
  | @cons construct rest inner outer =>
      obtain ⟨held, within, valuesWithin⟩ := inner
      obtain ⟨behind, after, valuesAfter⟩ := outer
      refine ⟨_, within.gather after, ?_⟩
      rw [Positions.map_snd_gather, valuesWithin, valuesAfter, List.flatMap_cons,
        forestChains_append, added_eq]
      cases makes : construct.declaration? index with
      | none => simp
      | some declaration => simp [forestChains, chains]

/-- The outline of a program is well nested and complete. The lines of a declaration are lines of the
source, those of the declarations in it are among them, and declarations side by side follow one
another; each declaration outlined in the program stands in the outline once, below exactly the
declarations around it, in source order. -/
theorem outline_nested_and_complete (source : Text) (program : List Statement)
    (placed : ∀ statement ∈ program, IsPlaced (.statement statement))
    (ordered : (program.map Construct.statement).Pairwise fun previous next =>
      previous.span.stop ≤ next.span.start) :
    (∀ node, Occurs (outline source program) node →
      node.IsNested (LineIndex.ofSource source).lineCount) ∧
    InOrder (outline source program) ∧
    ∃ places : List (List Nat × List Declaration),
      places.Pairwise (fun a b => a.1 < b.1) ∧
      (∀ path chain, (path, chain) ∈ places ↔
        Declares (LineIndex.ofSource source) (program.map .statement) path chain) ∧
      places.map Prod.snd = forestChains (outline source program) := by
  have all : ∀ construct ∈ program.map Construct.statement, IsPlaced construct :=
    List.forall_mem_map.2 placed
  rw [outline, ofStatements_eq]
  refine ⟨fun node occurs => ?_, ?_, exists_declared _ _⟩
  · obtain ⟨construct, inside, occurs⟩ := occurs_flatMap_iff.1 occurs
    exact (all construct inside).nested (LineIndex.lineOf_lt source) node occurs
  · exact inOrder_flatMap_added all ordered fun construct inside => (all construct inside).inOrder

def mixedSource : Text :=
  ("<?php\nclass A \x7b var $p; function f() \x7b\n    if (1) \x7b function g() \x7b\x7d \x7d\n" ++
    "\x7d \x7d\nenum E \x7b function h(); \x7d\n").toList

def mixedProgram : List Statement :=
  [.classLike ⟨6, 73⟩ .classType "A".toList
      [.property ⟨16, 23⟩ "p".toList none,
        .method ⟨24, 71⟩ ⟨"f".toList, [], none⟩
          [.branches ⟨43, 69⟩ .statement []
            [[.block ⟨50, 69⟩ [.function ⟨52, 67⟩ ⟨"g".toList, [], none⟩ []]]]]],
    .classLike ⟨74, 98⟩ .enumType "E".toList [.abstractMethod ⟨83, 96⟩ ⟨"h".toList, [], none⟩]]

theorem outline_nested_and_complete_mixed :
    (∀ statement ∈ mixedProgram, IsPlaced (.statement statement)) ∧
      (mixedProgram.map Construct.statement).Pairwise (fun previous next =>
        previous.span.stop ≤ next.span.start) ∧
      InOrder (outline mixedSource mixedProgram) ∧
      (forestChains (outline mixedSource mixedProgram)).map (List.map Declaration.name) =
        [["A".toList], ["A".toList, "p".toList], ["A".toList, "f".toList],
          ["A".toList, "f".toList, "g".toList], ["h".toList]] := by
  have one : ∀ {construct}, construct.parts = [] → construct.span.start < construct.span.stop →
      IsPlaced construct := by
    intro construct none nonempty
    refine .intro nonempty ?_ ?_ ?_ <;> simp [none]
  have placed : ∀ statement ∈ mixedProgram, IsPlaced (.statement statement) := by
    refine List.forall_mem_cons.2 ⟨?_, List.forall_mem_singleton.2 ?_⟩
    · refine .intro (by decide) (by decide) (by decide) (List.forall_mem_cons.2 ⟨?_, ?_⟩)
      · exact one rfl (by decide)
      · refine List.forall_mem_singleton.2 (.intro (by decide) (by decide) (by decide) ?_)
        refine List.forall_mem_singleton.2 (.intro (by decide) (by decide) (by decide) ?_)
        refine List.forall_mem_singleton.2 (.intro (by decide) (by decide) (by decide) ?_)
        exact List.forall_mem_singleton.2 (one rfl (by decide))
    · refine .intro (by decide) (by decide) (by decide) (List.forall_mem_singleton.2 ?_)
      exact one rfl (by decide)
  have ordered : (mixedProgram.map Construct.statement).Pairwise fun previous next =>
      previous.span.stop ≤ next.span.start := by decide
  obtain ⟨-, inOrder, -⟩ := outline_nested_and_complete mixedSource mixedProgram placed ordered
  exact ⟨placed, ordered, inOrder, rfl⟩

end Extraction

end DocblockSync
