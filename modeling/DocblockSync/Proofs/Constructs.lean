import DocblockSync.Extraction
import DocblockSync.Proofs.ScopePositions

/-! Statements and members seen alike. What a construct adds to an outline is the declaration that it
makes, if any, around what the constructs in it add; of an enum only the methods are outlined. -/

namespace DocblockSync.Extraction

open Php Document

inductive Construct where
  | statement (statement : Statement)
  | member (member : Member)

namespace Construct

def span : Construct → Span
  | .statement (.block span _) => span
  | .statement (.branches span _ _ _) => span
  | .statement (.loop span _ _ _ _) => span
  | .statement (.doWhile span _ _) => span
  | .statement (.switch span _ _ _) => span
  | .statement (.tryCatch span _ _ _) => span
  | .statement (.namespaced span _) => span
  | .statement (.function span _ _) => span
  | .statement (.classLike span _ _ _) => span
  | .statement (.returning span _) => span
  | .statement (.expression span _) => span
  | .statement (.other span _) => span
  | .member (.method span _ _) => span
  | .member (.abstractMethod span _) => span
  | .member (.property span _ _) => span
  | .member (.other span) => span

/-- The constructs directly in a construct: what a control structure or a function holds, and the
members of a class. -/
def parts : Construct → List Construct
  | .statement (.function _ _ body) => body.map .statement
  | .statement (.classLike _ _ _ members) => members.map .member
  | .statement other => ((Scope.held? other).getD []).map .statement
  | .member (.method _ _ body) => body.map .statement
  | .member _ => []

def isMethod : Construct → Bool
  | .member (.method ..) | .member (.abstractMethod ..) => true
  | _ => false

/-- The parts that are outlined: all of them, but of an enum its methods only. -/
def outlined : Construct → List Construct
  | .statement (.classLike span .enumType name members) =>
      (parts (.statement (.classLike span .enumType name members))).filter isMethod
  | construct => construct.parts

def declaration? (index : LineIndex) : Construct → Option Declaration
  | .statement (.function span signature body) =>
      some (functionDeclaration index .function span signature body)
  | .statement (.classLike span kind name _) =>
      (classDeclarationKind? kind).map fun declared => classDeclaration index declared span name
  | .statement _ => none
  | .member (.method span signature body) =>
      some (functionDeclaration index .method span signature body)
  | .member (.abstractMethod span signature) =>
      some (signatureDeclaration index .method span signature)
  | .member (.property span name typeHint) => some (propertyDeclaration index span name typeHint)
  | .member (.other _) => none

def added (index : LineIndex) : Construct → List Outline
  | .statement written => ofStatement index written
  | .member written => ofMember index written

theorem outlined_sublist (construct : Construct) : construct.outlined.Sublist construct.parts := by
  unfold outlined
  split
  · exact List.filter_sublist
  · exact List.Sublist.refl _

noncomputable def weight : Construct → Nat
  | .statement written => sizeOf written
  | .member written => sizeOf written

noncomputable def load : List Construct → Nat
  | [] => 0
  | construct :: rest => construct.weight + 1 + load rest

theorem load_le_of_sublist {few many : List Construct} (part : few.Sublist many) :
    load few ≤ load many := by
  induction part with
  | slnil => exact Nat.le_refl _
  | cons construct _ ih => rw [load]; omega
  | cons_cons construct _ ih => rw [load, load]; omega

theorem load_map {α : Type} [SizeOf α] {make : α → Construct}
    (same : ∀ written, (make written).weight = sizeOf written) (all : List α) :
    load (all.map make) + 1 = sizeOf all := by
  induction all with
  | nil => rfl
  | cons written rest ih =>
      rw [List.cons.sizeOf_spec, ← ih, ← same, List.map_cons, load]
      omega

theorem weight_pos (construct : Construct) : 0 < construct.weight := by
  rcases construct with written | written <;> cases written <;> simp [weight, Nat.pos_iff_ne_zero]

theorem load_parts_lt (construct : Construct) : load construct.parts < construct.weight := by
  cases construct with
  | statement written =>
      cases written with
      | function span signature body =>
          have size : load (body.map .statement) + 1 = sizeOf body := load_map (fun _ => rfl) body
          simp only [parts, weight, Statement.function.sizeOf_spec]
          omega
      | classLike span kind name members =>
          have size : load (members.map .member) + 1 = sizeOf members :=
            load_map (fun _ => rfl) members
          simp only [parts, weight, Statement.classLike.sizeOf_spec]
          omega
      | _ =>
          simp only [parts]
          cases holds : Scope.held? _ with
          | none => exact weight_pos _
          | some body =>
              have size : load (body.map .statement) + 1 = sizeOf body := load_map (fun _ => rfl) body
              have smaller := Scope.sizeOf_held? holds
              simp only [Option.getD_some, weight]
              omega
  | member written =>
      cases written with
      | method span signature body =>
          have size : load (body.map .statement) + 1 = sizeOf body := load_map (fun _ => rfl) body
          simp only [parts, weight, Member.method.sizeOf_spec]
          omega
      | _ => exact weight_pos _

/-- Induction over constructs: along a list, and into what is outlined of each. -/
theorem outline_induction {motive : List Construct → Prop} (nil : motive [])
    (cons : ∀ {construct rest}, motive construct.outlined → motive rest →
      motive (construct :: rest))
    (constructs : List Construct) : motive constructs := by
  induction size : load constructs using Nat.strongRecOn generalizing constructs with
  | _ n ih =>
      cases constructs with
      | nil => exact nil
      | cons construct rest =>
          have smaller := load_parts_lt construct
          have fewer : load construct.outlined ≤ load construct.parts :=
            load_le_of_sublist (outlined_sublist construct)
          rw [load] at size
          exact cons (ih _ (by omega) construct.outlined rfl) (ih _ (by omega) rest rfl)

end Construct

open Construct

theorem ofStatements_eq (index : LineIndex) (statements : List Statement) :
    ofStatements index statements = (statements.map .statement).flatMap (added index) := by
  induction statements with
  | nil => rw [ofStatements, List.map_nil, List.flatMap_nil]
  | cons statement rest ih => rw [ofStatements, ih, List.map_cons, List.flatMap_cons]; rfl

theorem ofParts_eq (index : LineIndex) (parts : List (List Statement)) :
    ofParts index parts = ofStatements index parts.flatten := by
  induction parts with
  | nil => rw [ofParts, List.flatten_nil, ofStatements]
  | cons part parts ih =>
      rw [ofParts, ih, List.flatten_cons, ofStatements_eq, ofStatements_eq, ofStatements_eq,
        List.map_append, List.flatMap_append]

theorem ofMembers_eq (index : LineIndex) (members : List Member) :
    ofMembers index members = (members.map .member).flatMap (added index) := by
  induction members with
  | nil => rw [ofMembers, List.map_nil, List.flatMap_nil]
  | cons member rest ih => rw [ofMembers, ih, List.map_cons, List.flatMap_cons]; rfl

theorem filter_ofMembers (index : LineIndex) (members : List Member) :
    (ofMembers index members).filter Extraction.isMethod =
      ((members.map Construct.member).filter Construct.isMethod).flatMap (added index) := by
  induction members with
  | nil => rw [ofMembers]; rfl
  | cons member rest ih =>
      have one : (ofMember index member).filter Extraction.isMethod =
          if (Construct.member member).isMethod then ofMember index member else [] := by
        cases member <;> rw [ofMember] <;> rfl
      rw [ofMembers, List.filter_append, ih, one, List.map_cons, List.filter_cons]
      split
      · rw [List.flatMap_cons]
        rfl
      · rfl

theorem added_eq (index : LineIndex) (construct : Construct) :
    construct.added index =
      match construct.declaration? index with
      | some declaration => [.node declaration (construct.outlined.flatMap (added index))]
      | none => construct.outlined.flatMap (added index) := by
  cases construct with
  | statement statement =>
      cases statement with
      | classLike span kind name members =>
          rw [added, ofStatement]
          cases kind with
          | enumType => exact filter_ofMembers index members
          | _ => rw [ofMembers_eq]; rfl
      | branches span delimiters heads parts => rw [added, ofStatement, ofParts_eq, ofStatements_eq]; rfl
      | switch span delimiters heads cases => rw [added, ofStatement, ofParts_eq, ofStatements_eq]; rfl
      | tryCatch span body handlers cleanup =>
          have held : (Construct.statement (.tryCatch span body handlers cleanup)).outlined =
              (body ++ handlers.flatten ++ cleanup).map Construct.statement := rfl
          rw [added, ofStatement, ofParts_eq, ofStatements_eq, ofStatements_eq, ofStatements_eq, held,
            List.map_append, List.map_append, List.flatMap_append, List.flatMap_append]
          rfl
      | returning | expression | other => rw [added, ofStatement]; rfl
      | _ => rw [added, ofStatement, ofStatements_eq]; rfl
  | member member =>
      cases member with
      | method span signature body => rw [added, ofMember, ofStatements_eq]; rfl
      | _ => rw [added, ofMember]; rfl

end DocblockSync.Extraction
