import Reckoner.Proofs.Expression

/-! # Expressions that differ in how they are written

Blocks have no meaning of their own: without them an expression has the same kind and the same outcome
for every document, and whatever accepts the one accepts the other.
-/

namespace Reckoner

/-- The expressions differ in nothing but how they are written. -/
structure Tree.Alike (left right : Tree) : Prop where
  kind : left.kind = right.kind
  outcome : ∀ document, left.outcome document = right.outcome document
  isConstant : left.isConstant = right.isConstant

namespace Tree

theorem Alike.refl (tree : Tree) : Alike tree tree := ⟨rfl, fun _ => rfl, rfl⟩

theorem Alike.symm {left right : Tree} (alike : Alike left right) : Alike right left :=
  ⟨alike.kind.symm, fun document => (alike.outcome document).symm, alike.isConstant.symm⟩

theorem Alike.trans {first second third : Tree} (upper : Alike first second)
    (lower : Alike second third) : Alike first third :=
  ⟨upper.kind.trans lower.kind, fun document => (upper.outcome document).trans (lower.outcome document),
    upper.isConstant.trans lower.isConstant⟩

/-- A block says no more than what is inside. -/
theorem alike_block (inner : Tree) : Alike (.block inner) inner :=
  ⟨by rw [Tree.kind], fun _ => by rw [Tree.outcome], by rw [Tree.isConstant]⟩

theorem kinds_of_alike {left right : List Tree} (alike : List.Forall₂ Alike left right) :
    kinds left = kinds right := by
  induction alike with
  | nil => rfl
  | cons here _ ih => rw [kinds, kinds, here.kind, ih]

theorem operandsFor_of_alike {left right : List Tree} (alike : List.Forall₂ Alike left right)
    (document : Option Json) : operandsFor document left = operandsFor document right := by
  induction alike with
  | nil => rfl
  | cons here _ ih => rw [operandsFor, operandsFor, here.kind, here.outcome, ih]

theorem areConstant_of_alike {left right : List Tree} (alike : List.Forall₂ Alike left right) :
    areConstant left = areConstant right := by
  induction alike with
  | nil => rfl
  | cons here _ ih => rw [areConstant, areConstant, here.isConstant, ih]

/-- Operations over alike operands are alike. -/
theorem alike_operation {operator : Operator} {left right : List Tree}
    (alike : List.Forall₂ Alike left right) :
    Alike (.operation operator left) (.operation operator right) :=
  ⟨by simp only [Tree.kind, kinds_of_alike alike],
    fun document => by simp only [Tree.outcome, operandsFor_of_alike alike document],
    by simp only [Tree.isConstant, areConstant_of_alike alike]⟩

theorem alike_call {function : Function} {left right : List Tree}
    (alike : List.Forall₂ Alike left right) :
    Alike (.call function left) (.call function right) :=
  ⟨by simp only [Tree.kind, kinds_of_alike alike],
    fun document => by simp only [Tree.outcome, operandsFor_of_alike alike document],
    by simp only [Tree.isConstant, areConstant_of_alike alike]⟩

/-- Alike expressions have the same literal value, or both have none. -/
theorem literalValue?_of_alike {left right : Tree} (alike : Alike left right) :
    left.literalValue? = right.literalValue? := by
  rw [literalValue?, literalValue?, alike.isConstant, alike.outcome]

end Tree

open Reckoner.Tree

theorem Operator.accepts_of_alike {operator : Operator} {left right : List Tree}
    (alike : List.Forall₂ Alike left right) : operator.accepts left = operator.accepts right := by
  rw [accepts, accepts, kinds_of_alike alike]

theorem Function.accepts_of_alike {function : Function} {left right : List Tree}
    (alike : List.Forall₂ Alike left right) : function.accepts left = function.accepts right := by
  have fallback : left.getLast?.bind literalValue? = right.getLast?.bind literalValue? := by
    induction alike with
    | nil => rfl
    | @cons here hereToo rest others head tail ih =>
      cases tail with
      | nil => exact literalValue?_of_alike head
      | cons next more => rw [List.getLast?_cons_cons, List.getLast?_cons_cons, ih]
  rw [accepts, accepts, kinds_of_alike alike, fallback]

namespace Tree

mutual

/-- The expression without any blocks. -/
def bare : Tree → Tree
  | literal kind value => literal kind value
  | constant item => constant item
  | input item => input item
  | operation operator operands => operation operator (bareAll operands)
  | call function operands => call function (bareAll operands)
  | block inner => bare inner

def bareAll : List Tree → List Tree
  | [] => []
  | tree :: rest => bare tree :: bareAll rest

end

theorem bareAll_eq_map (trees : List Tree) : bareAll trees = trees.map bare := by
  induction trees with
  | nil => rfl
  | cons tree rest ih => rw [bareAll, ih, List.map_cons]

/-- An expression is alike to itself without its blocks. -/
theorem bare_alike (tree : Tree) : Alike tree.bare tree := by
  induction tree with
  | literal _ _ => exact .refl _
  | constant _ => exact .refl _
  | input _ => exact .refl _
  | operation operator operands ih =>
    rw [bare, bareAll_eq_map]
    exact alike_operation (forall₂_map_self ih)
  | call function operands ih =>
    rw [bare, bareAll_eq_map]
    exact alike_call (forall₂_map_self ih)
  | block inner ih =>
    rw [bare]
    exact ih.trans (alike_block inner).symm

/-- Expressions that are the same without blocks are alike. -/
theorem alike_of_bare {left right : Tree} (same : left.bare = right.bare) : Alike left right :=
  left.bare_alike.symm.trans (same ▸ right.bare_alike)

end Tree

end Reckoner
