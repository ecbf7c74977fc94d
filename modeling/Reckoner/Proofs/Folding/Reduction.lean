import Reckoner.Proofs.Alike
import Reckoner.Proofs.Folding.Function
import Reckoner.Proofs.Folding.Operator
import Reckoner.Proofs.Typing.Soundness

/-! # Reduction keeps what evaluates

Reduction goes through an expression from its parts upward, so what holds of every folding rule holds
of the whole. Blocks have no meaning of their own, neither those that are dropped nor those that are put
in. An expression is covered in which no variable takes part in arithmetic and no function asks whether
its operands evaluate: wherever it has a value, its reduction has that value.
-/

namespace Reckoner

open Reckoner.Tree

namespace Tree

/-- What is alike to a reduction of an expression is a reduction of it too. -/
theorem Alike.reduces {document : Option Json} {left right original : Tree} (alike : Alike left right)
    (reduces : Reduces document right original) : Reduces document left original := by
  obtain ⟨operand, constant⟩ := reduces
  exact ⟨by rw [alike.kind, alike.outcome]; exact operand, by rw [alike.isConstant]; exact constant⟩

/-- A typed expression may stand in its own place. -/
theorem Typed.reduces {tree : Tree} (typed : tree.Typed) (document : Option Json) :
    Reduces document tree tree := by
  refine ⟨⟨.refl _, .refl _, fun value success => ?_⟩, id⟩
  have yields := typed.outcome_yields document
  dsimp only at success
  rw [success] at yields
  exact yields

end Tree

/-- The part does not ask whether its operands evaluate, and if it is a sum, a difference, a product or
a quotient, no variable stands within it. -/
def Tree.isPlain : Tree → Bool
  | .call function _ => function.kind ≠ .evaluates
  | .operation operator operands =>
    !operator.kind.isArithmetic || (Tree.operation operator operands).isConstant
  | _ => true

/-- The part asks whether its operands evaluate. -/
def Tree.asks : Tree → Bool
  | .call function _ => function.kind = .evaluates
  | .literal _ _ | .constant _ | .input _ | .operation _ _ | .block _ => false

namespace Engine

variable (engine : Engine)

/-- An operand is put in a block or left as it is. -/
theorem grouped_eq_or (parent : Operator) (isLeading : Bool) (operand : Tree) :
    engine.grouped parent isLeading operand = .block operand ∨
      engine.grouped parent isLeading operand = operand := by
  unfold grouped
  split
  · split
    · exact .inl rfl
    · exact .inr rfl
  · exact .inr rfl

/-- Blocks around operands say nothing. -/
theorem grouped_alike (parent : Operator) (isLeading : Bool) (operand : Tree) :
    Alike (engine.grouped parent isLeading operand) operand := by
  rcases engine.grouped_eq_or parent isLeading operand with block | same
  · rw [block]
    exact alike_block operand
  · rw [same]
    exact .refl operand

/-- Every operand stands in the new operation, perhaps in a block. -/
theorem regroup_eq (operator : Operator) (operands : List Tree) :
    ∃ changed, engine.regroup operator operands = .operation operator changed ∧
      List.Forall₂ (fun operand original => ∃ isLeading, operand = engine.grouped operator isLeading original)
        changed operands := by
  cases operands with
  | nil => exact ⟨[], rfl, .nil⟩
  | cons first rest =>
    exact ⟨_, rfl, .cons ⟨true, rfl⟩ (forall₂_map_self fun _ _ => ⟨false, rfl⟩)⟩

/-- Blocks around the operands of an operator say nothing. -/
theorem regroup_alike (operator : Operator) (operands : List Tree) :
    Alike (engine.regroup operator operands) (.operation operator operands) := by
  obtain ⟨changed, same, grouped⟩ := engine.regroup_eq operator operands
  rw [same]
  refine alike_operation (grouped.imp fun operand original found => ?_)
  obtain ⟨isLeading, rfl⟩ := found
  exact engine.grouped_alike operator isLeading original

theorem regroupAll_eq_map (trees : List Tree) :
    engine.regroupAll trees = trees.map engine.regroupDeep := by
  induction trees with
  | nil => rfl
  | cons tree rest ih => rw [regroupAll, ih, List.map_cons]

theorem reduceAll_eq_map (trees : List Tree) : engine.reduceAll trees = trees.map engine.reduce := by
  induction trees with
  | nil => rfl
  | cons tree rest ih => rw [reduceAll, ih, List.map_cons]

/-- Blocks that are put in change nothing else. -/
theorem regroupDeep_alike (tree : Tree) : Alike (engine.regroupDeep tree) tree := by
  induction tree with
  | literal _ _ => exact .refl _
  | constant _ => exact .refl _
  | input _ => exact .refl _
  | operation operator operands ih =>
    rw [regroupDeep, regroupAll_eq_map]
    exact (engine.regroup_alike operator _).trans (alike_operation (forall₂_map_self ih))
  | call function operands ih =>
    rw [regroupDeep, regroupAll_eq_map]
    exact alike_call (forall₂_map_self ih)
  | block inner ih =>
    rw [regroupDeep]
    exact (alike_block _).trans (ih.trans ⟨by rw [Tree.kind], fun _ => by rw [Tree.outcome],
      by rw [Tree.isConstant]⟩)

variable {engine} {document : Option Json}

/-- Folding an operator over reductions of the operands makes a reduction of the operation. -/
theorem foldOperation_reduces {operator : Operator} {reduced originals : List Tree}
    (reduces : List.Forall₂ (Reduces document) reduced originals)
    (accepted : operator.accepts originals = true)
    (constant : operator.kind.isArithmetic = true → areConstant originals = true) :
    Reduces document (engine.foldOperation operator reduced) (.operation operator originals) := by
  have whole := operation_reduces reduces accepted
  have keeps := fold?_keeps document (accepts_of_reduces reduces accepted)
    fun arithmetic => areConstant_of_reduces reduces (constant arithmetic)
  unfold foldOperation
  split
  · next result fold => exact (engine.regroupDeep_alike _).reduces ((keeps _ fold).reduces whole)
  · next folded fold => exact (engine.regroupDeep_alike _).reduces ((keeps _ fold).reduces whole)
  · exact (engine.regroup_alike operator reduced).reduces whole

/-- Folding a function over reductions of the operands makes a reduction of the call. -/
theorem foldCall_reduces {function : Function} {reduced originals : List Tree}
    (reduces : List.Forall₂ (Reduces document) reduced originals)
    (other : function.kind ≠ .evaluates) (accepted : function.accepts originals = true) :
    Reduces document (engine.foldCall function reduced) (.call function originals) := by
  unfold foldCall
  split
  · next result fold =>
    exact (engine.regroupDeep_alike _).reduces (folded_reduces reduces other accepted fold)
  · next folded fold =>
    exact (engine.regroupDeep_alike _).reduces (folded_reduces reduces other accepted fold)
  · exact call_reduces reduces other accepted

/-- A typed expression of plain parts is reduced to one that may stand in its place. -/
theorem reduce_reduces {tree : Tree} (typed : tree.Typed)
    (plain : ∀ part : Tree, part.Within tree → part.isPlain = true) :
    Reduces document (engine.reduce tree) tree := by
  induction typed with
  | literal sort => exact Typed.reduces (.literal sort) document
  | constant sort => exact Typed.reduces (.constant sort) document
  | input => exact Typed.reduces .input document
  | @operation operator operands _ accepted ih =>
    have here := plain _ .self
    rw [isPlain, isConstant] at here
    rw [reduce]
    refine foldOperation_reduces ?_ accepted fun arithmetic => by simpa [arithmetic] using here
    rw [reduceAll_eq_map]
    exact forall₂_map_self fun operand member => ih operand member fun part within =>
      plain part (within.trans (.operand member))
  | @call function operands _ accepted ih =>
    have here := plain _ .self
    rw [isPlain, decide_eq_true_eq] at here
    rw [reduce]
    refine foldCall_reduces ?_ here accepted
    rw [reduceAll_eq_map]
    exact forall₂_map_self fun operand member => ih operand member fun part within =>
      plain part (within.trans (.argument member))
  | @block inner _ ih =>
    have reduces := ih fun part within => plain part (within.trans .inside)
    rw [reduce]
    exact ⟨by rw [Tree.kind, Tree.outcome]; exact reduces.operand,
      by rw [isConstant]; exact reduces.constant⟩

/-- Reduction keeps the value of whatever is read and plain in all its parts. -/
theorem reduce_refines {text : List Char} {tree : Tree} (constants : engine.ConstantsFit)
    (read : engine.parse text = .ok tree)
    (plain : ∀ part : Tree, part.Within tree → part.isPlain = true)
    (document : Option Json) (value : Value) (success : tree.outcome document = .ok value) :
    (engine.reduce tree).outcome document = .ok value :=
  (reduce_reduces (typed_of_parse constants read) plain).operand.outcome value success

theorem reduce_refines_of_decided :
    let engine := (standard 0 ⟨Date.epoch, Time.midnight⟩).addVariable "x" ⟨40, "/x", .boolean⟩
    ∃ tree, engine.parse "x | 1 + 2 < 4".toList = .ok tree ∧
      tree.outcome (some .null) = .ok (.boolean true) ∧
      (engine.reduce tree).outcome (some .null) = .ok (.boolean true) := by
  intro engine
  have checks : (engine.parse "x | 1 + 2 < 4".toList).toOption.map (fun tree =>
      (tree.parts.all isPlain, (tree.outcome (some .null)).toOption)) =
      some (true, some (.boolean true)) := by decide +kernel
  obtain ⟨tree, read, checks⟩ := Option.map_eq_some_iff.mp checks
  obtain ⟨plain, success⟩ := Prod.mk.inj checks
  have read := Except.toOption_eq_some_iff.mp read
  have success := Except.toOption_eq_some_iff.mp success
  have constants : engine.ConstantsFit := constantsFit_standard 0 ⟨Date.epoch, Time.midnight⟩
  exact ⟨tree, read, success, reduce_refines constants read
    (fun part within => List.all_eq_true.mp plain part within.mem_parts) _ _ success⟩

end Engine

end Reckoner
