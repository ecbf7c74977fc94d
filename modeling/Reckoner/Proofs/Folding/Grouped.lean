import Reckoner.Proofs.Folding.Reduction

/-! # Blocks of reduced expressions

Reduction drops the blocks of an expression and puts back those that its operators ask for, whether a rule
applies to an operation or not. So no operation stands bare in a reduced expression where it would need a
block.
-/

namespace Reckoner

open Reckoner.Tree

namespace Engine

variable {engine : Engine} {operands : List Tree}

/-- No operation that stands directly below an operator needs a block there. -/
def Grouped (engine : Engine) : Tree → Prop
  | .operation operator operands =>
    (∀ inner others, operands.head? = some (.operation inner others) →
      engine.mustGroup operator true inner = false) ∧
    ∀ inner others, .operation inner others ∈ operands.tail → engine.mustGroup operator false inner = false
  | _ => True

/-- What is still an operation after the blocks were put in needs none. -/
theorem mustGroup_of_grouped {parent inner : Operator} {isLeading : Bool} {operand : Tree} {others : List Tree}
    (bare : engine.grouped parent isLeading operand = .operation inner others) :
    engine.mustGroup parent isLeading inner = false := by
  unfold grouped at bare
  split at bare
  · split at bare
    · cases bare
    · next needless =>
      cases bare
      exact Bool.eq_false_iff.mpr needless
  · next other => exact absurd bare (other _ _)

/-- Regrouping puts a block around each operand that needs one. -/
theorem all_grouped_regroup (operator : Operator) (parts : ∀ operand ∈ operands, All engine.Grouped operand) :
    All engine.Grouped (engine.regroup operator operands) := by
  have enclosed (isLeading : Bool) {operand : Tree} (fine : All engine.Grouped operand) :
      All engine.Grouped (engine.grouped operator isLeading operand) := by
    rcases engine.grouped_eq_or operator isLeading operand with block | same
    · rw [block]
      exact all_of_children trivial (List.forall_mem_singleton.mpr fine)
    · rw [same]
      exact fine
  cases operands with
  | nil =>
    exact all_of_children ⟨nofun, fun _ _ member => absurd member List.not_mem_nil⟩ (List.forall_mem_nil _)
  | cons first rest =>
    obtain ⟨here, others⟩ := List.forall_mem_cons.mp parts
    refine all_of_children ⟨fun _ _ same => mustGroup_of_grouped (Option.some.inj same), ?_⟩ ?_
    · intro _ _ member
      obtain ⟨_, _, same⟩ := List.mem_map.mp member
      exact mustGroup_of_grouped same
    · exact List.forall_mem_cons.mpr ⟨enclosed true here,
        List.forall_mem_map.mpr fun operand member => enclosed false (others operand member)⟩

/-- After regrouping at all depths every operand that needs a block has one. -/
theorem all_grouped_regroupDeep (tree : Tree) : All engine.Grouped (engine.regroupDeep tree) := by
  induction tree with
  | literal | constant | input =>
    rw [regroupDeep]
    exact all_of_children trivial (List.forall_mem_nil _)
  | operation operator operands ih =>
    rw [regroupDeep, regroupAll_eq_map]
    exact all_grouped_regroup operator (List.forall_mem_map.mpr ih)
  | call function operands ih =>
    rw [regroupDeep, regroupAll_eq_map]
    exact all_of_children trivial (List.forall_mem_map.mpr ih)
  | block inner ih =>
    rw [regroupDeep]
    exact all_of_children trivial (List.forall_mem_singleton.mpr ih)

/-- A reduced expression has a block around every operation that needs one. -/
theorem all_grouped_reduce (tree : Tree) : All engine.Grouped (engine.reduce tree) := by
  induction tree with
  | literal | constant | input =>
    rw [reduce]
    exact all_of_children trivial (List.forall_mem_nil _)
  | operation operator operands ih =>
    rw [reduce, reduceAll_eq_map]
    unfold foldOperation
    split
    · exact all_grouped_regroupDeep _
    · exact all_grouped_regroupDeep _
    · exact all_grouped_regroup operator (List.forall_mem_map.mpr ih)
  | call function operands ih =>
    rw [reduce, reduceAll_eq_map]
    unfold foldCall
    split
    · exact all_grouped_regroupDeep _
    · exact all_grouped_regroupDeep _
    · exact all_of_children trivial (List.forall_mem_map.mpr ih)
  | block inner ih =>
    rw [reduce]
    exact ih

end Engine

end Reckoner
