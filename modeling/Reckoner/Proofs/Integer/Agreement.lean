import Reckoner.Proofs.Folding.Reduction
import Reckoner.Proofs.Integer.Folding

/-! # Reduced integer arithmetic agrees with plain evaluation

An expression of longs and truth values and its reduction compute one exact amount between them. They
form different longs on the way, so either may overflow where the other does not; but where both have a
value it is the same, and nothing but an overflow ever fails. That no double comes in follows from what
the expression is made of.
-/

namespace Reckoner

open Reckoner.Tree

/-- The part is a long, a variable that is declared long, a block, or an operator or function that
computes with longs and truth values alone. -/
def Tree.isIntegral : Tree → Bool
  | .literal kind _ => kind == .long
  | .constant _ => false
  | .input item => item.kind == .long
  | .operation operator _ => operator.kind.isIntegral
  | .call function _ => function.kind.isIntegral
  | .block _ => true

namespace Engine

variable {engine : Engine} {document : Option Json} {amounts : List Amount} {reduced originals : List Tree}

/-- A folded operator over operands that show amounts shows the exact amount. -/
theorem foldOperation_computes {operator : Operator}
    (computes : List.Forall₂ (Computes document) amounts reduced)
    (integral : operator.kind.isIntegral = true) (accepted : operator.accepts reduced = true) :
    (engine.foldOperation operator reduced).Computes document (operator.kind.exact amounts) := by
  unfold foldOperation
  split
  · next result fold =>
    exact (engine.regroupDeep_alike _).computes
      (OperatorKind.fold?_computes computes integral accepted fold)
  · next folded fold =>
    exact (engine.regroupDeep_alike _).computes
      (OperatorKind.fold?_computes computes integral accepted fold)
  · exact (engine.regroup_alike operator reduced).computes (operation_computes computes integral accepted)

/-- A folded function over operands that show amounts shows the exact amount. -/
theorem foldCall_computes {function : Function} {fallback? : Option Value}
    (computes : List.Forall₂ (Computes document) amounts reduced)
    (integral : function.kind.isIntegral = true)
    (accepted : function.kind.accepts (kinds reduced) fallback? = true) :
    (engine.foldCall function reduced).Computes document (function.kind.exact amounts) := by
  unfold foldCall
  split
  · next result fold =>
    exact (engine.regroupDeep_alike _).computes
      (FunctionKind.fold?_computes computes integral accepted fold)
  · next folded fold =>
    exact (engine.regroupDeep_alike _).computes
      (FunctionKind.fold?_computes computes integral accepted fold)
  · exact call_computes computes integral accepted

variable (engine document) in
/-- The expression and its reduction compute one amount. -/
def Agrees (tree : Tree) : Prop :=
  ∃ amount, tree.Computes document amount ∧ (engine.reduce tree).Computes document amount

/-- Operands that agree one by one compute the same amounts as their reductions. -/
theorem exists_amounts (agree : ∀ operand ∈ originals, engine.Agrees document operand) :
    ∃ amounts, List.Forall₂ (Computes document) amounts originals ∧
      List.Forall₂ (Computes document) amounts (engine.reduceAll originals) := by
  induction originals with
  | nil => exact ⟨[], .nil, .nil⟩
  | cons operand rest ih =>
    obtain ⟨⟨amount, here, reduced⟩, others⟩ := List.forall_mem_cons.mp agree
    obtain ⟨amounts, later, laterReduced⟩ := ih others
    exact ⟨amount :: amounts, .cons here later, .cons reduced laterReduced⟩

/-- A typed expression of longs and truth values agrees with its reduction. -/
theorem agrees_of_typed {tree : Tree} (typed : tree.Typed)
    (integral : ∀ part : Tree, part.Within tree → part.isIntegral = true)
    (bound : ∀ item ∈ tree.inputs, ∃ n, item.outcome document = .ok (.long n)) :
    engine.Agrees document tree := by
  induction typed with
  | @literal kind value sort =>
    have long := integral _ .self
    rw [isIntegral, beq_iff_eq] at long
    subst long
    cases value with
    | long n => exact ⟨.number n.val, computes_literal rfl (.long n), computes_literal rfl (.long n)⟩
    | _ => cases sort
  | constant => exact absurd (integral _ .self) Bool.false_ne_true
  | @input item =>
    have long := integral _ .self
    rw [isIntegral, beq_iff_eq] at long
    obtain ⟨n, outcome⟩ := bound item (by rw [Tree.inputs]; exact List.mem_singleton_self _)
    have computes : (Tree.input item).Computes document (.number n.val) :=
      ⟨by rw [Tree.kind, long]; rfl, by rw [Tree.outcome, outcome]; exact .long n⟩
    exact ⟨_, computes, computes⟩
  | @operation operator operands _ accepted ih =>
    obtain ⟨amounts, plain, reduced⟩ := exists_amounts fun operand member => ih operand member
      (fun part within => integral part (within.trans (.operand member)))
      (fun item inside => bound item
        (by rw [Tree.inputs, mem_inputsOfAll]; exact ⟨operand, member, inside⟩))
    have here := integral _ .self
    rw [isIntegral] at here
    refine ⟨_, operation_computes plain here accepted, foldOperation_computes reduced here ?_⟩
    rwa [Operator.accepts, kinds_of_computes reduced, ← kinds_of_computes plain]
  | @call function operands _ accepted ih =>
    obtain ⟨amounts, plain, reduced⟩ := exists_amounts fun operand member => ih operand member
      (fun part within => integral part (within.trans (.argument member)))
      (fun item inside => bound item
        (by rw [Tree.inputs, mem_inputsOfAll]; exact ⟨operand, member, inside⟩))
    have here := integral _ .self
    rw [isIntegral] at here
    have whole := call_computes plain here accepted
    rw [Function.accepts, kinds_of_computes plain, ← kinds_of_computes reduced] at accepted
    exact ⟨_, whole, foldCall_computes reduced here accepted⟩
  | @block inner _ ih =>
    obtain ⟨amount, plain, reduced⟩ := ih (fun part within => integral part (within.trans .inside))
      (fun item inside => bound item (by rwa [Tree.inputs]))
    exact ⟨amount, (alike_block inner).computes plain, by rwa [reduce]⟩

/-- Whatever is read and made of longs, of variables that a document binds to longs, of blocks, and of
operators and functions on longs and truth values has no other value reduced than it has as it stands,
and fails only by an overflow. -/
theorem reduce_agrees {text : List Char} {tree : Tree} {document : Json}
    (constants : engine.ConstantsFit) (read : engine.parse text = .ok tree)
    (integral : ∀ part : Tree, part.Within tree → part.isIntegral = true)
    (bound : ∀ item ∈ tree.inputs, ∃ n, item.outcome (some document) = .ok (.long n)) :
    (∀ plain reduced, tree.outcome (some document) = .ok plain →
      (engine.reduce tree).outcome (some document) = .ok reduced → plain = reduced) ∧
    ∀ error, tree.outcome (some document) = .error error ∨
      (engine.reduce tree).outcome (some document) = .error error → error = .overflow := by
  have agrees : engine.Agrees (some document) tree :=
    agrees_of_typed (typed_of_parse constants read) integral bound
  obtain ⟨amount, here, there⟩ := agrees
  have yields := here.outcome
  have yieldsToo := there.outcome
  dsimp only at yields yieldsToo
  constructor
  · intro plain reduced success successToo
    rw [success] at yields
    rw [successToo] at yieldsToo
    exact yields.unique yieldsToo
  · rintro error (failure | failure)
    · rw [failure] at yields
      exact yields
    · rw [failure] at yieldsToo
      exact yieldsToo

theorem reduce_agrees_of_difference :
    let engine := (standard 0 ⟨Date.epoch, Time.midnight⟩).addVariable "x" ⟨40, "/x", .long⟩
    let document := some (Json.object [("x", .integer 4)])
    let difference : Long := ⟨-18, by decide, by decide⟩
    ∃ tree, engine.parse "7 - 2 * (x * 3) - 1".toList = .ok tree ∧
      tree.outcome document = .ok (.long difference) ∧
      (engine.reduce tree).outcome document = .ok (.long difference) := by
  intro engine document difference
  have checks : (engine.parse "7 - 2 * (x * 3) - 1".toList).toOption.map (fun tree =>
      (tree.parts.all isIntegral,
        tree.inputs.all fun item =>
          (item.outcome document).toOption == some (.long ⟨4, by decide, by decide⟩),
        (tree.outcome document).toOption, ((engine.reduce tree).outcome document).toOption.isSome)) =
      some (true, true, some (.long difference), true) := by decide +kernel
  obtain ⟨tree, read, checks⟩ := Option.map_eq_some_iff.mp checks
  simp only [Prod.mk.injEq, List.all_eq_true, beq_iff_eq, Except.toOption_eq_some_iff] at checks
  obtain ⟨integral, bound, success, reduces⟩ := checks
  obtain ⟨reduced, reduces⟩ := Option.isSome_iff_exists.mp reduces
  have read := Except.toOption_eq_some_iff.mp read
  have reduces := Except.toOption_eq_some_iff.mp reduces
  have constants : engine.ConstantsFit := constantsFit_standard 0 ⟨Date.epoch, Time.midnight⟩
  have agrees := reduce_agrees constants read (fun part within => integral part within.mem_parts)
    (fun item member => ⟨_, bound item member⟩)
  exact ⟨tree, read, success, agrees.1 _ _ success reduces ▸ reduces⟩

end Engine

end Reckoner
