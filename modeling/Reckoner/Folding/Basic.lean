import Reckoner.Tree.Evaluation

/-! # Folding

What an operator or function can make of its operands before a document is known: another
expression in its place, or the same operator or function over other operands. An evaluation that
fails folds nothing, so that the failure is still there when the expression is evaluated.
-/

namespace Reckoner

/-- The outcome of folding an operator or function over its operands. -/
inductive Folded where
  /-- This expression takes the place of the whole. -/
  | tree (result : Tree)
  /-- These operands take the place of the operands. -/
  | operands (operands : List Tree)

namespace Folded

/-- A literal takes the place of the whole. -/
def literal (kind : Kind) (value : Value) : Folded := .tree (.literal kind value)

/-- The expression that an operator over `operands` becomes. -/
def applied (operator : Operator) (operands : List Tree) : Option Folded → Tree
  | some (.tree result) => result
  | some (.operands operands) => .operation operator operands
  | none => .operation operator operands

end Folded

namespace Tree

/-- The operands as they evaluate without a document. -/
def known (operands : List Tree) : List Operand := operandsFor none operands

end Tree

/-- The value of constant operands takes the place of the whole. -/
def foldConstant? (kind : Kind) (apply : List Operand → Except EvalError Value)
    (operands : List Tree) : Option Folded :=
  if Tree.areConstant operands then
    (apply (Tree.known operands)).toOption.map (Folded.literal kind)
  else none

/-- The value of a single operand that is a literal takes the place of the whole. -/
def foldLiteral? (kind : Kind) (apply : List Operand → Except EvalError Value)
    (operands : List Tree) : Option Folded :=
  match operands with
  | [.literal _ _] => foldConstant? kind apply operands
  | _ => none

end Reckoner
