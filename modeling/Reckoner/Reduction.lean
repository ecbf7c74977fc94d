import Reckoner.Engine.Basic
import Reckoner.Folding.Function
import Reckoner.Folding.Operator

/-! # Reduction

An expression is reduced from its parts upward: every operator and function folds what it can of its
reduced operands. Blocks are dropped and put back only where the expression, once written, would
otherwise be read differently: around operators that bind looser than the one above them, and around
operators that share its token, except for the same operator in the leading place.
-/

namespace Reckoner

namespace Engine

/-- The operation `child` cannot stand bare among the operands of `parent`, in the leading place or
behind it. -/
def mustGroup (engine : Engine) (parent : Operator) (isLeading : Bool) (child : Operator) : Bool :=
  match engine.positionOf? parent, engine.positionOf? child with
  | some outer, some inner =>
    inner < outer ||
      (engine.tokenOf? child == engine.tokenOf? parent && !(inner == outer && isLeading))
  | _, _ => false

/-- An operand, in a block if it is an operation that cannot stand bare. -/
def grouped (engine : Engine) (parent : Operator) (isLeading : Bool) (operand : Tree) : Tree :=
  match operand with
  | .operation child operands =>
    if engine.mustGroup parent isLeading child then .block (.operation child operands)
    else .operation child operands
  | operand => operand

/-- An operator over its operands, each in a block where it needs one. -/
def regroup (engine : Engine) (operator : Operator) (operands : List Tree) : Tree :=
  match operands with
  | [] => .operation operator []
  | first :: rest =>
    .operation operator
      (engine.grouped operator true first :: rest.map (engine.grouped operator false))

mutual

/-- The expression with blocks around all operands that need one. -/
def regroupDeep (engine : Engine) : Tree → Tree
  | .operation operator operands => engine.regroup operator (regroupAll engine operands)
  | .call function operands => .call function (regroupAll engine operands)
  | .block inner => .block (regroupDeep engine inner)
  | .literal kind value => .literal kind value
  | .constant item => .constant item
  | .input item => .input item

def regroupAll (engine : Engine) : List Tree → List Tree
  | [] => []
  | tree :: rest => regroupDeep engine tree :: regroupAll engine rest

end

/-- What an operator over reduced operands becomes. -/
def foldOperation (engine : Engine) (operator : Operator) (operands : List Tree) : Tree :=
  match operator.kind.fold? operands with
  | some (.tree result) => engine.regroupDeep result
  | some (.operands folded) => engine.regroupDeep (.operation operator folded)
  | none => engine.regroup operator operands

/-- What a function over reduced operands becomes. -/
def foldCall (engine : Engine) (function : Function) (operands : List Tree) : Tree :=
  match function.kind.fold? operands with
  | some (.tree result) => engine.regroupDeep result
  | some (.operands folded) => engine.regroupDeep (.call function folded)
  | none => .call function operands

mutual

def reduce (engine : Engine) : Tree → Tree
  | .operation operator operands => engine.foldOperation operator (reduceAll engine operands)
  | .call function operands => engine.foldCall function (reduceAll engine operands)
  | .block inner => reduce engine inner
  | .literal kind value => .literal kind value
  | .constant item => .constant item
  | .input item => .input item

def reduceAll (engine : Engine) : List Tree → List Tree
  | [] => []
  | tree :: rest => reduce engine tree :: reduceAll engine rest

end

end Engine

end Reckoner
