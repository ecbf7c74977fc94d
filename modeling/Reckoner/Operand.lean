import Reckoner.Value.Arithmetic

/-! # Operands

What an operator or function is given of each operand: the kind it is declared to have and the
outcome of evaluating it. An outcome that is never looked at has no influence, so a failure in an
operand that is skipped goes unnoticed.
-/

namespace Reckoner

/-- An operand as an operator or function sees it. -/
structure Operand where
  kind : Kind
  outcome : Except EvalError Value

namespace Operand

def kinds (operands : List Operand) : List Kind := operands.map kind

/-- The values of all operands, or the failure of the first one that fails. -/
def values (operands : List Operand) : Except EvalError (List Value) := operands.mapM outcome

def firstOutcome : List Operand → Except EvalError Value
  | [] => .ok .null
  | operand :: _ => operand.outcome

/-- A result computed from the values of all operands, or null if one of them is null. -/
def unlessNull (operands : List Operand) (compute : List Value → Except EvalError Value) :
    Except EvalError Value := do
  let values ← values operands
  if values.any Value.isNull then .ok .null else compute values

/-- A result computed from the value of the first operand, or null if it is null. -/
def firstUnlessNull (operands : List Operand) (compute : Value → Except EvalError Value) :
    Except EvalError Value := do
  match ← firstOutcome operands with
  | .null => .ok .null
  | value => compute value

end Operand

end Reckoner
