import Reckoner.Tree.Basic

/-! # Failures of formatting

Why an expression has no text: something in it goes by no registered name, or a literal cannot be
written in the form that its kind has.
-/

namespace Reckoner

/-- The cause of a failed formatting. -/
inductive FormatError where
  | unnamedConstant (item : Constant)
  | unnamedVariable (item : Variable)
  | unnamedOperator (item : Operator)
  | unnamedFunction (item : Function)
  | unwritable (kind : Kind)

namespace FormatError

def message : FormatError → String
  | unnamedConstant item => "Unregistered constant: " ++ item.shown
  | unnamedVariable item => "Unregistered variable: " ++ item.shown
  | unnamedOperator item => "Unregistered operator: " ++ item.kind.shown
  | unnamedFunction item => "Unregistered function: " ++ item.kind.shown
  | unwritable kind => "Cannot format " ++ kind.name ++ " literal"

end FormatError

end Reckoner
