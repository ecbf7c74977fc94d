import Reckoner.Kind

/-! # Operators

What operators there are and how they are written: between their operands, in front of one operand
or behind it. An operator is an object of its own; two registrations of the same kind are different
operators unless they carry the same tag.
-/

namespace Reckoner

/-- The identity of a registered object. -/
abbrev Tag := Nat

/-- The six comparisons. -/
inductive Comparison where
  | equal
  | notEqual
  | less
  | lessOrEqual
  | greater
  | greaterOrEqual
deriving DecidableEq

namespace Comparison

def holds : Comparison → Ordering → Bool
  | equal, ordering => ordering == .eq
  | notEqual, ordering => ordering != .eq
  | less, ordering => ordering == .lt
  | lessOrEqual, ordering => ordering != .gt
  | greater, ordering => ordering == .gt
  | greaterOrEqual, ordering => ordering != .lt

def name : Comparison → String
  | equal => "Equal"
  | notEqual => "NotEqual"
  | less => "Less"
  | lessOrEqual => "LessOrEqual"
  | greater => "Greater"
  | greaterOrEqual => "GreaterOrEqual"

end Comparison

/-- What an operator does. A subtraction knows the addition and the negation by which it folds, a
division the multiplication that combines its divisors. -/
inductive OperatorKind where
  | or
  | and
  | not
  | comparison (relation : Comparison)
  | addition
  | concatenation
  | subtraction (addition negation : Tag)
  | multiplication
  | division (multiplication : Tag)
  | square
  | negation
deriving DecidableEq

namespace OperatorKind

def isUnary : OperatorKind → Bool
  | not | square | negation => true
  | _ => false

/-- The operator is written behind its operand. -/
def isSuffix : OperatorKind → Bool
  | square => true
  | _ => false

def shown : OperatorKind → String
  | or => "Or"
  | and => "And"
  | not => "Not"
  | comparison relation => "Comparison \x7b comparator: " ++ relation.name ++ " \x7d"
  | addition => "Addition"
  | concatenation => "Concatenation"
  | subtraction _ _ => "Subtraction \x7b addition: Addition, negation: Negation \x7d"
  | multiplication => "Multiplication"
  | division _ => "Division \x7b multiplication: Multiplication \x7d"
  | square => "Square"
  | negation => "Negation"

end OperatorKind

structure Operator where
  tag : Tag
  kind : OperatorKind
deriving DecidableEq

end Reckoner
