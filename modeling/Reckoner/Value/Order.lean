import Reckoner.Value.Conversion

/-! # Order of values

Values of one kind have the natural order of that kind; across kinds the kinds decide. Two operands
are compared in their common kind, with null below everything else.
-/

namespace Reckoner

namespace Value

/-- The place of a value's kind among the kinds. -/
def rank : Value → Nat
  | null => 0
  | boolean _ => 1
  | long _ => 2
  | double _ => 3
  | date _ => 4
  | time _ => 5
  | dateTime _ => 6
  | string _ => 7

def order : Value → Value → Ordering
  | boolean left, boolean right => compare left right
  | long left, long right => compare left.val right.val
  | double left, double right => left.order right
  | date left, date right => left.order right
  | time left, time right => left.order right
  | dateTime left, dateTime right => left.order right
  | string left, string right => compare left right
  | left, right => compare left.rank right.rank

def orderIn (kind : Kind) (left right : Value) : Except EvalError Ordering :=
  match left, right with
  | .null, .null => .ok .eq
  | .null, _ => .ok .lt
  | _, .null => .ok .gt
  | left, right => do .ok ((← left.coerce kind).order (← right.coerce kind))

end Value

end Reckoner
