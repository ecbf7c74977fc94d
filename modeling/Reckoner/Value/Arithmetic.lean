import Reckoner.Value.Conversion

/-! # Arithmetic of values

Sums and products of lists, in longs or in doubles. Longs are exact, and a partial result beyond
the longs is a failure even where the full result would lie within; doubles round at every step.
-/

namespace Reckoner

/-- The result of an operation on longs, which overflows when there is none. -/
def Long.orOverflow (result : Option Long) : Except EvalError Long :=
  match result with
  | some n => .ok n
  | none => .error .overflow

namespace Value

def combineLongs (combine : Long → Long → Option Long) (start : Long) (values : List Value) :
    Except EvalError Long :=
  values.foldlM (fun total value => do Long.orOverflow (combine total (← value.asLong))) start

def combineDoubles (combine : Double → Double → Double) (start : Double) (values : List Value) :
    Except EvalError Double :=
  values.foldlM (fun total value => do .ok (combine total (← value.asDouble))) start

/-- The sum of values that are not null, in longs or in doubles. -/
def sum (kind : Kind) (values : List Value) : Except EvalError Value :=
  if kind = .long then (combineLongs Long.add? 0 values).map .long
  else (combineDoubles Double.add Double.zero values).map .double

def product (kind : Kind) (values : List Value) : Except EvalError Value :=
  if kind = .long then (combineLongs Long.mul? 1 values).map .long
  else (combineDoubles Double.mul Double.one values).map .double

/-- The opposite of a number; null stays null. -/
def negate : Value → Except EvalError Value
  | .null => .ok .null
  | .long n => (Long.orOverflow n.neg?).map .long
  | value => value.asDouble.map fun x => .double x.neg

def zero (kind : Kind) : Value := if kind = .double then .double Double.zero else .long 0

end Value

end Reckoner
