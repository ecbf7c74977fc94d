import Reckoner.Operand
import Reckoner.Operator.Basic
import Reckoner.Value.Order

/-! # What operators mean

The operands an operator accepts, the kind of its result and the result itself. Connectives follow
three-valued logic and stop at the first operand that decides them. Arithmetic is computed in longs
unless an operand is declared a double, and null operands make the result null, except that a
division answers zero for an empty numerator and no number for an empty divisor.
-/

namespace Reckoner

/-- The outcome of a connective after operands that did not decide it, one of which may have been
null. An operand equal to `dominant` decides it. -/
def connectiveAfter (dominant sawNull : Bool) : List Operand → Except EvalError Value
  | [] => .ok (if sawNull then .null else .boolean (!dominant))
  | operand :: rest => do
    match ← (← operand.outcome).asTruth with
    | none => connectiveAfter dominant true rest
    | some truth =>
      if truth = dominant then .ok (.boolean dominant)
      else connectiveAfter dominant sawNull rest

/-- A disjunction if true dominates, a conjunction if false does. -/
def connective (dominant : Bool) (operands : List Operand) : Except EvalError Value :=
  connectiveAfter dominant false operands

/-- The opposite truth value; null stays null. -/
def complement (operands : List Operand) : Except EvalError Value := do
  match ← (← Operand.firstOutcome operands).asTruth with
  | some truth => .ok (.boolean (!truth))
  | none => .ok .null

def Comparison.apply (comparison : Comparison) (operands : List Operand) :
    Except EvalError Value :=
  match operands with
  | left :: right :: _ => do
    let left ← left.outcome
    let right ← right.outcome
    let ordering ← Value.orderIn (Kind.joined (Operand.kinds operands)) left right
    .ok (.boolean (comparison.holds ordering))
  | _ => .ok .null

def addOperands (operands : List Operand) : Except EvalError Value :=
  Operand.unlessNull operands (Value.sum (Kind.promoted (Operand.kinds operands)))

def multiplyOperands (operands : List Operand) : Except EvalError Value :=
  Operand.unlessNull operands (Value.product (Kind.promoted (Operand.kinds operands)))

/-- A first value less the sum of the others. -/
def Value.difference (kind : Kind) : List Value → Except EvalError Value
  | [] => .ok .null
  | first :: rest => do
    let rest ← Value.sum kind rest
    if kind = .long then
      let left ← first.asLong
      let right ← rest.asLong
      (Long.orOverflow (left.sub? right)).map .long
    else
      let left ← first.asDouble
      let right ← rest.asDouble
      .ok (.double (left.sub right))

def subtractOperands (operands : List Operand) : Except EvalError Value :=
  Operand.unlessNull operands (Value.difference (Kind.promoted (Operand.kinds operands)))

/-- The value of a divisor list: its only member or the product of its members. -/
def divisorOutcome : List Operand → Except EvalError Value
  | [single] => single.outcome
  | divisors => multiplyOperands divisors

/-- The first operand divided by the product of the others. A null or zero numerator gives zero
before the divisors are looked at, a null or zero divisor no number. -/
def divideOperands : List Operand → Except EvalError Value
  | [] => .ok .null
  | numerator :: divisors => do
    let numerator ← numerator.outcome
    if numerator.isNothing then .ok (.double Double.zero)
    else
      let divisor ← divisorOutcome divisors
      if divisor.isNothing then .ok (.double Double.nan)
      else
        let left ← numerator.asDouble
        let right ← divisor.asDouble
        .ok (.double (left.div right))

/-- The texts of the operands one after another, null as soon as one is null. -/
def concatenateAfter (done : String) : List Operand → Except EvalError Value
  | [] => .ok (.string done)
  | operand :: rest => do
    match ← (← operand.outcome).asText with
    | some text => concatenateAfter (done ++ text) rest
    | none => .ok .null

def squareOperand (operands : List Operand) : Except EvalError Value :=
  Operand.firstUnlessNull operands fun value => do
    let x ← value.asDouble
    .ok (.double (x.mul x))

/-- The opposite of the operand, a double if it is declared one. -/
def negateOperand (operands : List Operand) : Except EvalError Value := do
  let value ← Operand.firstOutcome operands
  if Kind.promoted (Operand.kinds operands) = .double ∧ value ≠ .null then
    value.asDouble.map fun x => .double x.neg
  else value.negate

namespace OperatorKind

def accepts (operator : OperatorKind) (kinds : List Kind) : Bool :=
  match operator with
  | or | and => 2 ≤ kinds.length && Kind.takesAll .boolean kinds
  | not => kinds.length == 1 && Kind.takesAll .boolean kinds
  | comparison _ => kinds.length == 2 && (Kind.joinAll? kinds).isSome
  | addition | subtraction _ _ | multiplication | division _ =>
    2 ≤ kinds.length && Kind.takesAll .double kinds
  | concatenation => 2 ≤ kinds.length && Kind.takesAll .string kinds
  | square | negation => kinds.length == 1 && Kind.takesAll .double kinds

def resultKind (operator : OperatorKind) (kinds : List Kind) : Kind :=
  match operator with
  | or | and | not | comparison _ => .boolean
  | addition | subtraction _ _ | multiplication | negation => Kind.promoted kinds
  | concatenation => .string
  | division _ | square => .double

def apply (operator : OperatorKind) (operands : List Operand) : Except EvalError Value :=
  match operator with
  | or => connective true operands
  | and => connective false operands
  | not => complement operands
  | comparison relation => relation.apply operands
  | addition => addOperands operands
  | concatenation => concatenateAfter "" operands
  | subtraction _ _ => subtractOperands operands
  | multiplication => multiplyOperands operands
  | division _ => divideOperands operands
  | square => squareOperand operands
  | negation => negateOperand operands

end OperatorKind

end Reckoner
