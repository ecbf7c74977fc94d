import Reckoner.Function.Basic
import Reckoner.Number.Numeral
import Reckoner.Operand
import Reckoner.Text.Case
import Reckoner.Value.Order

/-! # What functions mean

The operands a function accepts, the kind of its result and the result itself. A conditional and a
search for the first value that is not null coerce what they choose to the common kind of the
candidates, so that the kind of the result does not depend on the choice.
-/

namespace Reckoner

/-- The chosen one of two branches, in their common kind. A null condition chooses the second. -/
def chooseOperand : List Operand → Except EvalError Value
  | condition :: accepted :: rejected :: others => do
    let truth ← (← condition.outcome).asTruth
    let chosen ← if truth = some true then accepted.outcome else rejected.outcome
    chosen.coerce (Kind.joined (Operand.kinds (accepted :: rejected :: others)))
  | _ => .ok .null

/-- The first value that is not null, in the kind `kind`. -/
def firstValue (kind : Kind) : List Operand → Except EvalError Value
  | [] => .ok .null
  | operand :: rest => do
    let value ← operand.outcome
    if value.isNull then firstValue kind rest else value.coerce kind

def absoluteValue (kind : Kind) (value : Value) : Except EvalError Value := do
  if kind = .long then (Long.orOverflow (← value.asLong).abs?).map .long
  else .ok (.double (← value.asDouble).abs)

/-- The long nearest to a number. -/
def roundedValue : Value → Except EvalError Value
  | .long n => .ok (.long n)
  | value => do
    let x ← value.asDouble
    match x.round? with
    | some n => .ok (.long n)
    | none => .error (.unroundable x)

/-- The value among `best` and the given ones that is first to stand in the order `wanted` to all
before it. A null among them is the answer. -/
def extremeAfter (wanted : Ordering) (kind : Kind) (best : Option Value) :
    List Value → Except EvalError Value
  | [] => .ok (best.getD .null)
  | value :: rest => do
    if value.isNull then .ok .null
    else
      let value ← value.coerce kind
      match best with
      | none => extremeAfter wanted kind (some value) rest
      | some current =>
        if (← Value.orderIn kind value current) = wanted then
          extremeAfter wanted kind (some value) rest
        else extremeAfter wanted kind (some current) rest

def extremeOperand (wanted : Ordering) (operands : List Operand) : Except EvalError Value := do
  extremeAfter wanted (Kind.promoted (Operand.kinds operands)) none (← Operand.values operands)

/-- A result computed from a text, null for null. -/
def ofText (operands : List Operand) (compute : List Char → Except EvalError Value) :
    Except EvalError Value := do
  match ← (← Operand.firstOutcome operands).asText with
  | some text => compute text.toList
  | none => .ok .null

/-- The operand evaluates. -/
def Operand.isKnown (operand : Operand) : Bool :=
  match operand.outcome with
  | .ok _ => true
  | .error _ => false

namespace FunctionKind

/-- The function applies to operands of these kinds, of which the last evaluates to `fallback?`
without any document, if it can. -/
def accepts (function : FunctionKind) (kinds : List Kind) (fallback? : Option Value) : Bool :=
  match function with
  | conditional =>
    kinds.length == 3 && Kind.takesAll .boolean (kinds.take 1) &&
      (Kind.joinAll? (kinds.drop 1)).isSome
  | isNull | kindName => kinds.length == 1
  | noNull =>
    fallback?.any (!·.isNull) && Kind.compatibleAll kinds && (Kind.joinAll? kinds).isSome
  | noZero | squareRoot | absolute | round => kinds.length == 1 && Kind.takesAll .double kinds
  | hexadecimal => kinds.length == 1 && Kind.takesAll .long kinds
  | evaluates => !kinds.isEmpty
  | now _ => kinds.isEmpty
  | least | greatest => !kinds.isEmpty && Kind.takesAll .double kinds
  | length | upper | lower => kinds.length == 1 && Kind.takesAll .string kinds

def resultKind (function : FunctionKind) (kinds : List Kind) : Kind :=
  match function with
  | conditional => Kind.joined (kinds.drop 1)
  | isNull | evaluates => .boolean
  | noNull => Kind.joined kinds
  | noZero => kinds.headD .null
  | hexadecimal | kindName | upper | lower => .string
  | squareRoot => .double
  | now _ => .dateTime
  | absolute | least | greatest => Kind.promoted kinds
  | round | length => .long

def apply (function : FunctionKind) (operands : List Operand) : Except EvalError Value :=
  match function with
  | conditional => chooseOperand operands
  | isNull => do .ok (.boolean (← Operand.firstOutcome operands).isNull)
  | noNull => firstValue (Kind.joined (Operand.kinds operands)) operands
  | noZero => do
    let value ← Operand.firstOutcome operands
    .ok (if value.isZero then .null else value)
  | hexadecimal => Operand.firstUnlessNull operands fun value => do
    .ok (.string (String.ofList ((← value.asLong).numeral 16)))
  | squareRoot => Operand.firstUnlessNull operands fun value => do
    .ok (.double (← value.asDouble).sqrt)
  | kindName => do .ok (.string (← Operand.firstOutcome operands).kind.name)
  | evaluates => .ok (.boolean (operands.all Operand.isKnown))
  | now instant => .ok (.dateTime instant)
  | absolute => Operand.firstUnlessNull operands
    (absoluteValue (Kind.promoted (Operand.kinds operands)))
  | round => Operand.firstUnlessNull operands roundedValue
  | least => extremeOperand .lt operands
  | greatest => extremeOperand .gt operands
  | length => ofText operands fun text => (Long.orOverflow (Long.ofInt? text.length)).map .long
  | upper => ofText operands fun text => .ok (.string (String.ofList (Text.upper text)))
  | lower => ofText operands fun text => .ok (.string (String.ofList (Text.lower text)))

end FunctionKind

end Reckoner
