import Reckoner.Proofs.Outcome
import Reckoner.Tree.Evaluation

/-! # Operands found by position

Many operators and functions look for operands at fixed positions, and there might be nothing at them.
Evaluation by position ends with a value, with a failure, or at a position at which it found nothing.
With an operand at every position at which an operator or function looks, it finds them all, and its
outcome is the one that evaluation has for the list of operands.
-/

namespace Reckoner

/-- Why an evaluation by position has no value. -/
inductive Fault where
  | absent (position : Nat)
  | failed (error : EvalError)

section Finding

variable {α β : Type}

/-- An outcome for which nothing was looked for. -/
def Fault.lift (outcome : Except EvalError α) : Except Fault α := outcome.mapError .failed

/-- A chain that looks for nothing may be lifted step by step. -/
theorem Fault.bind_lift {first : Except EvalError α} {next : α → Except EvalError β}
    {nextAt : α → Except Fault β} (same : ∀ value, nextAt value = lift (next value)) :
    lift first >>= nextAt = lift (first >>= next) := by
  cases first with
  | error error => rfl
  | ok value => exact same value

def itemAt (items : List α) (position : Nat) : Except Fault α :=
  match items[position]? with
  | some item => .ok item
  | none => .error (.absent position)

/-- The items behind the first one, which has to be there. -/
def itemsBehind : List α → Except Fault (List α)
  | [] => .error (.absent 0)
  | _ :: rest => .ok rest

theorem itemAt_eq_ok {items : List α} {position : Nat} (inside : position < items.length) :
    itemAt items position = .ok items[position] := by
  rw [itemAt, List.getElem?_eq_getElem inside]

theorem itemsBehind_eq_ok {items : List α} (inside : 0 < items.length) :
    itemsBehind items = .ok (items.drop 1) := by
  obtain ⟨item, rest, rfl⟩ := List.exists_cons_of_length_pos inside
  rfl

end Finding

namespace Operand

def outcomeAt (operands : List Operand) (position : Nat) : Except Fault Value := do
  Fault.lift (← itemAt operands position).outcome

def firstAt (operands : List Operand) (compute : Value → Except EvalError Value) :
    Except Fault Value := do
  Fault.lift (compute (← outcomeAt operands 0))

/-- A result computed from the value of the first operand, or null if it is null. -/
def firstUnlessNullAt (operands : List Operand) (compute : Value → Except EvalError Value) :
    Except Fault Value :=
  firstAt operands fun
    | .null => .ok .null
    | value => compute value

/-- A result computed from the text that the first operand is, null for null. -/
def textAt (operands : List Operand) (compute : List Char → Except EvalError Value) :
    Except Fault Value :=
  firstAt operands fun value => do
    match ← value.asText with
    | some text => compute text.toList
    | none => .ok .null

variable {operands : List Operand}

/-- An operand that is there has its own outcome. -/
theorem outcomeAt_eq {position : Nat} (inside : position < operands.length) :
    outcomeAt operands position = Fault.lift operands[position].outcome := by
  rw [outcomeAt, itemAt_eq_ok inside]
  rfl

theorem firstOutcome_eq (inside : 0 < operands.length) :
    firstOutcome operands = operands[0].outcome := by
  obtain ⟨operand, rest, rfl⟩ := List.exists_cons_of_length_pos inside
  rfl

/-- What is computed of the first operand is so by position as well. -/
theorem firstAt_eq (inside : 0 < operands.length) (compute : Value → Except EvalError Value) :
    firstAt operands compute = Fault.lift (firstOutcome operands >>= compute) := by
  rw [firstAt, outcomeAt_eq inside, firstOutcome_eq inside]
  exact Fault.bind_lift fun value => rfl

end Operand

variable {operands : List Operand}

def Comparison.applyAt (comparison : Comparison) (operands : List Operand) :
    Except Fault Value := do
  let left ← Operand.outcomeAt operands 0
  let right ← Operand.outcomeAt operands 1
  let ordering ← Fault.lift (Value.orderIn (Kind.joined (Operand.kinds operands)) left right)
  .ok (.boolean (comparison.holds ordering))

theorem Comparison.apply_eq (comparison : Comparison) (inside : 1 < operands.length) :
    comparison.apply operands = (do
      let left ← operands[0].outcome
      let right ← operands[1].outcome
      let ordering ← Value.orderIn (Kind.joined (Operand.kinds operands)) left right
      .ok (.boolean (comparison.holds ordering))) := by
  match operands with
  | [] | [_] => simp only [List.length_nil, List.length_singleton] at inside; omega
  | left :: right :: rest => rfl

/-- With two operands a comparison is the same by position. -/
theorem Comparison.applyAt_eq (comparison : Comparison) (inside : 1 < operands.length) :
    comparison.applyAt operands = Fault.lift (comparison.apply operands) := by
  rw [applyAt, Operand.outcomeAt_eq inside, Operand.outcomeAt_eq (Nat.zero_lt_of_lt inside),
    apply_eq comparison inside]
  refine Fault.bind_lift fun left => Fault.bind_lift fun right => ?_
  exact Fault.bind_lift fun ordering => rfl

/-- The first value less the sum of those behind it, null if one of them is null. -/
def subtractAt (operands : List Operand) : Except Fault Value := do
  let values ← Fault.lift (Operand.values operands)
  if values.any Value.isNull then .ok .null
  else
    let first ← itemAt values 0
    let rest ← itemsBehind values
    Fault.lift (Value.difference (Kind.promoted (Operand.kinds operands)) (first :: rest))

/-- With an operand a difference is the same by position. -/
theorem subtractAt_eq (inside : 0 < operands.length) :
    subtractAt operands = Fault.lift (subtractOperands operands) := by
  obtain ⟨operand, others, rfl⟩ := List.exists_cons_of_length_pos inside
  -- the values are looked at and not the operands, so they are shown to begin with one
  have values : Operand.values (operand :: others) = (do
      let first ← operand.outcome
      let rest ← Operand.values others
      .ok (first :: rest)) := List.mapM_cons
  rw [subtractAt, subtractOperands, Operand.unlessNull, values]
  cases operand.outcome with
  | error error => rfl
  | ok first =>
    cases Operand.values others with
    | error error => rfl
    | ok rest =>
      change (if _ then _ else _) = Fault.lift (if _ then _ else _)
      split
      · rfl
      · rfl

/-- The operand at the first position divided by the product of those behind it. -/
def divideAt (operands : List Operand) : Except Fault Value := do
  let numerator ← Operand.outcomeAt operands 0
  if numerator.isNothing then .ok (.double Double.zero)
  else
    let divisor ← Fault.lift (divisorOutcome (← itemsBehind operands))
    if divisor.isNothing then .ok (.double Double.nan)
    else
      let left ← Fault.lift numerator.asDouble
      let right ← Fault.lift divisor.asDouble
      .ok (.double (left.div right))

theorem divideOperands_eq (inside : 0 < operands.length) :
    divideOperands operands = (do
      let numerator ← operands[0].outcome
      if numerator.isNothing then .ok (.double Double.zero)
      else
        let divisor ← divisorOutcome (operands.drop 1)
        if divisor.isNothing then .ok (.double Double.nan)
        else
          let left ← numerator.asDouble
          let right ← divisor.asDouble
          .ok (.double (left.div right))) := by
  obtain ⟨numerator, divisors, rfl⟩ := List.exists_cons_of_length_pos inside
  rfl

/-- With an operand a quotient is the same by position. -/
theorem divideAt_eq (inside : 0 < operands.length) :
    divideAt operands = Fault.lift (divideOperands operands) := by
  rw [divideAt, Operand.outcomeAt_eq inside, itemsBehind_eq_ok inside, divideOperands_eq inside]
  refine Fault.bind_lift fun numerator => ?_
  split
  · rfl
  · refine Fault.bind_lift fun divisor => ?_
    split
    · rfl
    · exact Fault.bind_lift fun left => Fault.bind_lift fun right => rfl

/-- The operand at the second position if the first operand is true, else the one at the third, in
the common kind of the operands behind the first. -/
def chooseAt (operands : List Operand) : Except Fault Value := do
  let truth ← Fault.lift (← Operand.outcomeAt operands 0).asTruth
  let branch ← itemAt operands (if truth = some true then 1 else 2)
  let branches ← itemsBehind operands
  let chosen ← Fault.lift branch.outcome
  Fault.lift (chosen.coerce (Kind.joined (Operand.kinds branches)))

theorem chooseOperand_eq (inside : 2 < operands.length) :
    chooseOperand operands = (do
      let truth ← (← operands[0].outcome).asTruth
      let chosen ← if truth = some true then operands[1].outcome else operands[2].outcome
      chosen.coerce (Kind.joined (Operand.kinds (operands.drop 1)))) := by
  match operands with
  | [] | [_] | [_, _] => simp only [List.length_nil, List.length_cons] at inside; omega
  | condition :: accepted :: rejected :: others => rfl

/-- With three operands a choice is the same by position. -/
theorem chooseAt_eq (inside : 2 < operands.length) :
    chooseAt operands = Fault.lift (chooseOperand operands) := by
  have first : 0 < operands.length := Nat.zero_lt_of_lt inside
  rw [chooseAt, Operand.outcomeAt_eq first, itemsBehind_eq_ok first, chooseOperand_eq inside]
  refine Fault.bind_lift fun condition => Fault.bind_lift fun truth => ?_
  split
  · rw [itemAt_eq_ok (Nat.lt_of_succ_lt inside)]
    exact Fault.bind_lift fun chosen => rfl
  · rw [itemAt_eq_ok inside]
    exact Fault.bind_lift fun chosen => rfl

namespace OperatorKind

/-- The positions at which an operator looks for operands. -/
def positions : OperatorKind → List Nat
  | comparison _ => [0, 1]
  | not | subtraction _ _ | division _ | square | negation => [0]
  | or | and | addition | concatenation | multiplication => []

/-- The outcome for these operands, each found by its position where the operator looks at one. -/
def applyAt (operator : OperatorKind) (operands : List Operand) : Except Fault Value :=
  match operator with
  | not => Operand.firstAt operands fun value => do
    match ← value.asTruth with
    | some truth => .ok (.boolean (!truth))
    | none => .ok .null
  | comparison relation => relation.applyAt operands
  | subtraction _ _ => subtractAt operands
  | division _ => divideAt operands
  | square => Operand.firstUnlessNullAt operands fun value => do
    let x ← value.asDouble
    .ok (.double (x.mul x))
  | negation => Operand.firstAt operands fun value =>
    if Kind.promoted (Operand.kinds operands) = .double ∧ value ≠ .null then
      value.asDouble.map fun x => .double x.neg
    else value.negate
  | or | and | addition | concatenation | multiplication => Fault.lift (operator.apply operands)

/-- An operator with an operand at each position at which it looks has the outcome that it has for
the list. -/
theorem applyAt_eq {operator : OperatorKind}
    (inside : ∀ position ∈ operator.positions, position < operands.length) :
    operator.applyAt operands = Fault.lift (operator.apply operands) := by
  cases operator with
  | or | and | addition | concatenation | multiplication => rfl
  | comparison relation => exact relation.applyAt_eq (inside 1 (.tail 0 (.head [])))
  | subtraction _ _ => exact subtractAt_eq (inside 0 (.head []))
  | division _ => exact divideAt_eq (inside 0 (.head []))
  -- what they compute of the first operand is the same, however it is found
  | not | square | negation => exact Operand.firstAt_eq (inside 0 (by decide)) _

end OperatorKind

namespace FunctionKind

def positions : FunctionKind → List Nat
  | conditional => [0, 1, 2]
  | noNull | evaluates | now _ | least | greatest => []
  | isNull | noZero | hexadecimal | squareRoot | kindName | absolute | round | length | upper
  | lower => [0]

/-- The kind of the result, each operand found by its position where the function looks at one. -/
def resultKindAt (function : FunctionKind) (kinds : List Kind) : Except Fault Kind :=
  match function with
  | conditional => do .ok (Kind.joined (← itemsBehind kinds))
  | noZero => itemAt kinds 0
  | _ => .ok (function.resultKind kinds)

/-- The outcome for these operands, each found by its position where the function looks at one. -/
def applyAt (function : FunctionKind) (operands : List Operand) : Except Fault Value :=
  match function with
  | conditional => chooseAt operands
  | isNull => Operand.firstAt operands fun value => .ok (.boolean value.isNull)
  | noZero => Operand.firstAt operands fun value => .ok (if value.isZero then .null else value)
  | hexadecimal => Operand.firstUnlessNullAt operands fun value => do
    .ok (.string (String.ofList ((← value.asLong).numeral 16)))
  | squareRoot => Operand.firstUnlessNullAt operands fun value => do
    .ok (.double (← value.asDouble).sqrt)
  | kindName => Operand.firstAt operands fun value => .ok (.string value.kind.name)
  | absolute => Operand.firstUnlessNullAt operands
    (absoluteValue (Kind.promoted (Operand.kinds operands)))
  | round => Operand.firstUnlessNullAt operands roundedValue
  | length => Operand.textAt operands fun text =>
    (Long.orOverflow (Long.ofInt? text.length)).map .long
  | upper => Operand.textAt operands fun text => .ok (.string (String.ofList (Text.upper text)))
  | lower => Operand.textAt operands fun text => .ok (.string (String.ofList (Text.lower text)))
  | noNull | evaluates | now _ | least | greatest => Fault.lift (function.apply operands)

variable {function : FunctionKind}

theorem resultKindAt_eq {kinds : List Kind}
    (inside : ∀ position ∈ function.positions, position < kinds.length) :
    function.resultKindAt kinds = .ok (function.resultKind kinds) := by
  cases function with
  | conditional =>
    rw [resultKindAt, itemsBehind_eq_ok (inside 0 (by decide))]
    rfl
  | noZero =>
    have first := inside 0 (by decide)
    rw [resultKindAt, itemAt_eq_ok first, resultKind, List.headD_eq_head?_getD,
      List.head?_eq_getElem?, List.getElem?_eq_getElem first]
    rfl
  | _ => rfl

/-- A function with an operand at each position at which it looks has the outcome that it has for the
list. -/
theorem applyAt_eq (inside : ∀ position ∈ function.positions, position < operands.length) :
    function.applyAt operands = Fault.lift (function.apply operands) := by
  cases function with
  | noNull | evaluates | now _ | least | greatest => rfl
  | conditional => exact chooseAt_eq (inside 2 (by decide))
  | isNull | noZero | hexadecimal | squareRoot | kindName | absolute | round | length | upper
  | lower => exact Operand.firstAt_eq (inside 0 (by decide)) _

end FunctionKind

namespace Tree

/-- The positions at which an expression looks for its parts. -/
def positions : Tree → List Nat
  | operation operator _ => operator.kind.positions
  | call function _ => function.kind.positions
  | _ => []

/-- The declared kind of an expression, its parts found by their positions. -/
def kindAt : Tree → Except Fault Kind
  | operation operator operands => .ok (operator.kind.resultKind (kinds operands))
  | call function operands => function.kind.resultKindAt (kinds operands)
  | tree => .ok tree.kind

/-- The outcome of an expression for a document, its parts found by their positions. -/
def outcomeAt (document : Option Json) : Tree → Except Fault Value
  | operation operator operands => operator.kind.applyAt (operandsFor document operands)
  | call function operands => function.kind.applyAt (operandsFor document operands)
  | tree => Fault.lift (tree.outcome document)

/-- An expression with a part at each position at which it looks has its declared kind by position. -/
theorem kindAt_eq (tree : Tree)
    (inside : ∀ position ∈ tree.positions, position < tree.children.length) :
    tree.kindAt = .ok tree.kind := by
  cases tree with
  | operation operator operands => rw [kindAt, kind]
  | call function operands =>
    rw [kindAt, kind]
    apply FunctionKind.resultKindAt_eq
    simpa only [kinds_eq_map, List.length_map, positions, children] using inside
  | literal | constant | input | block => rfl

/-- An expression with a part at each position at which it looks has its outcome by position. -/
theorem outcomeAt_eq (tree : Tree)
    (inside : ∀ position ∈ tree.positions, position < tree.children.length)
    (document : Option Json) : tree.outcomeAt document = Fault.lift (tree.outcome document) := by
  cases tree with
  | operation operator operands =>
    rw [outcomeAt, outcome]
    apply OperatorKind.applyAt_eq
    simpa only [operandsFor_eq_map, List.length_map, positions, children] using inside
  | call function operands =>
    rw [outcomeAt, outcome]
    apply FunctionKind.applyAt_eq
    simpa only [operandsFor_eq_map, List.length_map, positions, children] using inside
  | literal | constant | input | block => rfl

end Tree

end Reckoner
