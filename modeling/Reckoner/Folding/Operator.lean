import Reckoner.Folding.Basic

/-! # Folding of operators

A sum collects its constant terms in the place of the first one, a difference becomes a sum of
opposites, a product collects its constant factors in front and vanishes with a zero among them, a
quotient folds its divisors into one product, and a concatenation joins neighbouring constants.
Whatever is not constant keeps its order.
-/

namespace Reckoner

/-- A connective with a literal operand that decides it has that value. -/
def foldConnective? (dominant : Bool) (operands : List Tree) : Option Folded :=
  (foldConstant? .boolean (connective dominant) operands).or
    (if operands.any fun operand => operand.literalValue? == some (.boolean dominant) then
      some (.literal .boolean (.boolean dominant))
    else none)

/-- `term` in place of the first operand with a literal value, and no other such operand. -/
def collectAt (term : Tree) : List Tree → List Tree
  | [] => []
  | operand :: rest =>
    if operand.literalValue?.isSome then term :: rest.filter fun other => other.literalValue?.isNone
    else operand :: collectAt term rest

/-- Two or more constant terms of a sum are collected, and a null one makes the sum null if no
constant term fails. A constant term that fails keeps its place. -/
def foldAddition? (operands : List Tree) : Option Folded :=
  let kind := Kind.promoted (Tree.kinds operands)
  (foldConstant? kind addOperands operands).or (
    let constants := operands.filter fun operand => operand.literalValue?.isSome
    let values := operands.filterMap Tree.literalValue?
    let noneFails := operands.all fun operand => !operand.isConstant || operand.literalValue?.isSome
    if noneFails && values.any Value.isNull then some (.literal kind .null)
    else if constants.length < 2 then none
    else
      let termKind := Kind.promoted (Tree.kinds constants)
      (Value.sum termKind values).toOption.map fun term =>
        .operands (collectAt (.literal termKind term) operands))

/-- The opposite of a term: of its value if it has one, else by the operator `negation`. -/
def opposite? (negation : Tag) (term : Tree) : Option Tree :=
  match term.literalValue? with
  | some value => value.negate.toOption.map (Tree.literal term.kind)
  | none => some (.operation ⟨negation, .negation⟩ [term])

/-- A difference with a constant term behind the first becomes the sum of the first term and the
opposites of the others. -/
def foldSubtraction? (addition negation : Tag) (operands : List Tree) : Option Folded :=
  (foldConstant? (Kind.promoted (Tree.kinds operands)) subtractOperands operands).or
    (match operands with
    | [] => none
    | first :: rest =>
      if rest.any Tree.isConstant then do
        let terms := first :: (← rest.mapM (opposite? negation))
        some (.tree (Folded.applied ⟨addition, .addition⟩ terms (foldAddition? terms)))
      else none)

/-- The value of the first constant factor that is null or zero. -/
def annihilator? (kind : Kind) (factors : List Tree) : Option Value :=
  (factors.filterMap Tree.literalValue?).findSome? fun value =>
    if value.isZero then some (Value.zero kind) else if value.isNull then some .null else none

/-- The constant factors of a product are collected in front of the others. A factor of one is left
out unless the product would no longer be a double without it. -/
def foldMultiplication? (operands : List Tree) : Option Folded :=
  let kind := Kind.promoted (Tree.kinds operands)
  (foldConstant? kind multiplyOperands operands).or (
    match annihilator? kind operands with
    | some value => some (.literal kind value)
    | none => do
      let constants := operands.filter fun operand => operand.literalValue?.isSome
      let others := operands.filter fun operand => operand.literalValue?.isNone
      if constants.isEmpty then none
      else
        let factorKind := Kind.promoted (Tree.kinds constants)
        let factor ← (Value.product factorKind (operands.filterMap Tree.literalValue?)).toOption
        let widens := factorKind == .double && Kind.promoted (Tree.kinds others) == .long
        let kept := !factor.isOne || widens
        if constants.length == 1 && kept then none
        else match if kept then .literal factorKind factor :: others else others with
          | [single] => some (.tree single)
          | factors => some (.operands factors))

/-- The divisors as one expression: the only one, or their folded product. -/
def divisor (multiplication : Tag) : List Tree → Tree
  | [single] => single
  | divisors =>
    Folded.applied ⟨multiplication, .multiplication⟩ divisors (foldMultiplication? divisors)

/-- A constant divisor that fails, is null or is zero. -/
def divisorIsVoid (divisor : Tree) : Bool :=
  divisor.isConstant && (divisor.literalValue?.all Value.isNothing)

/-- A constant numerator that is null or zero makes the quotient zero, a void divisor makes it no
number, and three or more operands become a numerator and a product. -/
def foldDivision? (multiplication : Tag) (operands : List Tree) : Option Folded :=
  match operands with
  | [] => none
  | numerator :: divisors =>
    if numerator.literalValue?.any Value.isNothing then
      some (.literal .double (.double Double.zero))
    else
      let product := divisor multiplication divisors
      if divisorIsVoid product then some (.literal .double (.double Double.nan))
      else
        (foldConstant? .double divideOperands [numerator, product]).or
          (if operands.length == 2 then none else some (.operands [numerator, product]))

/-- A run of joined texts as a literal, if there is one. -/
def joinedRun : Option String → List Tree
  | some text => [.ofValue (.string text)]
  | none => []

/-- Neighbouring constant operands joined, with `run` joined so far; or the null that makes the
whole null; or nothing if an operand turns out to be no text. -/
def joinRuns? (run : Option String) : List Tree → Option (Option (List Tree))
  | [] => some (some (joinedRun run))
  | operand :: rest =>
    match operand.literalValue? with
    | some value => match value.asText with
      | .ok (some text) => joinRuns? (some (run.getD "" ++ text)) rest
      | .ok none => some none
      | .error _ => none
    | none => (joinRuns? none rest).map fun joined =>
      joined.map fun joined => joinedRun run ++ operand :: joined

/-- Neighbouring constants of a concatenation are joined. -/
def foldConcatenation? (operands : List Tree) : Option Folded :=
  match joinRuns? none operands with
  | none => none
  | some none => some (.literal .string .null)
  | some (some joined) =>
    if joined.length = operands.length then none
    else match joined with
      | [single] => some (.tree single)
      | _ => some (.operands joined)

/-- What the operator makes of its operands before a document is known. -/
def OperatorKind.fold? (operator : OperatorKind) (operands : List Tree) : Option Folded :=
  match operator with
  | .or => foldConnective? true operands
  | .and => foldConnective? false operands
  | .addition => foldAddition? operands
  | .concatenation => foldConcatenation? operands
  | .subtraction sum opposite => foldSubtraction? sum opposite operands
  | .multiplication => foldMultiplication? operands
  | .division product => foldDivision? product operands
  | .not | .comparison _ | .square | .negation =>
    foldConstant? (operator.resultKind (Tree.kinds operands)) operator.apply operands

end Reckoner
