import Reckoner.Number.Double

/-! # The fewest digits that read back

The reals that round to a finite double form an interval, whose ends belong to it exactly when the
significand is even. The digits selected here name a decimal of that interval on the coarsest
decimal grid that has one, and of two such decimals the one nearer to the double. All tests are
comparisons of natural numbers.
-/

namespace Reckoner

/-- The number `digits * 10 ^ exponent`. -/
structure Decimal where
  digits : Nat
  exponent : Int
deriving DecidableEq

/-- Which of two equally near decimals is taken. -/
inductive Tie where
  | upward
  | toEven
deriving DecidableEq

namespace Decimal

/-- The order of `left * 10 ^ ten` and `right * 2 ^ two`. -/
def orderScaled (left : Nat) (ten : Int) (right : Nat) (two : Int) : Ordering :=
  compare (left * Nat.pow 10 ten.toNat * Nat.pow 2 (-two).toNat)
    (right * Nat.pow 2 two.toNat * Nat.pow 10 (-ten).toNat)

/-- The decimal without trailing zeros in its digits, after at most `steps` divisions. -/
def stripWithin : (steps : Nat) → Decimal → Decimal
  | 0, decimal => decimal
  | steps + 1, decimal =>
    if decimal.digits % 10 = 0 ∧ decimal.digits ≠ 0 then
      stripWithin steps ⟨decimal.digits / 10, decimal.exponent + 1⟩
    else decimal

end Decimal

namespace Double

/-- The neighbour below is half as far away as the neighbour above. -/
def narrowBelow (x : Double) : Bool :=
  x.magnitude % exponentUnit == 0 && 1 < x.magnitude / exponentUnit

/-- The decimal lies among the reals that round to the size of `x`. -/
def readsBack (x : Double) (decimal : Decimal) : Bool :=
  let low := 4 * x.significand - (if x.narrowBelow then 1 else 2)
  let high := 4 * x.significand + 2
  let closed := x.significand % 2 == 0
  let atLow := Decimal.orderScaled decimal.digits decimal.exponent low (x.exponent - 2)
  let atHigh := Decimal.orderScaled decimal.digits decimal.exponent high (x.exponent - 2)
  (atLow == .gt || (closed && atLow == .eq)) && (atHigh == .lt || (closed && atHigh == .eq))

/-- The least power of ten above the size of a non-zero `x`, up from an estimate by logarithms. -/
def decimalScale (x : Double) : Int :=
  let estimate := Int.fdiv ((x.significand.log2 + x.exponent) * 1233) 4096 - 1
  let candidates := (List.range 4).map fun (step : Nat) => estimate + step
  (candidates.find? fun scale =>
    Decimal.orderScaled 1 scale x.significand x.exponent == .gt).getD (estimate + 4)

/-- The size of `x` counted in units of `10 ^ exponent`, rounded down. -/
def floorOnGrid (x : Double) (exponent : Int) : Nat :=
  x.significand * Nat.pow 2 x.exponent.toNat * Nat.pow 10 (-exponent).toNat /
    (Nat.pow 2 (-x.exponent).toNat * Nat.pow 10 exponent.toNat)

/-- The decimal of the grid that reads back, the nearer one if both neighbours do. -/
def onGrid? (tie : Tie) (x : Double) (exponent : Int) : Option Decimal :=
  let below : Decimal := ⟨x.floorOnGrid exponent, exponent⟩
  let above : Decimal := ⟨x.floorOnGrid exponent + 1, exponent⟩
  match x.readsBack below, x.readsBack above with
  | true, false => some below
  | false, true => some above
  | false, false => none
  | true, true =>
    match Decimal.orderScaled (below.digits + above.digits) exponent (2 * x.significand)
        x.exponent, tie with
    | .gt, _ => some below
    | .lt, _ => some above
    | .eq, .upward => some above
    | .eq, .toEven => if below.digits % 2 = 0 then some below else some above

/-- The size of a finite value as an exact decimal. -/
def exactDecimal (x : Double) : Decimal :=
  if 0 ≤ x.exponent then ⟨x.significand * Nat.pow 2 x.exponent.toNat, 0⟩
  else ⟨x.significand * Nat.pow 5 (-x.exponent).toNat, x.exponent⟩

/-- The shortest decimal that reads back as the size of a finite value. Seventeen digits suffice;
the exact value stands in for a search without result. -/
def shortest (tie : Tie) (x : Double) : Decimal :=
  if x.isZero then ⟨0, 0⟩
  else
    let grids := (List.range 17).map fun (count : Nat) => x.decimalScale - (count + 1)
    Decimal.stripWithin 800 ((grids.findSome? (x.onGrid? tie)).getD x.exactDecimal)

end Double

end Reckoner
