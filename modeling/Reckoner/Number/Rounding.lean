import Reckoner.Number.Double

/-! # The nearest double

The one step from exact numbers to doubles. A quotient of natural numbers is counted in units of the
grid on which the doubles of its size lie and rounded to a natural number of them, to an even one
where two are equally near. Magnitudes continue from one grid to the next, so that a count which
rounds up to the end of its grid needs no care, and what lies beyond all of them is infinite.
-/

namespace Reckoner

/-- The natural number nearest to a quotient, the even one of two that are equally near. -/
def roundedQuotient (numerator denominator : Nat) : Nat :=
  let below := numerator / denominator
  match compare (2 * (numerator % denominator)) denominator with
  | .lt => below
  | .eq => below + below % 2
  | .gt => below + 1

namespace Double

/-- The greatest power of two that does not exceed a positive quotient. -/
def quotientLog2 (numerator denominator : Nat) : Int :=
  let estimate := (numerator.log2 : Int) - denominator.log2
  if numerator * Nat.pow 2 (-estimate).toNat < denominator * Nat.pow 2 estimate.toNat then
    estimate - 1
  else estimate

/-- The power of two that is the unit of the doubles around a positive quotient: significands have
53 bits, as far as there are powers small enough. -/
def gridExponent (numerator denominator : Nat) : Int :=
  max (quotientLog2 numerator denominator - 52) (-1074)

/-- The double nearest to a quotient. -/
def nearest (numerator denominator : Nat) : Double :=
  if numerator = 0 then zero
  else
    let exponent := gridExponent numerator denominator
    let count := roundedQuotient (numerator * Nat.pow 2 (-exponent).toNat)
      (denominator * Nat.pow 2 exponent.toNat)
    ⟨UInt64.ofNat (min infinityMagnitude ((exponent + 1074).toNat * exponentUnit + count))⟩

def ofInt (n : Int) : Double :=
  let size := nearest n.natAbs 1
  if n < 0 then size.neg else size

def ofLong (long : Long) : Double := ofInt long.val

end Double

end Reckoner
