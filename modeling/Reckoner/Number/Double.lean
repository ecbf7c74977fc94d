import Reckoner.Number.Long

/-! # Doubles

Binary floating-point numbers of 64 bits, kept as their bit patterns so that both zeros and NaNs of
either sign stay apart. Order and the tests for special values are decided on the bits; sums,
products, quotients and roots are those of the core library's floats, each rounded once.

Patterns keep the sign of a NaN where they are copied, negated or ordered. The standard for floating-point
arithmetic leaves open which NaN an operation answers that has no number to answer, its sign included.
Here it is always the quiet positive one, so the root of minus one is ordered above all numbers; on a
machine that answers a negative NaN it would be ordered below them.
-/

namespace Reckoner

/-- A binary64 bit pattern. -/
structure Double where
  bits : UInt64
deriving DecidableEq

namespace Double

/-- The bit pattern without its sign. -/
def magnitude (x : Double) : Nat := x.bits.toNat % 9223372036854775808

/-- The sign bit is set. -/
def isNegative (x : Double) : Bool := 9223372036854775808 ≤ x.bits.toNat

/-- The magnitude of both infinities; larger magnitudes are NaNs. -/
def infinityMagnitude : Nat := 0x7FF0000000000000

def isNaN (x : Double) : Bool := infinityMagnitude < x.magnitude

def isInfinite (x : Double) : Bool := x.magnitude == infinityMagnitude

def isFinite (x : Double) : Bool := x.magnitude < infinityMagnitude

/-- The value is zero, of either sign. -/
def isZero (x : Double) : Bool := x.magnitude == 0

/-- The signed magnitude. Both zeros share it, negative NaNs lie below the negative infinity and
positive NaNs above the positive one. -/
def rank (x : Double) : Int := if x.isNegative then -(x.magnitude : Int) else x.magnitude

def order (left right : Double) : Ordering := compare left.rank right.rank

/-- The float of the bit pattern. All NaNs are one float. -/
def toFloat (x : Double) : Float := Float.ofBits x.bits

def ofFloat (x : Float) : Double := ⟨x.toBits⟩

/-- The pattern with the sign bit flipped. -/
def neg (x : Double) : Double := ⟨x.bits ^^^ 0x8000000000000000⟩

/-- The pattern with the sign bit cleared. -/
def abs (x : Double) : Double := ⟨x.bits &&& 0x7FFFFFFFFFFFFFFF⟩

def add (left right : Double) : Double := ofFloat (left.toFloat + right.toFloat)

def sub (left right : Double) : Double := ofFloat (left.toFloat - right.toFloat)

def mul (left right : Double) : Double := ofFloat (left.toFloat * right.toFloat)

def div (left right : Double) : Double := ofFloat (left.toFloat / right.toFloat)

def sqrt (x : Double) : Double := ofFloat x.toFloat.sqrt

def zero : Double := ⟨0⟩

def one : Double := ⟨0x3FF0000000000000⟩

/-- The positive quiet NaN. -/
def nan : Double := ⟨0x7FF8000000000000⟩

def infinity : Double := ⟨0x7FF0000000000000⟩

/-- The ratio of a circle's circumference to its diameter, rounded. -/
def pi : Double := ⟨0x400921FB54442D18⟩

/-- The base of the natural logarithm, rounded. -/
def e : Double := ⟨0x4005BF0A8B145769⟩

/-- The weight of the exponent in a magnitude: 2^52. -/
def exponentUnit : Nat := 4503599627370496

/-- The fraction of a finite value as a natural number. -/
def significand (x : Double) : Nat :=
  if x.magnitude / exponentUnit = 0 then x.magnitude % exponentUnit
  else exponentUnit + x.magnitude % exponentUnit

/-- The power of two that scales the significand of a finite value. -/
def exponent (x : Double) : Int :=
  if x.magnitude / exponentUnit = 0 then -1074 else (x.magnitude / exponentUnit : Nat) - 1075

/-- The size of a finite value rounded to a natural number, halves upward. -/
def roundedSize (x : Double) : Nat :=
  if 0 ≤ x.exponent then x.significand * Nat.pow 2 x.exponent.toNat
  else
    let shift := (-x.exponent).toNat
    (2 * x.significand + Nat.pow 2 shift) / Nat.pow 2 (shift + 1)

/-- A finite value rounded to an integer, halves away from zero. -/
def round (x : Double) : Int := if x.isNegative then -(x.roundedSize : Int) else x.roundedSize

/-- The rounded value as a long, when it is finite and within the bounds. -/
def round? (x : Double) : Option Long := if x.isFinite then Long.ofInt? x.round else none

end Double

end Reckoner
