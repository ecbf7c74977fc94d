import Reckoner.Number.Numeral
import Reckoner.Number.Shortest

/-! # Decimal layout

How selected digits become text: positionally, with the point after, inside or before the digits, or
with one digit in front of the point and an exponent. Each output format is one value of
`Layout`.
-/

namespace Reckoner

/-- The decisions of a textual form of doubles. -/
structure Layout where
  /-- Leading digits of these exponents are written positionally. -/
  positional : Int → Bool
  /-- An integral value written positionally shows a point and a zero. -/
  pointZero : Bool
  /-- An exponent that is not negative shows a plus sign. -/
  plusSign : Bool
  /-- The choice between two equally near decimals. -/
  tie : Tie

namespace Layout

/-- As many zeros as the integer says, none for a negative one. -/
def zeros (count : Int) : List Char := List.replicate count.toNat '0'

/-- Digits and a place for the point: after `point` digits, which may lie outside of them. -/
def positionalText (layout : Layout) (digits : List Char) (point : Int) : List Char :=
  if point ≤ 0 then '0' :: '.' :: zeros (-point) ++ digits
  else if digits.length ≤ point then
    digits ++ zeros (point - digits.length) ++ (if layout.pointZero then ['.', '0'] else [])
  else digits.take point.toNat ++ '.' :: digits.drop point.toNat

/-- One digit, the others behind a point, and the exponent. -/
def scientificText (layout : Layout) (digits : List Char) (exponent : Int) : List Char :=
  let sign := if layout.plusSign ∧ 0 ≤ exponent then ['+'] else []
  digits.take 1 ++ (if digits.length ≤ 1 then [] else '.' :: digits.drop 1) ++
    'e' :: sign ++ Numeral.ofInt 10 exponent

/-- The text of a non-negative decimal. -/
def decimalText (layout : Layout) (decimal : Decimal) : List Char :=
  let digits := Numeral.ofNat 10 decimal.digits
  let leading := decimal.exponent + digits.length - 1
  if layout.positional leading then layout.positionalText digits (leading + 1)
  else layout.scientificText digits leading

/-- The text of a double. A NaN shows no sign. -/
def text (layout : Layout) (x : Double) : List Char :=
  if x.isNaN then ['N', 'a', 'N']
  else
    let size := if x.isInfinite then ['i', 'n', 'f'] else layout.decimalText (x.shortest layout.tie)
    if x.isNegative then '-' :: size else size

end Layout

end Reckoner
