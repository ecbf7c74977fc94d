import Reckoner.Number.Numeral
import Reckoner.Number.Rounding

/-! # Reading decimals

A decimal is an optional sign, digits with at most one point among them, and an optional exponent;
infinities and NaN are spelled out. The double read is the one nearest to the decimal.
-/

namespace Reckoner

/-- ASCII digits in front of a text, and what follows them. -/
def spanDigits (text : List Char) : List Char × List Char :=
  (text.takeWhile Char.isDigit, text.dropWhile Char.isDigit)

/-- The number that a run of ASCII digits denotes; no digits denote zero. -/
def digitsValue (digits : List Char) : Nat :=
  digits.foldl (fun value c => value * 10 + (c.toNat - 48)) 0

namespace Double

/-- The double nearest to `digits * 10 ^ exponent`. Beyond the range of all doubles the answer is
known without the power of ten. -/
def ofDecimal (digits : Nat) (exponent : Int) : Double :=
  if digits = 0 then zero
  else
    let size := (Numeral.ofNat 10 digits).length + exponent
    if size < -400 then zero
    else if 400 < size then infinity
    else nearest (digits * Nat.pow 10 exponent.toNat) (Nat.pow 10 (-exponent).toNat)

/-- The exponent after a mark, with an optional sign and at least one digit to the end. -/
def readExponent? (text : List Char) : Option Int :=
  let value? (digits : List Char) : Option Int :=
    if !digits.isEmpty && digits.all Char.isDigit then some (digitsValue digits : Int) else none
  match text with
  | '-' :: rest => (value? rest).map (- ·)
  | '+' :: rest => value? rest
  | rest => value? rest

/-- A decimal without sign: digits before or after a point, then perhaps an exponent. -/
def readDecimal? (text : List Char) : Option Double := do
  let (whole, afterWhole) := spanDigits text
  let (fraction, rest) := match afterWhole with
    | '.' :: more => spanDigits more
    | _ => ([], afterWhole)
  if whole.isEmpty && fraction.isEmpty then none
  else
    let exponent ← match rest with
      | [] => some 0
      | mark :: more => if mark = 'e' ∨ mark = 'E' then readExponent? more else none
    some (ofDecimal (digitsValue (whole ++ fraction)) (exponent - fraction.length))

/-- A number, an infinity or NaN, without sign. -/
def readSize? (text : List Char) : Option Double :=
  let spelling := text.map Char.toLower
  if spelling = ['n', 'a', 'n'] then some nan
  else if spelling = ['i', 'n', 'f'] ∨ spelling = ['i', 'n', 'f', 'i', 'n', 'i', 't', 'y'] then
    some infinity
  else readDecimal? text

/-- The double that a text denotes. A minus sign flips the sign bit, that of a NaN too. -/
def read? : List Char → Option Double
  | '-' :: rest => (readSize? rest).map neg
  | '+' :: rest => readSize? rest
  | text => readSize? text

end Double

end Reckoner
