import Reckoner.Number.Long

/-! # Numerals in a radix

Positional numerals with the digits `0` to `9` and then the letters of the alphabet. Writing uses
capital letters and no superfluous zero; reading takes letters of either case and an optional sign.
-/

namespace Reckoner

namespace Numeral

/-- The digits of `n`, least significant first, found in at most `steps` divisions. -/
def digitsWithin (radix : Nat) : (steps n : Nat) → List Nat
  | 0, _ => []
  | steps + 1, n => if n < radix then [n] else n % radix :: digitsWithin radix steps (n / radix)

/-- The digits of `n`, most significant first. -/
def digits (radix n : Nat) : List Nat := (digitsWithin radix (n + 1) n).reverse

def digitChar (digit : Nat) : Char :=
  if digit < 10 then Char.ofNat (48 + digit) else Char.ofNat (55 + digit)

def ofNat (radix n : Nat) : List Char := (digits radix n).map digitChar

def ofInt (radix : Nat) (n : Int) : List Char :=
  if n < 0 then '-' :: ofNat radix n.natAbs else ofNat radix n.natAbs

/-- The value of a digit or letter, below thirty-six. -/
def digitValue? (c : Char) : Option Nat :=
  if '0' ≤ c ∧ c ≤ '9' then some (c.toNat - 48)
  else if 'A' ≤ c ∧ c ≤ 'Z' then some (c.toNat - 55)
  else if 'a' ≤ c ∧ c ≤ 'z' then some (c.toNat - 87)
  else none

/-- The value of `text` read after the digits that made `value`. -/
def readOnto? (radix value : Nat) : List Char → Option Nat
  | [] => some value
  | c :: rest => do
    let digit ← digitValue? c
    if digit < radix then readOnto? radix (value * radix + digit) rest else none

def readNat? (radix : Nat) (text : List Char) : Option Nat :=
  if text.isEmpty then none else readOnto? radix 0 text

def readInt? (radix : Nat) : List Char → Option Int
  | '-' :: rest => (readNat? radix rest).map fun n => -(n : Int)
  | '+' :: rest => (readNat? radix rest).map Int.ofNat
  | text => (readNat? radix text).map Int.ofNat

/-- The radix itself where there are digits for it, and ten otherwise. -/
def usableRadix (radix : Nat) : Nat := if 2 ≤ radix ∧ radix ≤ 36 then radix else 10

end Numeral

namespace Long

/-- A long in the given radix, or in decimal when the radix is unusable. -/
def numeral (radix : Nat) (long : Long) : List Char :=
  Numeral.ofInt (Numeral.usableRadix radix) long.val

def ofNumeral? (radix : Nat) (text : List Char) : Option Long := do
  ofInt? (← Numeral.readInt? (Numeral.usableRadix radix) text)

def toText (long : Long) : String := String.ofList (long.numeral 10)

end Long

end Reckoner
