import Reckoner.Calendar.Iso
import Reckoner.Operator.Basic

/-! # Functions

What functions there are. The function that tells the time holds the instant at which it was made
and answers that instant forever.
-/

namespace Reckoner

/-- What a function does. -/
inductive FunctionKind where
  /-- The second or third operand, as the first decides. -/
  | conditional
  /-- The operand is null. -/
  | isNull
  /-- The first operand that is not null. -/
  | noNull
  /-- The operand, or null for zero. -/
  | noZero
  /-- The hexadecimal numeral of a long. -/
  | hexadecimal
  | squareRoot
  /-- The name of the kind of a value. -/
  | kindName
  /-- All operands evaluate without failure. -/
  | evaluates
  | now (instant : DateTime)
  | absolute
  /-- The nearest integer, halves away from zero. -/
  | round
  | least
  | greatest
  /-- The number of characters of a text. -/
  | length
  | upper
  | lower
deriving DecidableEq

namespace FunctionKind

def shown : FunctionKind → String
  | conditional => "If"
  | isNull => "IsNull"
  | noNull => "NoNull"
  | noZero => "NoZero"
  | hexadecimal => "Hexa"
  | squareRoot => "Sqrt"
  | kindName => "Type"
  | evaluates => "Calculate"
  | now instant => "DateFunction \x7b now: " ++ String.ofList instant.iso ++ " \x7d"
  | absolute => "Abs"
  | round => "Round"
  | least => "Extremum \x7b wanted: Less \x7d"
  | greatest => "Extremum \x7b wanted: Greater \x7d"
  | length => "Length"
  | upper => "ChangeCase \x7b case: Upper \x7d"
  | lower => "ChangeCase \x7b case: Lower \x7d"

end FunctionKind

structure Function where
  tag : Tag
  kind : FunctionKind
deriving DecidableEq

end Reckoner
