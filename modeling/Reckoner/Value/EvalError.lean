import Reckoner.Json.Print
import Reckoner.Value.Basic

/-! # Failures of evaluation

Why an expression has no value: a value of the wrong kind, a number beyond the longs, or an input
that the evaluation was not given.
-/

namespace Reckoner

/-- The cause of a failed evaluation. -/
inductive EvalError where
  /-- A value cannot become one of this kind. -/
  | inconvertible (value : Value) (kind : Kind)
  /-- A double is too large for any long, or no number at all. -/
  | unroundable (value : Double)
  /-- A part of the document is no value of this kind. -/
  | unreadable (part : Json) (kind : Kind)
  /-- A result lies beyond the longs. -/
  | overflow
  /-- An input is read without a document. -/
  | noDocument (pointer : String)

namespace EvalError

/-- Plain doubles are positional throughout and show no superfluous point. -/
def plainLayout : Layout where
  positional _ := true
  pointZero := false
  plusSign := false
  tie := .upward

def message : EvalError → String
  | inconvertible value kind => "Cannot convert " ++ value.shown ++ " to " ++ kind.name
  | unroundable value =>
    "Cannot convert " ++ String.ofList (plainLayout.text value) ++ " to " ++ Kind.name .long
  | unreadable part kind =>
    "Cannot convert " ++ String.ofList part.compact ++ " to " ++ kind.name
  | overflow => "Integer overflow"
  | noDocument pointer =>
    "Invalid evaluation context: " ++ pointer ++ " expects a JSON document"

end EvalError

end Reckoner
