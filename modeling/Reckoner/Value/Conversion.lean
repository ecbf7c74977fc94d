import Reckoner.Value.EvalError

/-! # Coercion of values

A value becomes one of another kind only along the coercions between kinds: a long turns into the
nearest double, a date into its midnight, a time into that time of the first day of 1970, and null
stays null. The content of a coerced value is always of the kind asked for, or null.
-/

namespace Reckoner

namespace Value

/-- The value, declared to be of the kind `declared`, as one of the kind `kind`. -/
def convert (kind : Kind) (value : Value) (declared : Kind) : Except EvalError Value :=
  if kind.takes declared then
    match kind, value with
    | _, .null => .ok .null
    | .double, .long n => .ok (.double (Double.ofLong n))
    | .dateTime, .date day => .ok (.dateTime ⟨day, Time.midnight⟩)
    | .dateTime, .time clock => .ok (.dateTime ⟨Date.epoch, clock⟩)
    | kind, value => if value.kind = kind then .ok value else .error (.inconvertible value kind)
  else .error (.inconvertible value kind)

def coerce (kind : Kind) (value : Value) : Except EvalError Value := value.convert kind value.kind

/-- The value as a long, which null is not. -/
def asLong (value : Value) : Except EvalError Long := do
  let coerced ← value.coerce .long
  match coerced.long? with
  | some n => .ok n
  | none => .error (.inconvertible coerced .long)

def asDouble (value : Value) : Except EvalError Double := do
  let coerced ← value.coerce .double
  match coerced.double? with
  | some x => .ok x
  | none => .error (.inconvertible coerced .double)

/-- The truth value, unknown for null. -/
def asTruth (value : Value) : Except EvalError (Option Bool) :=
  (value.coerce .boolean).map truth?

/-- The text, missing for null. -/
def asText (value : Value) : Except EvalError (Option String) :=
  (value.coerce .string).map text?

/-- A value is coerced into its own kind unchanged. -/
theorem coerce_kind (value : Value) : value.coerce value.kind = .ok value := by
  cases value <;> rfl

/-- Null is coerced into every kind. -/
theorem coerce_null (kind : Kind) : Value.null.coerce kind = .ok .null := by cases kind <;> rfl

end Value

end Reckoner
