import Reckoner.Calendar.Pattern.Read
import Reckoner.Value.Basic

/-! # Values by pattern

Dates, times and moments in the form that a pattern prescribes. A pattern is bound to one of the
three temporal kinds: it writes and reads no value of another kind, and what it reads is the whole
text or nothing.
-/

namespace Reckoner

namespace Value

/-- A pattern that has items, each of them known. -/
def isPattern (pattern : String) : Bool :=
  !pattern.isEmpty && (PatternItem.ofPattern? pattern.toList).isSome

/-- The text of a value of kind `kind` in the form of the pattern. -/
def byPattern? (kind : Kind) (pattern : String) (value : Value) : Option (List Char) := do
  let items ← PatternItem.ofPattern? pattern.toList
  match kind, value with
  | .date, .date day => PatternItem.printAll? items (some day) none
  | .time, .time clock => PatternItem.printAll? items none (some clock)
  | .dateTime, .dateTime moment => PatternItem.printAll? items (some moment.date) (some moment.time)
  | _, _ => none

/-- The value of kind `kind` that a text in the form of the pattern denotes. -/
def ofPattern? (kind : Kind) (pattern : String) (text : List Char) : Option Value := do
  let items ← PatternItem.ofPattern? pattern.toList
  let fields ← PatternItem.readAll? items text
  match kind with
  | .date => fields.date.toOption.map .date
  | .time => fields.time.toOption.map .time
  | .dateTime => fields.moment?.map .dateTime
  | _ => none

end Value

end Reckoner
