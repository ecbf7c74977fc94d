import Reckoner.Calendar.Iso
import Reckoner.Kind
import Reckoner.Number.Layout
import Reckoner.Number.Rounding
import Reckoner.Text.Quoted

/-! # Values

What expressions evaluate to. Null is a value without a kind of its own to offer: an expression
declared to be of any kind may turn out to be null.
-/

namespace Reckoner

/-- An evaluated expression. -/
inductive Value where
  | null
  | boolean (value : Bool)
  | long (value : Long)
  | double (value : Double)
  | date (value : Date)
  | time (value : Time)
  | dateTime (value : DateTime)
  | string (value : String)
deriving DecidableEq

instance : Inhabited Value := ⟨.null⟩

namespace Value

def kind : Value → Kind
  | null => .null
  | boolean _ => .boolean
  | long _ => .long
  | double _ => .double
  | date _ => .date
  | time _ => .time
  | dateTime _ => .dateTime
  | string _ => .string

def isNull : Value → Bool
  | null => true
  | _ => false

def isZero : Value → Bool
  | long value => value.val == 0
  | double value => value.isZero
  | _ => false

/-- The value is null or the number zero. -/
def isNothing (value : Value) : Bool := value.isNull || value.isZero

def isOne : Value → Bool
  | long value => value.val == 1
  | double value => value.bits == Double.one.bits
  | _ => false

def truth? : Value → Option Bool
  | boolean value => some value
  | _ => none

def long? : Value → Option Long
  | long value => some value
  | _ => none

/-- The number as a double. -/
def double? : Value → Option Double
  | long value => some (Double.ofLong value)
  | double value => some value
  | _ => none

def text? : Value → Option String
  | string value => some value
  | _ => none

/-- In messages, doubles are positional from four places behind the point up to sixteen digits. -/
def messageLayout : Layout where
  positional exponent := -4 ≤ exponent && exponent < 16
  pointZero := true
  plusSign := false
  tie := .upward

/-- The value as messages name it: its kind and its content. -/
def shown : Value → String
  | null => "Null"
  | boolean value => "Boolean(" ++ toString value ++ ")"
  | long value => "Long(" ++ value.toText ++ ")"
  | double value => "Double(" ++ String.ofList (messageLayout.text value) ++ ")"
  | date value => "Date(" ++ String.ofList value.iso ++ ")"
  | time value => "Time(" ++ String.ofList value.iso ++ ")"
  | dateTime value => "DateTime(" ++ String.ofList value.iso ++ ")"
  | string value => "String(" ++ Text.quoted value ++ ")"

theorem isNull_iff (value : Value) : value.isNull = true ↔ value = .null := by
  cases value <;> simp [isNull]

end Value

end Reckoner
